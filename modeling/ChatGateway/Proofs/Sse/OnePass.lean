import Mathlib
import ChatGateway.Sse.Reader

/-!
# A body read in one pass

What a reply consists of does not depend on how its body is cut into reads.  The reader
keeps a buffer, a queue and a flag between reads; here the same items are computed from
the whole body at once: it is split at its line feeds, the complete lines that are no text
are dropped, what stands after the last line feed is read with replacement, and the lines
are followed until one of them ends the reply.

The bridge is one equation (`items_eq_onePass`): whatever a reader has queued, followed by
what the one pass makes of the bytes still to be handled, is what the reader hands out.
-/

set_option autoImplicit false

namespace ChatGateway.Sse

/-- The items that lines carry, up to the line that ends the reply. -/
def lineItems : List String → List Item
  | [] => []
  | line :: lines =>
    match Event.ofLine line with
    | none => lineItems lines
    | some .finish => []
    | some (.chunk c) => .ok c :: if c.isTerminal then [] else lineItems lines
    | some (.malformed detail) => [.error (.malformed detail)]

/-- The text of a complete line, without blanks around it, if it is text. -/
def lineText? (bytes : List UInt8) : Option String :=
  (Text.Utf8.decode? bytes).map fun cs => String.ofList (Text.trimChars cs)

/-- The text of the bytes that no line feed ends, without blanks around it. -/
def tailText (bytes : List UInt8) : String :=
  String.ofList (Text.trimChars (Text.Utf8.decodeLossy bytes))

/-- The lines of a body: those that a line feed ends, as far as they are text, and what
comes after the last line feed. -/
def bodyLines (body : List UInt8) : List String :=
  (body.splitOn 10).dropLast.filterMap lineText? ++ [tailText ((body.splitOn 10).getLastD [])]

/-- The items of the reply that a body carries, read in one pass. -/
def onePass (body : List UInt8) : List Item :=
  lineItems (bodyLines body)

/-! ## Lines -/

/-- Bytes up to a line feed are the first piece. -/
theorem splitOn_line {line : List UInt8} (whole : 10 ∉ line) (rest : List UInt8) :
    (line ++ 10 :: rest).splitOn 10 = line :: rest.splitOn 10 := by
  rw [List.splitOn_append_cons_self, List.splitOn_eq_singleton whole, List.singleton_append]

/-- A split at the first line feed leaves the other pieces to what follows it. -/
theorem splitOn_of_splitLine {bytes line rest : List UInt8}
    (h : splitLine bytes = some (line, rest)) :
    bytes.splitOn 10 = line :: rest.splitOn 10 := by
  obtain ⟨rfl, whole⟩ := (splitLine_eq_some_iff bytes line rest).1 h
  exact splitOn_line whole rest

/-- Bytes hold no line feed, or are a line and what follows it. -/
@[elab_as_elim]
theorem byLines {motive : List UInt8 → Prop} (last : ∀ bytes, 10 ∉ bytes → motive bytes)
    (line : ∀ line rest, 10 ∉ line → motive rest → motive (line ++ 10 :: rest))
    (bytes : List UInt8) : motive bytes := by
  induction hn : bytes.length using Nat.strong_induction_on generalizing bytes with
  | _ n ih =>
    cases h : splitLine bytes with
    | none => exact last bytes ((splitLine_eq_none_iff bytes).1 h)
    | some split =>
      obtain ⟨front, rest⟩ := split
      obtain ⟨rfl, hfront⟩ := (splitLine_eq_some_iff bytes front rest).1 h
      refine line front rest hfront (ih rest.length ?_ rest rfl)
      rw [List.length_append, List.length_cons] at hn
      omega

/-- The pieces of a body that starts with `bytes`: the complete lines of `bytes`, and the
pieces of what comes after them. -/
theorem splitOn_append (bytes more : List UInt8) :
    (bytes ++ more).splitOn 10 =
      (bytes.splitOn 10).dropLast ++ ((bytes.splitOn 10).getLastD [] ++ more).splitOn 10 := by
  induction bytes using byLines with
  | last bytes whole =>
    rw [List.splitOn_eq_singleton whole]
    simp
  | line line rest whole ih =>
    obtain ⟨piece, pieces, hpieces⟩ := List.exists_cons_of_ne_nil (List.splitOn_ne_nil 10 rest)
    rw [List.append_assoc, List.cons_append, splitOn_line whole, ih, splitOn_line whole, hpieces]
    simp

/-- Draining takes the pieces that a line feed ends and leaves the last one. -/
theorem drainFrom_eq (fuel : Nat) (bytes : List UInt8) (h : bytes.length ≤ fuel) :
    LineBuffer.drainFrom fuel ⟨bytes⟩ =
      ((bytes.splitOn 10).dropLast.map Line.ofBytes, ⟨(bytes.splitOn 10).getLastD []⟩) := by
  induction fuel generalizing bytes with
  | zero =>
    obtain rfl : bytes = [] := List.length_eq_zero_iff.1 (Nat.le_zero.1 h)
    simp [LineBuffer.drainFrom]
  | succ fuel ih =>
    cases hs : splitLine bytes with
    | none =>
      rw [List.splitOn_eq_singleton ((splitLine_eq_none_iff bytes).1 hs)]
      simp [LineBuffer.drainFrom, LineBuffer.next, hs]
    | some split =>
      obtain ⟨line, rest⟩ := split
      have hlength : rest.length ≤ fuel := by
        obtain ⟨rfl, -⟩ := (splitLine_eq_some_iff bytes line rest).1 hs
        simp only [List.length_append, List.length_cons] at h
        omega
      obtain ⟨piece, pieces, hpieces⟩ := List.exists_cons_of_ne_nil (List.splitOn_ne_nil 10 rest)
      rw [splitOn_of_splitLine hs]
      simp [LineBuffer.drainFrom, LineBuffer.next, hs, ih rest hlength, hpieces]

/-- Draining a buffer takes all pieces but the last. -/
theorem drain_eq (bytes : List UInt8) :
    LineBuffer.drain ⟨bytes⟩ =
      ((bytes.splitOn 10).dropLast.map Line.ofBytes, ⟨(bytes.splitOn 10).getLastD []⟩) :=
  drainFrom_eq bytes.length bytes le_rfl

/-- What is left after the last line feed holds none. -/
theorem not_mem_getLastD_splitOn (bytes : List UInt8) :
    10 ∉ (bytes.splitOn 10).getLastD [] := by
  induction bytes using byLines with
  | last bytes whole =>
    rw [List.splitOn_eq_singleton whole]
    exact whole
  | line line rest whole ih =>
    obtain ⟨piece, pieces, hpieces⟩ := List.exists_cons_of_ne_nil (List.splitOn_ne_nil 10 rest)
    rw [splitOn_line whole]
    simpa [hpieces] using ih

/-- A body without a line feed is one line. -/
theorem bodyLines_of_not_mem {bytes : List UInt8} (h : 10 ∉ bytes) :
    bodyLines bytes = [tailText bytes] := by
  simp [bodyLines, List.splitOn_eq_singleton h]

/-- The lines that a line feed ends, as far as they are text. -/
def completeLines (bytes : List UInt8) : List String :=
  (bytes.splitOn 10).dropLast.filterMap lineText?

/-- What stands after the last line feed. -/
def lastLine (bytes : List UInt8) : List UInt8 :=
  (bytes.splitOn 10).getLastD []

/-- The lines of a body are those that are complete and the rest. -/
theorem bodyLines_eq (body : List UInt8) :
    bodyLines body = completeLines body ++ [tailText (lastLine body)] := rfl

/-- The last piece is the last line. -/
theorem splitOn_eq_concat (bytes : List UInt8) :
    bytes.splitOn 10 = (bytes.splitOn 10).dropLast ++ [lastLine bytes] := by
  have hne := List.splitOn_ne_nil 10 bytes
  rw [lastLine, List.getLastD_eq_getLast?, List.getLast?_eq_some_getLast hne, Option.getD_some,
    List.dropLast_append_getLast]

/-- Lines that are complete stay so, and what comes after them is completed by what follows. -/
theorem completeLines_append (bytes more : List UInt8) :
    completeLines (bytes ++ more) =
      completeLines bytes ++ completeLines (lastLine bytes ++ more) := by
  unfold completeLines
  rw [splitOn_append, List.dropLast_append_of_ne_nil (List.splitOn_ne_nil 10 _),
    List.filterMap_append]
  rfl

/-- The last line grows by what comes. -/
theorem lastLine_append (bytes more : List UInt8) :
    lastLine (bytes ++ more) = lastLine (lastLine bytes ++ more) := by
  unfold lastLine
  rw [splitOn_append, splitOn_eq_concat (_ ++ more)]
  simp [List.getLastD_eq_getLast?]

/-- The lines of a body that starts with `bytes`. -/
theorem bodyLines_append (bytes more : List UInt8) :
    bodyLines (bytes ++ more) =
      (bytes.splitOn 10).dropLast.filterMap lineText? ++
        bodyLines ((bytes.splitOn 10).getLastD [] ++ more) := by
  show _ = completeLines bytes ++ bodyLines (lastLine bytes ++ more)
  rw [bodyLines_eq, completeLines_append, lastLine_append, List.append_assoc, ← bodyLines_eq]

/-- Splitting at line feeds gives one piece more than there are line feeds. -/
theorem length_splitOn (bytes : List UInt8) :
    (bytes.splitOn 10).length = bytes.count 10 + 1 := by
  induction bytes using byLines with
  | last bytes whole =>
    rw [List.splitOn_eq_singleton whole, List.count_eq_zero.2 whole]
    rfl
  | line line rest whole ih =>
    rw [splitOn_line whole, List.length_cons, ih, List.count_append, List.count_eq_zero.2 whole,
      List.count_cons_self]
    omega

/-- There are at most as many complete lines as line feeds. -/
theorem length_completeLines_le (bytes : List UInt8) :
    (completeLines bytes).length ≤ bytes.count 10 := by
  have hlines := List.length_filterMap_le lineText? (bytes.splitOn 10).dropLast
  rw [List.length_dropLast, length_splitOn] at hlines
  exact hlines

/-! ## Lines that end the reply -/

/-- Whether nothing comes after an event. -/
def Event.isFinal : Event → Bool
  | .chunk c => c.isTerminal
  | .finish => true
  | .malformed _ => true

/-- The item that an event is handed out as. -/
def Event.item? : Event → Option Item
  | .chunk c => some (.ok c)
  | .finish => none
  | .malformed detail => some (.error (.malformed detail))

/-- Whether a reply ends with a line. -/
def endsReply (line : String) : Bool :=
  (Event.ofLine line).any Event.isFinal

/-- The item of a line, if it has one. -/
def itemOf? (line : String) : Option Item :=
  (Event.ofLine line).bind Event.item?

/-- The items of some lines are those of the first, and of the others unless it ends the reply. -/
theorem lineItems_cons (line : String) (lines : List String) :
    lineItems (line :: lines) =
      (itemOf? line).toList ++ if endsReply line then [] else lineItems lines := by
  unfold itemOf? endsReply
  cases hline : Event.ofLine line with
  | none => simp [lineItems, hline]
  | some event =>
    cases event with
    | chunk c => cases hc : c.isTerminal <;> simp [lineItems, hline, Event.item?, Event.isFinal, hc]
    | finish => simp [lineItems, hline, Event.item?, Event.isFinal]
    | malformed detail => simp [lineItems, hline, Event.item?, Event.isFinal]

/-- One line alone gives its own item. -/
theorem lineItems_singleton (line : String) : lineItems [line] = (itemOf? line).toList := by
  rw [lineItems_cons]
  split <;> exact List.append_nil _

/-- Later lines count unless an earlier one has ended the reply. -/
theorem lineItems_append (early late : List String) :
    lineItems (early ++ late) =
      lineItems early ++ if early.any endsReply then [] else lineItems late := by
  induction early with
  | nil => rfl
  | cons line early ih =>
    rw [List.cons_append, lineItems_cons, lineItems_cons, ih, List.any_cons]
    cases endsReply line <;> simp

/-- A line carries at most one item. -/
theorem length_lineItems_le (lines : List String) : (lineItems lines).length ≤ lines.length := by
  induction lines with
  | nil => exact le_rfl
  | cons line lines ih =>
    have hone : (itemOf? line).toList.length ≤ 1 := by cases itemOf? line <;> simp
    rw [lineItems_cons, List.length_append, List.length_cons]
    split
    · rw [List.length_nil]
      omega
    · omega

/-! ## The reader -/

/-- The text of a line of the buffer, if it is text. -/
def Line.text? : Line → Option String
  | .text s => some s
  | .invalid _ => none

/-- A line made of some bytes has the text that decoding them gives. -/
theorem Line.text?_ofBytes (bytes : List UInt8) : (Line.ofBytes bytes).text? = lineText? bytes := by
  cases h : Text.Utf8.decode? bytes with
  | none => simp [ofBytes, lineText?, h, text?]
  | some cs => simp [ofBytes, lineText?, h, text?]

namespace ReplyReader

/-- Lines of the buffer count as far as they are text. -/
theorem foldl_takeBufferLine (r : ReplyReader) (lines : List Line) :
    lines.foldl takeBufferLine r = (lines.filterMap Line.text?).foldl takeLine r := by
  induction lines generalizing r with
  | nil => rfl
  | cons line lines ih =>
    cases line with
    | text s => simp [takeBufferLine, Line.text?, ih]
    | invalid bytes => simpa [takeBufferLine, Line.text?, List.filterMap_cons] using ih r

/-- The items of a reader that has queued some, when `lines` are still to come. -/
def withLines (r : ReplyReader) (lines : List String) : List Item :=
  r.pending ++ if r.finished then [] else lineItems lines

/-- A reader that is given no line keeps what it has not handed out. -/
@[simp]
theorem withLines_nil (r : ReplyReader) : r.withLines [] = r.pending := by
  unfold withLines
  cases r.finished <;> simp [lineItems]

/-- A reply that has not ended takes in what a line carries. -/
theorem takeLine_of_goes {r : ReplyReader} (goes : r.finished = false) (line : String) :
    r.takeLine line =
      { r with finished := endsReply line, pending := r.pending ++ (itemOf? line).toList } := by
  obtain ⟨lines, pending, finished⟩ := r
  obtain rfl : finished = false := goes
  unfold takeLine itemOf? endsReply
  cases hline : Event.ofLine line with
  | none => simp
  | some event => cases event <;> simp [Event.item?, Event.isFinal]

/-- A reader that has finished takes no line in. -/
theorem takeLine_of_finished {r : ReplyReader} (finished : r.finished = true) (line : String) :
    r.takeLine line = r := by
  rw [takeLine, if_pos finished]

/-- Taking in a line does not change the items. -/
theorem withLines_takeLine (r : ReplyReader) (line : String) (more : List String) :
    (r.takeLine line).withLines more = r.withLines (line :: more) := by
  unfold withLines
  cases hf : r.finished with
  | true => simp [takeLine_of_finished hf, hf]
  | false => simp [takeLine_of_goes hf, lineItems_cons]

/-- Taking in lines does not change the items. -/
theorem withLines_foldl (r : ReplyReader) (lines more : List String) :
    (lines.foldl takeLine r).withLines more = r.withLines (lines ++ more) := by
  induction lines generalizing r with
  | nil => rfl
  | cons line lines ih => rw [List.foldl_cons, ih, withLines_takeLine, List.cons_append]

/-- A read takes in the lines that it completes and leaves in the buffer what comes after
its last line feed. -/
theorem feed_eq (r : ReplyReader) (bs : List UInt8) :
    r.feed bs =
      { ((((r.lines.bytes ++ bs).splitOn 10).dropLast.filterMap lineText?).foldl takeLine r)
        with lines := ⟨((r.lines.bytes ++ bs).splitOn 10).getLastD []⟩ } := by
  have htext : Line.text? ∘ Line.ofBytes = lineText? := funext Line.text?_ofBytes
  simp only [feed, LineBuffer.extend, drain_eq, foldl_takeBufferLine, List.filterMap_map, htext]

/-- A reader has finished after some lines if it had before or one of them ends the reply. -/
theorem finished_foldl (r : ReplyReader) (lines : List String) :
    (lines.foldl takeLine r).finished = (r.finished || lines.any endsReply) := by
  induction lines generalizing r with
  | nil => simp
  | cons line lines ih =>
    have hline : (r.takeLine line).finished = (r.finished || endsReply line) := by
      cases hf : r.finished with
      | true => simp [takeLine_of_finished hf, hf]
      | false => simp [takeLine_of_goes hf]
    rw [List.foldl_cons, ih, hline, List.any_cons, Bool.or_assoc]

/-- What waits after a read are the items of the lines that the read completes. -/
@[simp]
theorem feed_pending (r : ReplyReader) (bs : List UInt8) :
    (r.feed bs).pending = r.withLines (completeLines (r.lines.bytes ++ bs)) := by
  have h := withLines_foldl r (completeLines (r.lines.bytes ++ bs)) []
  rw [List.append_nil, withLines_nil] at h
  rw [feed_eq, ← h]
  rfl

/-- A read finishes a reader if one of the lines that it completes ends the reply. -/
@[simp]
theorem feed_finished (r : ReplyReader) (bs : List UInt8) :
    (r.feed bs).finished =
      (r.finished || (completeLines (r.lines.bytes ++ bs)).any endsReply) := by
  rw [feed_eq, ← finished_foldl]
  rfl

/-- A read leaves the bytes behind the last line feed. -/
@[simp]
theorem feed_bytes (r : ReplyReader) (bs : List UInt8) :
    (r.feed bs).lines.bytes = lastLine (r.lines.bytes ++ bs) := by
  rw [feed_eq]
  rfl

/-- A read does not change the items: what it adds to the queue is what it takes from the
bytes that are still to be handled. -/
theorem withLines_feed (r : ReplyReader) (bs more : List UInt8) :
    (r.feed bs).withLines (bodyLines ((r.feed bs).lines.bytes ++ more)) =
      r.withLines (bodyLines (r.lines.bytes ++ bs ++ more)) := by
  rw [bodyLines_append (r.lines.bytes ++ bs) more, ← withLines_foldl, feed_eq]
  rfl

/-- The end of the body takes in what no line feed has ended. -/
theorem close_pending (r : ReplyReader) :
    r.close.pending = r.withLines [tailText r.lines.bytes] := by
  have hblank : Event.ofLine "" = none := by decide +kernel
  by_cases h : Text.trimChars (Text.Utf8.decodeLossy r.lines.bytes) = []
  · simp [close, LineBuffer.remainder, h, withLines, tailText, lineItems, hblank]
  · have hclose : r.close.pending = (r.takeLine (tailText r.lines.bytes)).pending := by
      simp [close, LineBuffer.remainder, h, tailText]
    rw [hclose, ← withLines_takeLine]
    simp [withLines, lineItems]

/-- **The reader and the one pass.**  What a reader hands out from now on, in a body that is
neither cut off nor cancelled, is what it has queued and then the items of the bytes that
it has not handled yet. -/
theorem items_eq_onePass (idle count : Nat) (r : ReplyReader) (reads : List (List UInt8))
    (h : 10 ∉ r.lines.bytes) :
    items idle (fun _ => false) count r (reads.map .bytes) =
      r.withLines (bodyLines (r.lines.bytes ++ reads.flatten)) := by
  -- between two reads the buffer never holds a line feed, so the bytes after the last one
  -- are the only ones that the next read can complete
  induction reads generalizing count r with
  | nil =>
    cases hf : r.finished with
    | true => simp [items, withLines, hf]
    | false => simp [items, withLines, hf, close_pending, bodyLines_of_not_mem h]
  | cons bs reads ih =>
    obtain ⟨lines, pending, finished⟩ := r
    cases finished with
    | true => simp [items, withLines]
    | false =>
      have hbytes : 10 ∉ (({ lines := lines } : ReplyReader).feed bs).lines.bytes := by
        rw [feed_eq]
        exact not_mem_getLastD_splitOn _
      have hrest := ih (count + pending.length) _ hbytes
      rw [withLines_feed] at hrest
      simp [items, hrest, withLines]

end ReplyReader

/-- **Reads do not matter.**  However the bytes of a body are cut into reads, a reply that
is read to the end of the body without a failure of the transport, without a silence and
without being cancelled consists of the items of the one pass. -/
theorem replyItems_eq_onePass (idle : Nat) (body : List UInt8) (reads reads' : List (List UInt8))
    (h : reads.flatten = body) (h' : reads'.flatten = body) :
    replyItems idle (fun _ => false) (reads.map .bytes) =
      replyItems idle (fun _ => false) (reads'.map .bytes) ∧
    replyItems idle (fun _ => false) (reads.map .bytes) = onePass body := by
  have key : ∀ parts : List (List UInt8), parts.flatten = body →
      replyItems idle (fun _ => false) (parts.map .bytes) = onePass body := by
    intro parts hparts
    rw [replyItems, ReplyReader.items_eq_onePass idle 0 {} parts (by simp), ← hparts]
    simp [ReplyReader.withLines, onePass]
  exact ⟨(key reads h).trans (key reads' h').symm, key reads h⟩

/-- A body cut inside its first line and inside a character, and the same body in one
read. -/
theorem replyItems_eq_onePass_cut :
    [[0x64, 0x61, 0x74], [], [0x61, 0x3A, 0xC3], [0xA9, 0x0A, 0xFF, 0x0A]].flatten =
      ([0x64, 0x61, 0x74, 0x61, 0x3A, 0xC3, 0xA9, 0x0A, 0xFF, 0x0A] : List UInt8) ∧
    replyItems 30 (fun _ => false)
        ([[0x64, 0x61, 0x74], [], [0x61, 0x3A, 0xC3], [0xA9, 0x0A, 0xFF, 0x0A]].map .bytes) =
      replyItems 30 (fun _ => false)
        ([[0x64, 0x61, 0x74, 0x61, 0x3A, 0xC3, 0xA9, 0x0A, 0xFF, 0x0A]].map .bytes) :=
  ⟨by decide, (replyItems_eq_onePass 30 _ _ _ rfl (by decide)).1⟩

end ChatGateway.Sse
