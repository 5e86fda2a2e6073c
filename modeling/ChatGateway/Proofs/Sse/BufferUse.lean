import Mathlib
import ChatGateway.Proofs.Sse.OnePass
import ChatGateway.Proofs.Text.Utf8

/-!
# A line buffer in use

Bytes are put into a line buffer and lines are taken from it, in any order.  One use takes at most
one piece, together with its line feed, off the front of all the bytes that have come
(`use_taken`), so uses in any order take the first pieces one after another and leave the rest
(`run_taken`).  Splitting at line feeds and encoding commute, because no character but the line
feed holds its byte; so where the bytes are a text, the lines are the pieces of the text, wherever
it was cut on its way.  What is left at the end of the body is the last piece once the others have
been taken, and before that all pieces that have not been taken.
-/

set_option autoImplicit false

namespace ChatGateway

/-! ## Texts and their pieces -/

namespace Text.Utf8

/-- Bytes without a line feed belong to the first piece. -/
theorem splitOn_append_of_not_mem {front : List UInt8} (h : 10 ∉ front) (bytes : List UInt8) :
    (front ++ bytes).splitOn 10 = (bytes.splitOn 10).modifyHead (front ++ ·) := by
  induction front with
  | nil =>
    obtain ⟨piece, pieces, hpieces⟩ := List.exists_cons_of_ne_nil (List.splitOn_ne_nil 10 bytes)
    rw [List.nil_append, hpieces]
    rfl
  | cons b front ih =>
    obtain ⟨hb, hfront⟩ := not_or.1 (fun hmem => h (List.mem_cons.2 hmem))
    rw [List.cons_append, List.splitOn_cons_eq_if_modifyHead, if_neg (by simpa using Ne.symm hb),
      ih hfront, List.modifyHead_modifyHead]
    rfl

/-- The pieces of the bytes of a text are the bytes of its pieces. -/
theorem splitOn_encode (cs : List Char) :
    (encode cs).splitOn 10 = (cs.splitOn '\n').map encode := by
  induction cs with
  | nil => rfl
  | cons c cs ih =>
    obtain ⟨piece, pieces, hpieces⟩ := List.exists_cons_of_ne_nil (List.splitOn_ne_nil '\n' cs)
    by_cases hc : c = '\n'
    · subst hc
      show (10 :: encode cs).splitOn 10 = _
      rw [List.splitOn_cons_eq_if_modifyHead, List.splitOn_cons_eq_if_modifyHead, ih]
      rfl
    · have hbytes : 10 ∉ encodeChar c := fun hmem => hc ((mem_encodeChar_iff c).1 hmem)
      show (encodeChar c ++ encode cs).splitOn 10 = _
      rw [splitOn_append_of_not_mem hbytes, ih, List.splitOn_cons_eq_if_modifyHead,
        if_neg (by simpa using hc), hpieces]
      rfl

/-- Pieces that are joined are encoded with line feeds between them. -/
theorem encode_intercalate (pieces : List (List Char)) :
    encode (['\n'].intercalate pieces) = [10].intercalate (pieces.map encode) := by
  induction pieces with
  | nil => rfl
  | cons piece pieces ih =>
    cases pieces with
    | nil => simp
    | cons piece' pieces =>
      rw [List.intercalate_cons_cons, encode_append, encode_append, ih]
      simp only [List.map_cons, List.intercalate_cons_cons]
      rfl

end Text.Utf8

namespace Sse

/-! ## Lines -/

/-- What bytes come to as a line: the text without blanks around it, if they are a text, and
else themselves. -/
inductive Line.Of : List UInt8 → Line → Prop
  | text (cs : List Char) : Of (Text.Utf8.encode cs) (.text (String.ofList (Text.trimChars cs)))
  | invalid {bytes : List UInt8} (noText : ∀ cs, bytes ≠ Text.Utf8.encode cs) :
      Of bytes (.invalid bytes)

/-- The line that is read from bytes is what the bytes come to. -/
theorem Line.of_ofBytes (bytes : List UInt8) : Line.Of bytes (Line.ofBytes bytes) := by
  unfold ofBytes
  cases h : Text.Utf8.decode? bytes with
  | some cs =>
    obtain rfl := (Text.Utf8.decode?_eq_some_iff bytes cs).1 h
    exact .text cs
  | none =>
    refine .invalid fun cs heq => ?_
    rw [heq, Text.Utf8.decode?_encode] at h
    cases h

/-- A piece of a text as a line. -/
def Line.ofPiece (cs : List Char) : Line :=
  .text (String.ofList (Text.trimChars cs))

/-- Pieces of a text come to lines one by one. -/
theorem Line.map_ofBytes_encode (pieces : List (List Char)) :
    (pieces.map Text.Utf8.encode).map Line.ofBytes = pieces.map Line.ofPiece := by
  rw [List.map_map]
  refine List.map_congr_left fun piece _ => ?_
  rw [Function.comp_apply, ofBytes, Text.Utf8.decode?_encode]
  rfl

/-- The text of a last line, unless it is blank. -/
def unblank (cs : List Char) : Option String :=
  if cs.all Text.isBlank then none else some (String.ofList (Text.trimChars cs))

/-- Pieces with a line feed after each. -/
def ended (pieces : List (List UInt8)) : List UInt8 :=
  pieces.flatMap (· ++ [10])

/-- Pieces that are ended by line feeds are the first pieces. -/
theorem splitOn_ended_append {pieces : List (List UInt8)} (whole : ∀ piece ∈ pieces, 10 ∉ piece)
    (rest : List UInt8) : (ended pieces ++ rest).splitOn 10 = pieces ++ rest.splitOn 10 := by
  induction pieces with
  | nil => rfl
  | cons piece pieces ih =>
    obtain ⟨hpiece, hpieces⟩ := List.forall_mem_cons.1 whole
    have hcons : ended (piece :: pieces) ++ rest = piece ++ 10 :: (ended pieces ++ rest) := by
      simp [ended]
    rw [hcons, splitOn_line hpiece, ih hpieces, List.cons_append]

namespace LineBuffer

/-! ## Uses of a buffer -/

/-- What is done with a buffer. -/
inductive Use
  | extend (bytes : List UInt8)
  | next
deriving DecidableEq, Repr

/-- The bytes that a use puts into the buffer. -/
def Use.bytes : Use → List UInt8
  | .extend bytes => bytes
  | .next => []

/-- The bytes that uses put into a buffer, in order. -/
def written (uses : List Use) : List UInt8 :=
  uses.flatMap Use.bytes

/-- The line that a use gives, if it gives one, and the buffer after it. -/
def use (buffer : LineBuffer) : Use → Option Line × LineBuffer
  | .extend bytes => (none, buffer.extend bytes)
  | .next => buffer.next

/-- The lines that uses give, in order, and the buffer after them. -/
def run (buffer : LineBuffer) : List Use → List Line × LineBuffer
  | [] => ([], buffer)
  | u :: uses =>
    let (line, buffer) := buffer.use u
    let (lines, buffer) := buffer.run uses
    (line.toList ++ lines, buffer)

/-- Pieces that were taken off the front of bytes with their line feeds, as lines, so that the
buffer holds the rest. -/
structure Taken (pieces : List (List UInt8)) (bytes : List UInt8)
    (after : List Line × LineBuffer) : Prop where
  bytes_eq : bytes = ended pieces ++ after.2.bytes
  whole : ∀ piece ∈ pieces, 10 ∉ piece
  lines_eq : after.1 = pieces.map Line.ofBytes

/-- One use takes at most one piece. -/
theorem use_taken (buffer : LineBuffer) (u : Use) :
    ∃ pieces, Taken pieces (buffer.bytes ++ u.bytes)
      ((buffer.use u).1.toList, (buffer.use u).2) := by
  cases u with
  | extend bytes => exact ⟨[], rfl, by simp, rfl⟩
  | next =>
    cases h : splitLine buffer.bytes with
    | none => exact ⟨[], by simp [use, next, h, ended, Use.bytes], by simp, by simp [use, next, h]⟩
    | some split =>
      obtain ⟨line, rest⟩ := split
      obtain ⟨hbytes, hline⟩ := (splitLine_eq_some_iff _ _ _).1 h
      have huse : buffer.use .next = (some (.ofBytes line), ⟨rest⟩) := by simp [use, next, h]
      exact ⟨[line], by simp [huse, ended, Use.bytes, hbytes], by simpa using hline,
        by simp [huse]⟩

/-- Uses take the first pieces of all the bytes, one after another. -/
theorem run_taken (buffer : LineBuffer) (uses : List Use) :
    ∃ pieces, Taken pieces (buffer.bytes ++ written uses) (buffer.run uses) := by
  induction uses generalizing buffer with
  | nil => exact ⟨[], List.append_nil _, by simp, rfl⟩
  | cons u uses ih =>
    obtain ⟨first, hfirst⟩ := buffer.use_taken u
    obtain ⟨more, hmore⟩ := ih (buffer.use u).2
    refine ⟨first ++ more, ?_, List.forall_mem_append.2 ⟨hfirst.whole, hmore.whole⟩, ?_⟩
    · calc buffer.bytes ++ written (u :: uses)
          = (buffer.bytes ++ u.bytes) ++ written uses := by simp [written]
        _ = ended first ++ ((buffer.use u).2.bytes ++ written uses) := by
          rw [hfirst.bytes_eq, List.append_assoc]
        _ = ended (first ++ more) ++ (buffer.run (u :: uses)).2.bytes := by
          rw [hmore.bytes_eq, ← List.append_assoc]
          simp [ended, run]
    · show (buffer.use u).1.toList ++ ((buffer.use u).2.run uses).1 = _
      rw [hmore.lines_eq, List.map_append, ← hfirst.lines_eq]

namespace Taken

variable {pieces : List (List UInt8)} {bytes : List UInt8} {after : List Line × LineBuffer}

/-- What was taken and what is held split at the same places as all bytes. -/
theorem splitOn_eq (h : Taken pieces bytes after) :
    bytes.splitOn 10 = pieces ++ after.2.bytes.splitOn 10 := by
  rw [h.bytes_eq, splitOn_ended_append h.whole]

/-- Each piece that was taken is one line. -/
theorem length_eq (h : Taken pieces bytes after) : after.1.length = pieces.length := by
  rw [h.lines_eq, List.length_map]

/-- All pieces but the last are those taken and those still held in front of the last. -/
theorem dropLast_eq (h : Taken pieces bytes after) :
    (bytes.splitOn 10).dropLast = pieces ++ (after.2.bytes.splitOn 10).dropLast := by
  rw [h.splitOn_eq, List.dropLast_append_of_ne_nil (List.splitOn_ne_nil 10 _)]

/-- The pieces taken are the first ones that a line feed ends. -/
theorem take_eq (h : Taken pieces bytes after) :
    (bytes.splitOn 10).dropLast.take after.1.length = pieces := by
  rw [h.dropLast_eq, h.length_eq, List.take_left]

/-- Draining the buffer takes all pieces that a line feed ends. -/
theorem drain_lines (h : Taken pieces bytes after) :
    after.1 ++ after.2.drain.1 = (bytes.splitOn 10).dropLast.map Line.ofBytes := by
  rw [h.dropLast_eq, List.map_append, ← h.lines_eq]
  exact congrArg (after.1 ++ ·) (congrArg Prod.fst (drain_eq after.2.bytes))

/-- After draining the last piece is left. -/
theorem drain_bytes (h : Taken pieces bytes after) :
    after.2.drain.2 = ⟨(bytes.splitOn 10).getLastD []⟩ := by
  have hdrain : after.2.drain.2 = ⟨(after.2.bytes.splitOn 10).getLastD []⟩ :=
    congrArg Prod.snd (drain_eq after.2.bytes)
  rw [hdrain, h.splitOn_eq, splitOn_eq_concat after.2.bytes, ← List.append_assoc]
  simp [List.getLastD_eq_getLast?]

/-- The buffer holds the pieces that were not taken. -/
theorem buffer_bytes (h : Taken pieces bytes after) :
    after.2.bytes = [10].intercalate ((bytes.splitOn 10).drop after.1.length) := by
  rw [h.splitOn_eq, h.length_eq, List.drop_left, List.intercalate_splitOn]

end Taken

/-! ## What is left -/

/-- What is left of a text is the text, unless it is blank, and the buffer is empty then. -/
theorem remainder_encode (cs : List Char) :
    remainder ⟨Text.Utf8.encode cs⟩ = (unblank cs, {}) := by
  unfold remainder unblank
  rw [Text.Utf8.decodeLossy_encode]
  have hblank : (Text.trimChars cs).isEmpty = cs.all Text.isBlank := by
    rw [Bool.eq_iff_iff, List.isEmpty_iff, Text.trimChars_eq_nil_iff, List.all_eq_true]
  simp only [hblank]

/-- There is no next line exactly if there is no line feed. -/
theorem next_eq_none_iff (buffer : LineBuffer) : buffer.next.1 = none ↔ 10 ∉ buffer.bytes := by
  rw [← splitLine_eq_none_iff, next]
  cases splitLine buffer.bytes <;> simp

/-- Asking in vain changes nothing. -/
theorem next_of_eq_none {buffer : LineBuffer} (h : buffer.next.1 = none) :
    buffer.next.2 = buffer := by
  rw [next_eq_none_iff, ← splitLine_eq_none_iff] at h
  rw [next, h]

/-- There is nothing to drain where there is no next line. -/
theorem drain_of_eq_none {buffer : LineBuffer} (h : buffer.next.1 = none) :
    buffer.drain = ([], buffer) := by
  have hbytes : buffer.bytes.splitOn 10 = [buffer.bytes] :=
    List.splitOn_eq_singleton (buffer.next_eq_none_iff.1 h)
  have hdrain := drain_eq buffer.bytes
  rw [hbytes] at hdrain
  exact hdrain

/-- **A line buffer loses and invents nothing.**  However a new buffer was written to and read
from, the lines it gave are the first ones among those that a line feed ends in all the bytes
written, each as its trimmed text if it is text and as its bytes if not, and the buffer holds
the bytes after them; there is no next line exactly if these have no line feed, and then asking
for it changes nothing.

If the bytes are those of a text, the lines are the first of its pieces between line feeds,
trimmed, and what is left at the end of the body is the text of the pieces that were not taken.
When there is no next line all pieces but the last have been taken, and the last one is left;
draining the buffer leads there. -/
theorem run_lines (uses : List Use) :
    let lines := (run {} uses).1
    let buffer := (run {} uses).2
    let first := ((written uses).splitOn 10).dropLast.take lines.length
    List.Forall₂ Line.Of first lines ∧
    written uses = ended first ++ buffer.bytes ∧
    (buffer.next.1 = none ↔ 10 ∉ buffer.bytes) ∧
    (buffer.next.1 = none → buffer.next.2 = buffer) ∧
    ∀ text : List Char, written uses = Text.Utf8.encode text →
      let pieces := text.splitOn '\n'
      lines = (pieces.dropLast.take lines.length).map Line.ofPiece ∧
      buffer.remainder = (unblank (['\n'].intercalate (pieces.drop lines.length)), {}) ∧
      (buffer.next.1 = none → lines = pieces.dropLast.map Line.ofPiece ∧
        buffer.remainder = (unblank (pieces.getLastD []), {})) ∧
      lines ++ buffer.drain.1 = pieces.dropLast.map Line.ofPiece ∧
      buffer.drain.2.remainder = (unblank (pieces.getLastD []), {}) := by
  intro lines buffer first
  obtain ⟨taken, h⟩ := run_taken {} uses
  have hfirst : first = taken := h.take_eq
  refine ⟨?_, ?_, buffer.next_eq_none_iff, next_of_eq_none, ?_⟩
  · rw [hfirst, show lines = _ from h.lines_eq, List.forall₂_map_right_iff, List.forall₂_same]
    exact fun piece _ => Line.of_ofBytes piece
  · rw [hfirst]
    exact h.bytes_eq
  intro text htext pieces
  -- no character but the line feed has its byte, so both split at the same places
  have hsplit : (written uses).splitOn 10 = pieces.map Text.Utf8.encode := by
    rw [htext, Text.Utf8.splitOn_encode]
  have htaken : taken = (pieces.dropLast.take lines.length).map Text.Utf8.encode := by
    rw [← hfirst, List.map_take, List.map_dropLast, ← hsplit]
  have hdrained : lines ++ buffer.drain.1 = pieces.dropLast.map Line.ofPiece := by
    rw [h.drain_lines, List.nil_append, hsplit, ← List.map_dropLast, Line.map_ofBytes_encode]
  have hlast : buffer.drain.2.remainder = (unblank (pieces.getLastD []), {}) := by
    have hpiece : (pieces.map Text.Utf8.encode).getLastD [] =
        Text.Utf8.encode (pieces.getLastD []) := by
      rw [List.getLastD_eq_getLast?, List.getLastD_eq_getLast?, List.getLast?_map]
      cases pieces.getLast? <;> rfl
    rw [h.drain_bytes, List.nil_append, hsplit, hpiece, remainder_encode]
  refine ⟨?_, ?_, fun hnone => ?_, hdrained, hlast⟩
  · rw [← Line.map_ofBytes_encode, ← htaken]
    exact h.lines_eq
  · have hbytes : buffer.bytes =
        Text.Utf8.encode (['\n'].intercalate (pieces.drop lines.length)) := by
      rw [Text.Utf8.encode_intercalate, List.map_drop, ← hsplit]
      exact h.buffer_bytes
    rw [show buffer = ⟨buffer.bytes⟩ from rfl, hbytes, remainder_encode]
  · rw [drain_of_eq_none hnone] at hdrained hlast
    exact ⟨(List.append_nil lines).symm.trans hdrained, hlast⟩

/-- Lines are asked for too early, and characters and a line end are cut. -/
def cutUses : List Use :=
  [.next, .extend [0x20, 0xC3], .next, .extend [0xA9, 13], .extend [10, 10, 0xE2], .next, .next,
    .extend [0x82, 0xAC, 10, 0x62]]

/-- Two lines were taken; one more is complete, and one is not ended. -/
theorem run_lines_cut :
    written cutUses = Text.Utf8.encode " é\r\n\n€\nb".toList ∧
    (run {} cutUses).1 = [.text "é", .text ""] ∧
    (run {} cutUses).2.remainder = (some "€\nb", {}) ∧
    (run {} cutUses).2.drain.2.remainder = (some "b", {}) := by
  have hwritten : written cutUses = Text.Utf8.encode " é\r\n\n€\nb".toList := by decide +kernel
  obtain ⟨hlines, hrest, -, -, hlast⟩ := (run_lines cutUses).2.2.2.2 _ hwritten
  have hcount : (run {} cutUses).1.length = 2 := by decide +kernel
  rw [hcount] at hlines hrest
  exact ⟨hwritten, hlines.trans (by decide +kernel), hrest.trans (by decide +kernel),
    hlast.trans (by decide +kernel)⟩

/-- What is left at the end of the body is more than the last piece if a complete line was not
taken before. -/
theorem remainder_not_last :
    ¬ ∀ (uses : List Use) (text : List Char), written uses = Text.Utf8.encode text →
      (run {} uses).2.remainder = (unblank ((text.splitOn '\n').getLastD []), {}) := by
  intro h
  have hlast := h [.extend [0x61, 10, 0x62]] "a\nb".toList (by decide)
  exact absurd hlast (by decide +kernel)

end LineBuffer

end Sse

end ChatGateway
