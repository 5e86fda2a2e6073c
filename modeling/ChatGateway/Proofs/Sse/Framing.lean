import Mathlib
import ChatGateway.Proofs.Sse.OnePass
import ChatGateway.Proofs.Text.Utf8
import ChatGateway.Proofs.Text.Words
import ChatGateway.Proofs.Wire.ChunkRoundTrip

/-!
# Framed chunks read back

A body is framed when it holds one line for each chunk, with lines in between that carry
nothing, and possibly an end mark.  Lines end with a line feed or with a carriage return
and a line feed, and the last one need not end.  However such a body is cut into reads, the
reply consists of the chunks up to the first terminal one.

The layers are undone one by one: the reads are the one pass over the body, the body is its
lines, a line is its payload, and the payload is the chunk.
-/

set_option autoImplicit false

namespace ChatGateway

/-- The chunks up to the first terminal one, with it. -/
def Chunk.upToTerminal : List Chunk → List Chunk
  | [] => []
  | c :: cs => c :: if c.isTerminal then [] else upToTerminal cs

namespace Sse

/-! ## Framed bodies -/

/-- Whether a line carries nothing: it is blank, a comment, or gives the name or the number
of an event. -/
def IsIdle (line : List Char) : Prop :=
  (∀ c ∈ line, Text.isBlank c = true) ∨
    ":".toList <+: line ∨ "event:".toList <+: line ∨ "id:".toList <+: line

/-- The lines that chunks are framed in. -/
inductive Framed : List Chunk → List (List Char) → Prop
  | nil : Framed [] []
  /-- The end mark, with nothing but idle lines after it. -/
  | finish {lines : List (List Char)} (idle : ∀ line ∈ lines, IsIdle line) :
      Framed [] ("data: [DONE]".toList :: lines)
  | idle {cs : List Chunk} {line : List Char} {lines : List (List Char)} (idle : IsIdle line)
      (more : Framed cs lines) : Framed cs (line :: lines)
  | spaced {c : Chunk} {cs : List Chunk} {lines : List (List Char)} (more : Framed cs lines) :
      Framed (c :: cs) (("data: " ++ c.toJson.toText).toList :: lines)
  | tight {c : Chunk} {cs : List Chunk} {lines : List (List Char)} (more : Framed cs lines) :
      Framed (c :: cs) (("data:" ++ c.toJson.toText).toList :: lines)

/-- The texts that lines are written as. -/
inductive Written : List (List Char) → List Char → Prop
  | nil : Written [] []
  /-- The last line need not end. -/
  | last {line : List Char} (whole : '\n' ∉ line) : Written [line] line
  | lf {line text : List Char} {lines : List (List Char)} (whole : '\n' ∉ line)
      (more : Written lines text) : Written (line :: lines) (line ++ '\n' :: text)
  | crlf {line text : List Char} {lines : List (List Char)} (whole : '\n' ∉ line)
      (more : Written lines text) : Written (line :: lines) (line ++ '\r' :: '\n' :: text)

/-! ## From the body to its lines -/

/-- A line of a text is that text without blanks around it. -/
theorem lineText?_encode (line : List Char) :
    lineText? (Text.Utf8.encode line) = some (String.ofList (Text.trimChars line)) := by
  rw [lineText?, Text.Utf8.decode?_encode]
  rfl

/-- The rest of a text is that text without blanks around it. -/
theorem tailText_encode (line : List Char) :
    tailText (Text.Utf8.encode line) = String.ofList (Text.trimChars line) := by
  rw [tailText, Text.Utf8.decodeLossy_encode]

/-- A line that a line feed ends comes before the lines after it. -/
theorem bodyLines_encode_lf {line : List Char} (h : '\n' ∉ line) (text : List Char) :
    bodyLines (Text.Utf8.encode (line ++ '\n' :: text)) =
      String.ofList (Text.trimChars line) :: bodyLines (Text.Utf8.encode text) := by
  have hline : 10 ∉ Text.Utf8.encode line := fun hmem => h ((Text.Utf8.mem_encode_iff line).1 hmem)
  have hfeed : Text.Utf8.encode ('\n' :: text) = 10 :: Text.Utf8.encode text := rfl
  have hsplit : (Text.Utf8.encode line ++ [10]).splitOn 10 = [Text.Utf8.encode line, []] := by
    rw [List.splitOn_append_cons_self, List.splitOn_eq_singleton hline]
    simp
  rw [Text.Utf8.encode_append, hfeed, List.append_cons, bodyLines_append, hsplit]
  simp [lineText?_encode]

/-- An empty line says nothing. -/
theorem ofLine_empty : Event.ofLine "" = none := by decide +kernel

/-- The lines of a written body, trimmed, carry what the lines of its bytes carry. -/
theorem lineItems_bodyLines {lines : List (List Char)} {text : List Char}
    (h : Written lines text) :
    lineItems (bodyLines (Text.Utf8.encode text)) =
      lineItems (lines.map fun line => String.ofList (Text.trimChars line)) := by
  have hcons : ∀ (line : String) (a b : List String), lineItems a = lineItems b →
      lineItems (line :: a) = lineItems (line :: b) := by
    intro line a b hab
    simp only [lineItems, hab]
  induction h with
  | nil =>
    have hnil : bodyLines (Text.Utf8.encode []) = [""] := by decide +kernel
    simp [hnil, lineItems, ofLine_empty]
  | @last line whole =>
    have hline : 10 ∉ Text.Utf8.encode line := fun hmem =>
      whole ((Text.Utf8.mem_encode_iff line).1 hmem)
    rw [bodyLines_of_not_mem hline, tailText_encode]
    rfl
  | lf whole _ ih =>
    rw [bodyLines_encode_lf whole]
    exact hcons _ _ _ ih
  | @crlf line text lines whole _ ih =>
    have hline : '\n' ∉ line ++ ['\r'] := by simpa using whole
    rw [List.append_cons, bodyLines_encode_lf hline, Text.trimChars_concat_blank (by decide)]
    exact hcons _ _ _ ih

/-! ## From the lines to the chunks -/

/-- A line says something exactly if data stand behind its mark. -/
theorem ofLine_ofList (line : List Char) :
    Event.ofLine (String.ofList line) =
      (Text.dropPrefix? "data:".toList line).bind fun rest =>
        if (Text.trimStartChars rest).isEmpty then none
        else some (.ofPayload (String.ofList (Text.trimStartChars rest))) := by
  rw [Event.ofLine, @String.toList_ofList line]
  cases Text.dropPrefix? "data:".toList line <;> rfl

/-- A line that does not start with the letter of `data:` carries nothing. -/
theorem ofLine_of_ne {c : Char} (hblank : Text.isBlank c = false) (hne : c ≠ 'd')
    (cs : List Char) : Event.ofLine (String.ofList (Text.trimChars (c :: cs))) = none := by
  rw [Text.trimChars, Text.trimStartChars_cons hblank, Text.trimEndChars_cons hblank,
    ofLine_ofList]
  simp [Text.dropPrefix?, Ne.symm hne]

/-- A line without data says nothing. -/
theorem ofLine_of_isIdle {line : List Char} (h : IsIdle line) :
    Event.ofLine (String.ofList (Text.trimChars line)) = none := by
  rcases h with hblank | ⟨cs, rfl⟩ | ⟨cs, rfl⟩ | ⟨cs, rfl⟩
  · rw [(Text.trimChars_eq_nil_iff line).2 hblank]
    exact ofLine_empty
  · exact ofLine_of_ne (by decide) (by decide) _
  · exact ofLine_of_ne (by decide) (by decide) _
  · exact ofLine_of_ne (by decide) (by decide) _

/-- What is written for a chunk stands between braces. -/
theorem print_chunk_eq (c : Chunk) :
    ∃ mid, c.toJson.print = '\x7b' :: mid ++ ['\x7d'] :=
  ⟨_, by rw [Chunk.toJson_eq, Json.print]⟩

/-- A payload that is written for a chunk means the chunk. -/
theorem ofPayload_toText {c : Chunk} (h : Chunk.ofText c.toJson.toText = .ok c) :
    Event.ofPayload c.toJson.toText = .chunk c := by
  obtain ⟨mid, hmid⟩ := print_chunk_eq c
  have hne : c.toJson.toText ≠ "[DONE]" := by
    intro heq
    have := congrArg String.toList heq
    simp [Json.toText, hmid] at this
  rw [Event.ofPayload, if_neg hne, h]

/-- A line with a chunk means the chunk, with or without a space before it. -/
theorem ofLine_chunk {c : Chunk} (h : Chunk.ofText c.toJson.toText = .ok c) {space : List Char}
    (hspace : ∀ b ∈ space, Text.isBlank b = true) :
    Event.ofLine (String.ofList (Text.trimChars ("data:".toList ++ (space ++ c.toJson.print)))) =
      some (.chunk c) := by
  obtain ⟨mid, hmid⟩ := print_chunk_eq c
  have htrim : Text.trimChars ("data:".toList ++ (space ++ c.toJson.print)) =
      "data:".toList ++ (space ++ c.toJson.print) := by
    have hstart : Text.trimStartChars ("data:".toList ++ (space ++ c.toJson.print)) =
        "data:".toList ++ (space ++ c.toJson.print) := Text.trimStartChars_cons (by decide) _
    rw [Text.trimChars, hstart, hmid, ← List.append_assoc, ← List.append_assoc,
      Text.trimEndChars_concat (by decide)]
  have hpayload : Text.trimStartChars (space ++ c.toJson.print) = c.toJson.print := by
    rw [Text.trimStartChars, List.dropWhile_append_of_pos hspace, hmid]
    exact Text.trimStartChars_cons (by decide) _
  have hmark : Text.dropPrefix? "data:".toList ("data:".toList ++ (space ++ c.toJson.print)) =
      some (space ++ c.toJson.print) := (Text.dropPrefix?_eq_some_iff _ _ _).2 rfl
  have hnonempty : c.toJson.print.isEmpty = false := by simp [hmid]
  rw [htrim, ofLine_ofList, hmark, Option.bind_some, hpayload, hnonempty, if_neg (by simp),
    ← ofPayload_toText h, Json.toText]

/-- A chunk goes before the chunks of the lines after it, unless it is terminal. -/
theorem lineItems_chunk {line : String} {c : Chunk} (hline : Event.ofLine line = some (.chunk c))
    {lines : List String} {cs : List Chunk}
    (hrest : lineItems lines = (Chunk.upToTerminal cs).map .ok) :
    lineItems (line :: lines) = (Chunk.upToTerminal (c :: cs)).map .ok := by
  simp only [lineItems, hline, hrest, Chunk.upToTerminal]
  split <;> rfl

/-- The lines that chunks are framed in carry the chunks up to the first terminal one. -/
theorem lineItems_framed {cs : List Chunk} {lines : List (List Char)} (h : Framed cs lines)
    (hread : ∀ c ∈ cs, Chunk.ofText c.toJson.toText = .ok c) :
    lineItems (lines.map fun line => String.ofList (Text.trimChars line)) =
      (Chunk.upToTerminal cs).map .ok := by
  induction h with
  | nil => rfl
  | finish =>
    have hdone : Event.ofLine (String.ofList (Text.trimChars "data: [DONE]".toList)) =
        some .finish := by decide +kernel
    simp only [List.map_cons, lineItems, hdone, Chunk.upToTerminal, List.map_nil]
  | idle hidle _ ih =>
    simp only [List.map_cons, lineItems, ofLine_of_isIdle hidle]
    exact ih hread
  | @spaced c cs lines _ ih =>
    obtain ⟨hc, hrest⟩ := List.forall_mem_cons.1 hread
    have hline := @ofLine_chunk c hc [' '] (by simp [Text.isBlank])
    have htext : ("data: " ++ c.toJson.toText).toList =
        "data:".toList ++ ([' '] ++ c.toJson.print) := by
      simp [Json.toText]
    rw [List.map_cons, htext]
    exact lineItems_chunk hline (ih hrest)
  | @tight c cs lines _ ih =>
    obtain ⟨hc, hrest⟩ := List.forall_mem_cons.1 hread
    have hline := @ofLine_chunk c hc [] (by simp)
    have htext : ("data:" ++ c.toJson.toText).toList =
        "data:".toList ++ ([] ++ c.toJson.print) := by
      simp [Json.toText]
    rw [List.map_cons, htext]
    exact lineItems_chunk hline (ih hrest)

/-- **Framed chunks are read back.**  Take chunks that were decoded from some text and hold
no doubles, and a body that frames them.  However the bytes of the body are cut into reads,
the reply consists of exactly these chunks, up to the first terminal one. -/
theorem replyItems_framed (idle : Nat) {cs : List Chunk} {lines : List (List Char)}
    {text : List Char} (framed : Framed cs lines) (written : Written lines text)
    (decoded : ∀ c ∈ cs, ∃ source, Chunk.ofText source = .ok c)
    (floatFree : ∀ c ∈ cs, c.toJson.isFloatFree = true) (reads : List (List UInt8))
    (cut : reads.flatten = Text.Utf8.encode text) :
    replyItems idle (fun _ => false) (reads.map .bytes) =
      (Chunk.upToTerminal cs).map .ok := by
  have hread : ∀ c ∈ cs, Chunk.ofText c.toJson.toText = .ok c := fun c hc =>
    Chunk.ofText_toJson (decoded c hc) (floatFree c hc)
  have hitems := ReplyReader.items_eq_onePass idle 0 {} reads (by simp)
  calc replyItems idle (fun _ => false) (reads.map .bytes)
      = ({} : ReplyReader).withLines (bodyLines ([] ++ reads.flatten)) := hitems
    _ = lineItems (bodyLines (Text.Utf8.encode text)) := by
      rw [cut]
      rfl
    _ = lineItems (lines.map fun line => String.ofList (Text.trimChars line)) :=
      lineItems_bodyLines written
    _ = (Chunk.upToTerminal cs).map .ok := lineItems_framed framed hread

/-- Two chunks with a comment before them and an end mark after them. -/
def sampleText : List Char :=
  (":hi\r\ndata: \x7b\"type\":\"delta\",\"delta\":\"é\"\x7d\n" ++
    "data:\x7b\"type\":\"done\"\x7d\r\ndata: [DONE]").toList

/-- The sample, cut inside the end of its first line and inside a character. -/
def sampleReads : List (List UInt8) :=
  let bytes := Text.Utf8.encode sampleText
  [bytes.take 4, [], (bytes.drop 4).take 33, (bytes.drop 4).drop 33]

/-- The sample is read back chunk by chunk. -/
theorem replyItems_framed_sample :
    replyItems 30 (fun _ => false) (sampleReads.map .bytes) =
      [.ok (.delta "é"), .ok .finished] := by
  have framed : Framed [.delta "é", .finished]
      [":hi".toList, ("data: " ++ (Chunk.delta "é").toJson.toText).toList,
        ("data:" ++ Chunk.finished.toJson.toText).toList, "data: [DONE]".toList] :=
    .idle (.inr (.inl ⟨"hi".toList, rfl⟩)) (.spaced (.tight (.finish (by simp))))
  have written : Written
      [":hi".toList, ("data: " ++ (Chunk.delta "é").toJson.toText).toList,
        ("data:" ++ Chunk.finished.toJson.toText).toList, "data: [DONE]".toList] sampleText := by
    have htext : sampleText = ":hi".toList ++ '\r' :: '\n' ::
        (("data: " ++ (Chunk.delta "é").toJson.toText).toList ++ '\n' ::
          (("data:" ++ Chunk.finished.toJson.toText).toList ++ '\r' :: '\n' ::
            "data: [DONE]".toList)) := by decide +kernel
    rw [htext]
    exact .crlf (by decide) (.lf (by decide +kernel) (.crlf (by decide +kernel)
      (.last (by decide))))
  have decoded : ∀ c ∈ [Chunk.delta "é", Chunk.finished],
      ∃ source, Chunk.ofText source = .ok c := by
    simp only [List.mem_cons, List.not_mem_nil, or_false, forall_eq_or_imp, forall_eq]
    exact ⟨⟨"[\"delta\",\"é\"]", by decide +kernel⟩, ⟨"[\"done\"]", by decide +kernel⟩⟩
  have cut : sampleReads.flatten = Text.Utf8.encode sampleText := by decide +kernel
  exact replyItems_framed 30 framed written decoded (by decide) sampleReads cut

end Sse

end ChatGateway
