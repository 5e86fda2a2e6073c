import Mathlib
import ChatGateway.Proofs.Sse.OnePass
import ChatGateway.Proofs.Text.Utf8
import ChatGateway.Proofs.Text.Words

/-!
# The last line of a body

A line that ends in a line feed is read strictly: when its bytes are no text it is skipped.
What comes after the last line feed is read with replacement.  So a line feed at the end of a
body makes no difference where the last line is text, and none where a line before it has ended
the reply.  Where neither is the case the last line counts only without the line feed, and it
then carries one item if it starts with `data:`: the character that stands for what was
replaced is in its payload, which therefore is neither blank nor the end mark.
-/

set_option autoImplicit false

namespace ChatGateway

namespace Sse

/-! ## A line with something replaced -/

/-- Only the mark of the end finishes a reply. -/
theorem ofPayload_ne_finish {payload : String} (h : payload ≠ "[DONE]") :
    Event.ofPayload payload ≠ .finish := by
  unfold Event.ofPayload
  rw [if_neg h]
  split
  · simp
  · dsimp only
    split_ifs <;> simp

/-- A line with a replaced character that starts with `data:` carries something, and not the
end mark. -/
theorem ofLine_of_replaced {line : String} (replaced : Char.ofNat 0xFFFD ∈ line.toList)
    (data : "data:".toList <+: line.toList) :
    ∃ event, Event.ofLine line = some event ∧ event ≠ .finish := by
  obtain ⟨rest, hrest⟩ := data
  have hmark : Text.dropPrefix? "data:".toList line.toList = some rest :=
    (Text.dropPrefix?_eq_some_iff _ _ _).2 hrest.symm
  have hpayload : Char.ofNat 0xFFFD ∈ Text.trimStartChars rest := by
    rw [← hrest, List.mem_append] at replaced
    exact Text.mem_trimStartChars (by decide) (replaced.resolve_left (by decide))
  have hnonempty : (Text.trimStartChars rest).isEmpty = false := by
    rw [List.isEmpty_eq_false_iff]
    exact List.ne_nil_of_mem hpayload
  have hne : String.ofList (Text.trimStartChars rest) ≠ "[DONE]" := by
    intro heq
    have hchars : Text.trimStartChars rest = "[DONE]".toList := by
      rw [← heq, String.toList_ofList]
    rw [hchars] at hpayload
    revert hpayload
    decide
  refine ⟨_, ?_, ofPayload_ne_finish hne⟩
  unfold Event.ofLine
  rw [hmark]
  simp [hnonempty]

/-- A line without the mark for data says nothing. -/
theorem ofLine_of_not_prefix {line : String} (h : ¬ "data:".toList <+: line.toList) :
    Event.ofLine line = none := by
  have hmark : Text.dropPrefix? "data:".toList line.toList = none := by
    rw [Option.eq_none_iff_forall_not_mem]
    intro rest hrest
    exact h ⟨rest, ((Text.dropPrefix?_eq_some_iff _ _ _).1 hrest).symm⟩
  rw [Event.ofLine, hmark]

/-- A line that was no text carries one item, if it starts with `data:`. -/
theorem lineItems_tailText {bytes : List UInt8} (noText : Text.Utf8.decode? bytes = none)
    (data : "data:".toList <+: (tailText bytes).toList) :
    ∃ x, lineItems [tailText bytes] = [x] := by
  have hreplaced : Char.ofNat 0xFFFD ∈ (tailText bytes).toList := by
    rw [tailText, String.toList_ofList]
    exact Text.mem_trimChars (by decide) (Text.Utf8.mem_decodeLossy noText)
  obtain ⟨event, hline, hne⟩ := ofLine_of_replaced hreplaced data
  have hitem : ∃ x, itemOf? (tailText bytes) = some x := by
    unfold itemOf?
    rw [hline, Option.bind_some]
    cases event with
    | finish => exact absurd rfl hne
    | chunk c => exact ⟨_, rfl⟩
    | malformed detail => exact ⟨_, rfl⟩
  obtain ⟨x, hx⟩ := hitem
  exact ⟨x, by rw [lineItems_singleton, hx, Option.toList_some]⟩

/-! ## A line feed at the end -/

/-- Where the bytes are text, a line and a rest are read alike. -/
theorem lineText?_eq_tailText {bytes : List UInt8} {cs : List Char}
    (text : Text.Utf8.decode? bytes = some cs) : lineText? bytes = some (tailText bytes) := by
  rw [lineText?, tailText, text, Text.Utf8.decodeLossy_of_decode? text]
  rfl

/-- Bytes that are no text are no line. -/
theorem lineText?_eq_none {bytes : List UInt8} (noText : Text.Utf8.decode? bytes = none) :
    lineText? bytes = none := by
  rw [lineText?, noText, Option.map_none]

/-- With a line feed at the end, the last line is complete. -/
theorem onePass_lineFeed (body : List UInt8) :
    onePass (body ++ [10]) =
      lineItems (completeLines body ++ (lineText? (lastLine body)).toList) := by
  have hnone : 10 ∉ lastLine body := not_mem_getLastD_splitOn body
  have hlast : (lastLine body ++ [10]).splitOn 10 = [lastLine body, []] := by
    rw [splitOn_line hnone, List.splitOn_nil]
  have hcomplete : completeLines (body ++ [10]) =
      completeLines body ++ (lineText? (lastLine body)).toList := by
    rw [completeLines_append]
    congr 1
    rw [completeLines, hlast]
    cases h : lineText? (lastLine body) <;> simp [h]
  have htail : lastLine (body ++ [10]) = [] := by
    rw [lastLine_append, lastLine, hlast]
    rfl
  have hblank : lineItems [tailText []] = [] := by decide +kernel
  rw [onePass, bodyLines_eq, hcomplete, htail, lineItems_append, hblank, ite_self, List.append_nil]

/-- Whether a body ends in a line that counts only as long as no line feed follows it: its bytes
are no text, it starts with `data:`, and no line before it has ended the reply. -/
structure CountsUnended (body : List UInt8) : Prop where
  noText : Text.Utf8.decode? (lastLine body) = none
  data : "data:".toList <+: (tailText (lastLine body)).toList
  goes : (completeLines body).any endsReply = false

/-- A rest that counts adds one item to those of the lines before. -/
theorem onePass_of_countsUnended {body : List UInt8} (h : CountsUnended body) :
    ∃ x, lineItems [tailText (lastLine body)] = [x] ∧
      onePass body = onePass (body ++ [10]) ++ [x] := by
  obtain ⟨x, hx⟩ := lineItems_tailText h.noText h.data
  refine ⟨x, hx, ?_⟩
  rw [onePass_lineFeed, lineText?_eq_none h.noText, Option.toList_none, List.append_nil, onePass, bodyLines_eq,
    lineItems_append, h.goes, hx]
  rfl

/-- A rest that does not count adds nothing to the lines before. -/
theorem onePass_of_not_countsUnended {body : List UInt8} (h : ¬ CountsUnended body) :
    onePass body = onePass (body ++ [10]) := by
  rw [onePass_lineFeed, onePass, bodyLines_eq]
  cases htext : Text.Utf8.decode? (lastLine body) with
  | some cs => rw [lineText?_eq_tailText htext, Option.toList_some]
  | none =>
    rw [lineText?_eq_none htext, Option.toList_none, lineItems_append, lineItems_append]
    cases hends : (completeLines body).any endsReply with
    | true => rfl
    | false =>
      have hnothing : lineItems [tailText (lastLine body)] = [] := by
        have hdata : ¬ "data:".toList <+: (tailText (lastLine body)).toList :=
          fun data => h ⟨htext, data, hends⟩
        simp only [lineItems, ofLine_of_not_prefix hdata]
      rw [hnothing]
      rfl

/-- However a body is cut, its items are those of one pass. -/
theorem replyItems_bytes (idle : Nat) {body : List UInt8} {reads : List (List UInt8)}
    (cut : reads.flatten = body) :
    replyItems idle (fun _ => false) (reads.map .bytes) = onePass body := by
  have hitems := ReplyReader.items_eq_onePass idle 0 {} reads (by simp)
  rw [replyItems, hitems, ← cut]
  rfl

/-- **A missing line feed at the end.**  Take a body that ends cleanly, and the same body with one
more line feed, each cut into any reads.  The replies have the same items, unless the bytes
after the last line feed are no text but start with `data:` when they are read with replacement,
and no line before has ended the reply.  Then the body without the line feed gives exactly one
item more, that of its last line read with replacement. -/
theorem replyItems_lineFeed (idle : Nat) {body : List UInt8} {reads reads' : List (List UInt8)}
    (cut : reads.flatten = body) (cut' : reads'.flatten = body ++ [10]) :
    (¬ CountsUnended body →
      replyItems idle (fun _ => false) (reads.map .bytes) =
        replyItems idle (fun _ => false) (reads'.map .bytes)) ∧
    (CountsUnended body →
      ∃ x, lineItems [tailText (lastLine body)] = [x] ∧
        replyItems idle (fun _ => false) (reads.map .bytes) =
          replyItems idle (fun _ => false) (reads'.map .bytes) ++ [x]) := by
  rw [replyItems_bytes idle cut, replyItems_bytes idle cut']
  exact ⟨onePass_of_not_countsUnended, onePass_of_countsUnended⟩

/-- A chunk whose text holds a byte that is no text. -/
def unreadableBody : List UInt8 :=
  Text.Utf8.encode "data: \x7b\"type\":\"delta\",\"delta\":\"".toList ++ 0xFF ::
    Text.Utf8.encode "\"\x7d".toList

/-- Without the line feed the chunk is read, with the character that stands for the byte. -/
theorem replyItems_unreadable :
    replyItems 30 (fun _ => false) [.bytes unreadableBody] = [.ok (.delta "\ufffd")] ∧
      replyItems 30 (fun _ => false) [.bytes (unreadableBody ++ [10])] = [] := by
  decide +kernel

/-- The chunk is cut inside its text, and the line feed comes in a read of its own. -/
theorem replyItems_lineFeed_unreadable :
    [unreadableBody.take 35, unreadableBody.drop 35].flatten = unreadableBody ∧
      [unreadableBody, [10]].flatten = unreadableBody ++ [10] ∧
      ∃ x, lineItems [tailText (lastLine unreadableBody)] = [x] ∧
        replyItems 30 (fun _ => false)
            ([unreadableBody.take 35, unreadableBody.drop 35].map .bytes) =
          replyItems 30 (fun _ => false) ([unreadableBody, [10]].map .bytes) ++ [x] := by
  have cut : [unreadableBody.take 35, unreadableBody.drop 35].flatten = unreadableBody := by
    simp
  have cut' : [unreadableBody, [10]].flatten = unreadableBody ++ [10] := by simp
  have counts : CountsUnended unreadableBody :=
    ⟨by decide +kernel, by decide +kernel, by decide +kernel⟩
  exact ⟨cut, cut', (replyItems_lineFeed 30 cut cut').2 counts⟩

end Sse

end ChatGateway
