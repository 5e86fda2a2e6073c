import Mathlib
import ChatGateway.CommandLine.Chat
import ChatGateway.Proofs.Chat.Delivery
import ChatGateway.Proofs.Text.Utf8

/-!
# The printer keeps up with the reply

A printer counts the bytes of the message that it has printed.  The message only grows, so the
count stays where one text ends and the next one begins, and `ReplyPrinter.extend_of_grown` prints
exactly what was added.  From this comes the invariant of a reply that is listened to: what has
been printed is the message so far (`Listening`).  One chunk either keeps it, and adds its text
(`Listening.hear`), or is the last one, and adds nothing (`Listening.hear_last`).
-/

set_option autoImplicit false

namespace ChatGateway

namespace CommandLine

/-! ## The printer -/

namespace ReplyPrinter

variable (p : ReplyPrinter) (task : Option String)

/-- Saying what the assistant does leaves the message that is printed. -/
@[simp]
theorem announce_message : (p.announce task).message = p.message := by
  unfold announce
  split <;> rfl

/-- Saying what the assistant does puts nothing out. -/
@[simp]
theorem announce_out : (p.announce task).out = p.out := by
  unfold announce
  split <;> rfl

/-- Saying what the assistant does leaves how much has been printed. -/
@[simp]
theorem announce_printed : (p.announce task).printed = p.printed := by
  unfold announce
  split <;> rfl

/-- Saying what the assistant does is no failure. -/
@[simp]
theorem announce_failed : (p.announce task).failed = p.failed := by
  unfold announce
  split <;> rfl

/-- A message that has grown by `text` since it was printed has `text` printed. -/
theorem extend_of_grown {p : ReplyPrinter} {t : Transcript} {id text : String} {m : Message}
    (message : p.message = some id) (found : t.find? id = some m)
    (printed : p.printed = p.out.utf8ByteSize) (grown : m.content = p.out ++ text) :
    p.extend t = { p with out := m.content, printed := m.content.utf8ByteSize } := by
  have hfresh : Text.Utf8.fromByte? p.printed m.content.toList = some text.toList := by
    have h := Text.Utf8.fromByte?_append p.out.toList text.toList
    rwa [String.ofList_toList, ← String.toList_append, ← grown, ← printed] at h
  simp only [extend, message, Option.bind_some, found, hfresh]
  cases htext : text.toList with
  | nil =>
    have hsame : m.content = p.out := by
      rw [grown, String.toList_eq_nil_iff.1 htext, String.append_empty]
    rw [hsame, ← printed, ← message]
  | cons c cs =>
    have hmore : p.out ++ String.ofList (c :: cs) = m.content := by
      rw [grown, ← htext, String.ofList_toList]
    simp only [hmore]

end ReplyPrinter

/-! ## One chunk of a reply -/

/-- A chunk of the reply `stream` is applied, what it changes is printed, and the user is told
what there is to tell. -/
def hear (stream : Nat) (s : Conversation × ReplyPrinter) (c : Chunk) :
    Conversation × ReplyPrinter :=
  let conversation := (s.1.apply (.chunk stream c)).conversation
  (conversation.takeNotices.2, s.2.flush conversation)

/-- Chunks are heard as long as the conversation is busy. -/
def hearAll (stream : Nat) : List Chunk → Conversation × ReplyPrinter → Conversation × ReplyPrinter
  | [], s => s
  | c :: rest, s => if s.1.isBusy then hearAll stream rest (hear stream s c) else s

/-- A reply that is listened to: the message that it is written into is the one that is printed,
and all of it has been printed. -/
structure Listening (stream : Nat) (id : String) (s : Conversation × ReplyPrinter) : Prop where
  current : s.1.stream = some stream
  unloaded : s.1.load = none
  quiet : s.1.notices = []
  streaming : s.1.transcript.streaming = some id
  message : s.2.message = some id
  found : ∃ m, s.1.transcript.find? id = some m ∧ m.content = s.2.out
  printed : s.2.printed = s.2.out.utf8ByteSize

namespace Listening

variable {stream : Nat} {id : String} {s : Conversation × ReplyPrinter}

/-- While the printer listens, the conversation is busy. -/
theorem isBusy (h : Listening stream id s) : s.1.isBusy = true := by
  simp [Conversation.isBusy, Transcript.isStreaming, h.streaming]

/-- A chunk of the reply is received. -/
theorem apply_chunk (h : Listening stream id s) (c : Chunk) :
    s.1.apply (.chunk stream c) = s.1.receive id c := by
  simp [Conversation.apply, h.streaming, h.current]

/-- What is printed when a chunk has come: its text, and a complaint if it is an error. -/
theorem flush_receive (h : Listening stream id s) (c : Chunk) :
    let p := s.2.flush (s.1.receive id c).conversation
    p.message = some id ∧ p.out = s.2.out ++ c.text ∧
      p.printed = (s.2.out ++ c.text).utf8ByteSize ∧ p.failed = (s.2.failed || c.isError) ∧
      ∃ m, (s.1.receive id c).conversation.transcript.find? id = some m ∧
        m.content = s.2.out ++ c.text := by
  obtain ⟨m, hfound, hcontent⟩ := h.found
  have hgrown : (s.1.transcript.reduce id c).transcript.find? id =
      some { m with content := s.2.out ++ c.text } := by
    rw [Transcript.find?, Transcript.reduce_messages, Transcript.find?_appendTo]
    rw [Transcript.find?] at hfound
    rw [hfound, ← hcontent]
    rfl
  have hnotices : (s.1.receive id c).conversation.notices =
      (s.1.transcript.reduce id c).notice.toList := by
    rw [Conversation.receive_conversation, h.quiet, List.nil_append]
  have hfailed : (!((s.1.transcript.reduce id c).notice.toList).isEmpty) = c.isError := by
    rw [← Transcript.reduce_notice_isSome s.1.transcript id c]
    cases (s.1.transcript.reduce id c).notice <;> rfl
  have hextend := @ReplyPrinter.extend_of_grown
    (s.2.announce (s.1.transcript.reduce id c).transcript.task) _ id c.text _
    (by simpa using h.message) hgrown (by simpa using h.printed) (by simp)
  refine ⟨?_, ?_, ?_, ?_, _, by rw [Conversation.receive_transcript]; exact hgrown, rfl⟩ <;>
    simp only [ReplyPrinter.flush, Conversation.receive_transcript, hextend, hnotices]
  · simpa [ReplyPrinter.complain] using h.message
  · simp [ReplyPrinter.complain]
  · simp [ReplyPrinter.complain]
  · simp [ReplyPrinter.complain, hfailed]

/-- A chunk after which the reply goes on is printed, and listening goes on. -/
theorem hear (h : Listening stream id s) {c : Chunk} (goesOn : c.isTerminal = false) :
    Listening stream id (CommandLine.hear stream s c) ∧
      (CommandLine.hear stream s c).2.out = s.2.out ++ c.text ∧
      (CommandLine.hear stream s c).2.failed = s.2.failed := by
  obtain ⟨hmessage, hout, hprinted, hfailed, hfound⟩ := h.flush_receive c
  have hsound : c.isError = false := by cases c <;> first | rfl | cases goesOn
  rw [hsound, Bool.or_false] at hfailed
  rw [CommandLine.hear, h.apply_chunk c]
  refine ⟨⟨?_, ?_, rfl, ?_, hmessage, ?_, ?_⟩, hout, hfailed⟩
  · simpa [Conversation.takeNotices, goesOn] using h.current
  · simpa [Conversation.takeNotices] using h.unloaded
  · simpa [Conversation.takeNotices, goesOn] using h.streaming
  · rw [hout]
    exact hfound
  · rw [hout]
    exact hprinted

/-- After the last chunk of a reply the conversation is not busy, and no text was added. -/
theorem hear_last (h : Listening stream id s) {c : Chunk} (last : c.isTerminal = true) :
    (CommandLine.hear stream s c).1.isBusy = false ∧
      (CommandLine.hear stream s c).2.out = s.2.out ∧
      (CommandLine.hear stream s c).2.failed = (s.2.failed || c.isError) := by
  obtain ⟨-, hout, -, hfailed, -⟩ := h.flush_receive c
  have htext : c.text = "" := by cases c <;> first | rfl | cases last
  rw [htext, String.append_empty] at hout
  rw [CommandLine.hear, h.apply_chunk c]
  refine ⟨?_, hout, hfailed⟩
  simp [Conversation.takeNotices, Conversation.isBusy, Conversation.isLoading,
    Transcript.isStreaming, last, h.unloaded]

end Listening

/-- Once the conversation is idle, nothing more is heard. -/
theorem hearAll_of_idle {stream : Nat} {s : Conversation × ReplyPrinter}
    (idle : s.1.isBusy = false) (chunks : List Chunk) : hearAll stream chunks s = s := by
  cases chunks <;> simp [hearAll, idle]

/-- A whole reply is printed: the texts of its chunks, one after the other, and that it failed if
its last chunk says so. -/
theorem Listening.hearAll {stream : Nat} {id : String} {s : Conversation × ReplyPrinter}
    (h : Listening stream id s) {chunks : List Chunk} {last : Chunk}
    (goesOn : ∀ c ∈ chunks, c.isTerminal = false) (terminal : last.isTerminal = true)
    (rest : List Chunk) :
    let s' := CommandLine.hearAll stream (chunks ++ last :: rest) s
    s'.1.isBusy = false ∧ s'.2.out = s.2.out ++ String.join (chunks.map Chunk.text) ∧
      s'.2.failed = (s.2.failed || last.isError) := by
  induction chunks generalizing s with
  | nil =>
    obtain ⟨hidle, hout, hfailed⟩ := h.hear_last terminal
    rw [List.nil_append, CommandLine.hearAll, if_pos h.isBusy, hearAll_of_idle hidle]
    exact ⟨hidle, by simpa using hout, hfailed⟩
  | cons c chunks ih =>
    obtain ⟨hnext, hout, hfailed⟩ := h.hear (goesOn c List.mem_cons_self)
    have hrest := ih hnext fun d hd => goesOn d (List.mem_cons_of_mem _ hd)
    rw [hout, hfailed] at hrest
    rw [List.cons_append, CommandLine.hearAll, if_pos h.isBusy, List.map_cons, String.join_cons,
      ← String.append_assoc]
    exact hrest

end CommandLine

end ChatGateway
