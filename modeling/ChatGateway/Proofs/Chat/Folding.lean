import Mathlib
import ChatGateway.Proofs.Chat.Transcript

/-!
# A reply folded into a transcript

A whole reply is folded chunk by chunk, whatever the transcript holds and wherever a terminal
chunk stands.  What is left in the end can be read off the list of chunks: the first message of
the given name has all texts at its end, in order (`fold_messages`), the transcript receives no
reply once a terminal chunk has come (`fold_streaming`), and the task is what the last chunk that
says something about it says (`fold_task`).  So it does not matter how a text is cut into deltas
(`fold_recut`).
-/

set_option autoImplicit false

namespace ChatGateway

namespace Chunk

/-- The texts of some chunks, in order. -/
def deltas (cs : List Chunk) : List String :=
  cs.filterMap fun
    | .delta text => some text
    | _ => none

/-- What a chunk says about the task of the assistant, if it says anything: a call that has a
name announces it, and what comes of a call or ends a reply leaves no task.  The name of the first
call counts if the chunk itself has none. -/
def task? : Chunk → Option (Option String)
  | .delta _ => none
  | .toolCall _ (some name) => some (some name)
  | .toolCall (some (call :: _)) none => call.name.map some
  | .toolCall _ none => none
  | .toolResult _ => some none
  | .done _ _ _ => some none
  | .error _ => some none

/-- The thread that a chunk names. -/
def thread? : Chunk → Option String
  | .done _ _ thread => thread
  | _ => none

/-- Of two lists of chunks, the second has two adjacent deltas of the first in one, or an empty
delta less. -/
inductive Recut : List Chunk → List Chunk → Prop
  | joined (before : List Chunk) (a b : String) (after : List Chunk) :
      Recut (before ++ .delta a :: .delta b :: after) (before ++ .delta (a ++ b) :: after)
  | dropped (before after : List Chunk) : Recut (before ++ .delta "" :: after) (before ++ after)

end Chunk

namespace Transcript

open Chunk

/-- The transcript after some chunks; `id` names the message that receives text. -/
def fold (t : Transcript) (id : String) (cs : List Chunk) : Transcript :=
  cs.foldl (fun t c => (t.reduce id c).transcript) t

variable (t : Transcript) (id : String)

/-- No chunks leave the transcript as it is. -/
@[simp]
theorem fold_nil : t.fold id [] = t := rfl

/-- Chunks are folded from the first on. -/
@[simp]
theorem fold_cons (c : Chunk) (cs : List Chunk) :
    t.fold id (c :: cs) = (t.reduce id c).transcript.fold id cs := rfl

/-- Chunks are folded one part after another. -/
theorem fold_append (cs cs' : List Chunk) :
    t.fold id (cs ++ cs') = (t.fold id cs).fold id cs' := by
  unfold fold
  rw [List.foldl_append]

/-! ## Messages -/

/-- Two texts appended one after the other are one text. -/
theorem appendTo_appendTo (a b : String) (ms : List Message) :
    appendTo id b (appendTo id a ms) = appendTo id (a ++ b) ms := by
  induction ms with
  | nil => rfl
  | cons m ms ih =>
    by_cases h : m.id = id
    · subst h
      simp [appendTo, String.append_assoc]
    · simp [appendTo, h, ih]

/-- The first message of the given name grows by the text; nothing else changes. -/
theorem appendTo_first {before : List Message} (hbefore : ∀ m ∈ before, m.id ≠ id) {m : Message}
    (hm : m.id = id) (text : String) (after : List Message) :
    appendTo id text (before ++ m :: after) =
      before ++ { m with content := m.content ++ text } :: after := by
  have hnot : id ∉ before.map Message.id := by
    intro hmem
    obtain ⟨m', hm', heq⟩ := List.mem_map.1 hmem
    exact hbefore m' hm' heq
  rw [appendTo_append_of_not_mem hnot, appendTo, if_pos hm]

/-- Nothing is appended where no message has the name. -/
theorem appendTo_of_not_mem (ms : List Message) (h : ∀ m ∈ ms, m.id ≠ id) (text : String) :
    appendTo id text ms = ms := by
  induction ms with
  | nil => rfl
  | cons m ms ih =>
    obtain ⟨hm, hrest⟩ := List.forall_mem_cons.1 h
    rw [appendTo, if_neg hm, ih hrest]

/-- The text of some chunks begins with the text of the first. -/
theorem join_deltas_cons (c : Chunk) (cs : List Chunk) :
    String.join (deltas (c :: cs)) = c.text ++ String.join (deltas cs) := by
  cases c <;> simp [deltas, Chunk.text]

/-- Folding appends the text of all deltas to one message. -/
theorem fold_messages (cs : List Chunk) :
    (t.fold id cs).messages = appendTo id (String.join (deltas cs)) t.messages := by
  induction cs generalizing t with
  | nil => simp [deltas, appendTo_empty]
  | cons c cs ih => rw [fold_cons, ih, reduce_messages, appendTo_appendTo, join_deltas_cons]

/-! ## The reply and the task -/

/-- A terminal chunk ends the reply. -/
theorem fold_streaming (cs : List Chunk) :
    (t.fold id cs).streaming = if cs.any isTerminal then none else t.streaming := by
  induction cs generalizing t with
  | nil => rfl
  | cons c cs ih =>
    rw [fold_cons, ih, reduce_streaming, List.any_cons]
    cases c.isTerminal <;> simp

/-- A chunk may say what the assistant is doing. -/
theorem reduce_task (c : Chunk) :
    (t.reduce id c).transcript.task = c.task?.getD t.task := by
  cases c with
  | toolCall calls name =>
    cases name with
    | some name => simp [reduce, taskOf, task?]
    | none =>
      rcases calls with _ | (_ | ⟨call, rest⟩)
      · simp [reduce, taskOf, task?]
      · simp [reduce, taskOf, task?]
      · cases hname : call.name <;> simp [reduce, taskOf, task?, hname]
  | _ => rfl

/-- The last chunk that says what the assistant is doing counts. -/
theorem fold_task (cs : List Chunk) :
    (t.fold id cs).task = (cs.filterMap task?).getLast?.getD t.task := by
  induction cs using List.reverseRecOn with
  | nil => rfl
  | append_singleton cs c ih =>
    rw [fold_append, fold_cons, fold_nil, reduce_task, ih, List.filterMap_append]
    cases hc : c.task? <;> simp [hc]

/-- A chunk may say which thread the chat belongs to. -/
theorem reduce_thread (c : Chunk) : (t.reduce id c).thread = c.thread? := by
  cases c <;> rfl

/-- What the user is told about a chunk is never blank. -/
theorem reduce_notice_not_blank {c : Chunk} {notice : String}
    (h : (t.reduce id c).notice = some notice) : Text.isBlankText notice = false := by
  cases c with
  | error message =>
    obtain rfl := Option.some.inj h
    exact errorNotice_not_blank message
  | _ => cases h

/-! ## Deltas cut anew -/

/-- Two deltas are folded as one. -/
theorem reduce_deltas (a b : String) :
    ((t.reduce id (.delta a)).transcript.reduce id (.delta b)).transcript =
      (t.reduce id (.delta (a ++ b))).transcript := by
  simp [reduce, appendTo_appendTo]

/-- An empty delta changes nothing. -/
theorem reduce_empty : (t.reduce id (.delta "")).transcript = t := by
  simp [reduce, appendTo_empty]

/-- However often deltas are joined, cut or left out when they are empty, the transcript in the
end is the same. -/
theorem fold_recut {cs cs' : List Chunk} (h : Relation.EqvGen Recut cs cs') :
    t.fold id cs = t.fold id cs' := by
  induction h with
  | rel cs cs' h =>
    cases h with
    | joined before a b after =>
      rw [fold_append, fold_append, fold_cons, fold_cons, fold_cons, reduce_deltas]
    | dropped before after => rw [fold_append, fold_append, fold_cons, reduce_empty]
  | refl => rfl
  | symm _ _ _ ih => exact ih.symm
  | trans _ _ _ _ _ ih ih' => exact ih.trans ih'

/-- A reply folded into a transcript.  For every transcript, every name and all chunks: names,
roles and the order of the messages stay; the first message of that name has its old content
followed by the texts of all deltas, and every other message is as it was; a reply is still being
received if none of the chunks is terminal; the task is what the last chunk that says something
about it says.  On the way, the user is told something about exactly the chunks that say that the
reply failed, and never something blank; a thread is named exactly by the chunks that end a reply,
and it is theirs.  In the end it makes no difference how the texts were cut into deltas. -/
theorem fold_reply (cs : List Chunk) :
    (t.fold id cs).messages.map (fun m => (m.id, m.role)) =
      t.messages.map (fun m => (m.id, m.role)) ∧
    (∀ before m after, t.messages = before ++ m :: after → m.id = id →
      (∀ m' ∈ before, m'.id ≠ id) →
      (t.fold id cs).messages =
        before ++ { m with content := m.content ++ String.join (deltas cs) } :: after) ∧
    ((∀ m ∈ t.messages, m.id ≠ id) → (t.fold id cs).messages = t.messages) ∧
    (t.fold id cs).streaming = (if cs.any isTerminal then none else t.streaming) ∧
    (t.fold id cs).task = (cs.filterMap task?).getLast?.getD t.task ∧
    (∀ before c after, cs = before ++ c :: after →
      let r := (t.fold id before).reduce id c
      t.fold id cs = r.transcript.fold id after ∧
      r.notice.isSome = c.isError ∧
      (∀ notice, r.notice = some notice → Text.isBlankText notice = false) ∧
      r.thread = c.thread?) ∧
    ∀ cs', Relation.EqvGen Recut cs cs' → t.fold id cs = t.fold id cs' := by
  have hmessages := t.fold_messages id cs
  refine ⟨?_, ?_, ?_, t.fold_streaming id cs, t.fold_task id cs, ?_, fun _ => t.fold_recut id⟩
  · rw [hmessages, appendTo_ids]
  · intro before m after hsplit hm hbefore
    rw [hmessages, hsplit, appendTo_first id hbefore hm]
  · intro hnone
    rw [hmessages, appendTo_of_not_mem id t.messages hnone]
  · intro before c after hsplit r
    refine ⟨?_, reduce_notice_isSome _ id c, ?_, reduce_thread _ id c⟩
    · rw [hsplit, fold_append, fold_cons]
    · intro notice hnotice
      exact reduce_notice_not_blank _ id hnotice

/-- Two messages of one name, of which the first receives the reply. -/
def twoOfOneName : Transcript where
  messages := [⟨"m", .assistant, "Well, "⟩, ⟨"m", .assistant, "Bye"⟩]
  streaming := some "m"

/-- A reply with a tool, an empty delta, and a delta and a call behind its end. -/
def replyWithTool : List Chunk :=
  [.delta "he", .toolCall (some [⟨none, some "search", none⟩]) none, .delta "", .delta "llo",
    .toolCall none none, .done none none (some "t1"), .delta "!", .toolCall none (some "late")]

/-- The first of the two messages has all texts, and what comes behind the end still counts. -/
theorem fold_reply_twoOfOneName :
    twoOfOneName.fold "m" replyWithTool =
      ⟨[⟨"m", .assistant, "Well, hello!"⟩, ⟨"m", .assistant, "Bye"⟩], none, some "late"⟩ := by
  obtain ⟨-, hfirst, -, hstreaming, htask, -⟩ := twoOfOneName.fold_reply "m" replyWithTool
  have hmessages := hfirst [] _ _ rfl rfl (by simp)
  have hjoin : String.join (deltas replyWithTool) = "hello!" := by decide +kernel
  rw [hjoin] at hmessages
  generalize twoOfOneName.fold "m" replyWithTool = after at *
  obtain ⟨messages, streaming, task⟩ := after
  subst hmessages hstreaming htask
  decide +kernel

end Transcript

end ChatGateway
