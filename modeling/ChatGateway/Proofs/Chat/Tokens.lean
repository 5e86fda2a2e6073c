import Mathlib
import ChatGateway.Proofs.Chat.Turns
import ChatGateway.Proofs.History

/-!
# The tokens of a conversation

Every operation that is started has a token.  A token is cancelled exactly when its
operation was replaced or aborted before its end was accepted, and the one operation that
is neither cancelled nor finished, if there is one, is the one in the slot that is taken.

The invariant `Accounted` says both of the turns so far.  One more turn cancels what it
aborts, finishes what it ends, and may start one operation under a new number, which no
earlier turn can have cancelled or finished.
-/

set_option autoImplicit false

namespace ChatGateway.Conversation

/-- The end of `op` has been accepted: a turn brought its terminal chunk or its result while
it was current. -/
def Finished (s : Conversation) (turns : List Turn) (op : Operation) : Prop :=
  Once (fun before t => t.ends op = true ∧ op ∈ (s.after before).current) turns

/-- `op` has been replaced or aborted after it was started and before its end was accepted. -/
def Superseded (s : Conversation) (turns : List Turn) (op : Operation) : Prop :=
  Once (fun before t => t.aborts op = true ∧ op ∈ s.started before ∧ ¬ s.Finished before op) turns

section once

variable (s : Conversation) (turns : List Turn) (t : Turn) (op : Operation)

/-- An operation has finished by a turn if it had before or the turn ends it while it is current. -/
theorem finished_concat :
    s.Finished (turns ++ [t]) op ↔
      s.Finished turns op ∨ (t.ends op = true ∧ op ∈ (s.after turns).current) :=
  once_concat _ _ _

/-- An operation is superseded by a turn if it was before or the turn gives it up when it has not
finished. -/
theorem superseded_concat :
    s.Superseded (turns ++ [t]) op ↔
      s.Superseded turns op ∨
        (t.aborts op = true ∧ op ∈ s.started turns ∧ ¬ s.Finished turns op) :=
  once_concat _ _ _

end once

section numbers

variable {s : Conversation} {turns : List Turn} {op : Operation}

/-- What has been cancelled has its number from the conversation. -/
theorem numbered_of_cancelledIn (h : WellFormed s) (hop : op ∈ s.cancelledIn turns) :
    (s.after turns).Numbered op := by
  induction turns generalizing s with
  | nil => cases hop
  | cons t rest ih =>
    rw [cancelledIn, List.mem_append] at hop
    rcases hop with hop | hop
    · have hcur := ((mem_cancelled_take s t op).1 hop).1
      exact numbered_after rest (numbered_take t (h.numbered hcur))
    · exact ih (h.take t) hop

/-- What has been finished has its number from the conversation. -/
theorem numbered_of_finished (h : WellFormed s) (hop : s.Finished turns op) :
    (s.after turns).Numbered op := by
  obtain ⟨before, t, rest, rfl, -, hcur⟩ := hop
  have hnum := (h.after before).numbered hcur
  rw [after_append]
  exact numbered_after (t :: rest) hnum

/-- No operation is started twice. -/
theorem nodup_started (s : Conversation) (turns : List Turn) : (s.started turns).Nodup := by
  induction turns using List.reverseRecOn with
  | nil => exact List.nodup_nil
  | append_singleton turns t ih =>
    rw [started_concat]
    refine List.nodup_append.2 ⟨ih, ?_, ?_⟩
    · cases ((s.after turns).take t).starts <;> simp
    · rintro op hold op' hnew rfl
      exact (numbered_starts (Option.mem_toList.1 hnew)).1 (numbered_of_started hold)

end numbers

/-! ## The account -/

/-- What the turns of a run have made of the operations that they started. -/
structure Accounted (s : Conversation) (turns : List Turn) : Prop where
  /-- What is current was started, and is neither cancelled nor finished. -/
  current_iff : ∀ op, op ∈ (s.after turns).current ↔
    op ∈ s.started turns ∧ op ∉ s.cancelledIn turns ∧ ¬ s.Finished turns op
  cancelled_iff : ∀ op, op ∈ s.cancelledIn turns ↔ s.Superseded turns op

namespace Accounted

variable {s : Conversation} {turns : List Turn}

/-- One more turn settles what it aborts and what it ends. -/
theorem concat (wf : WellFormed s) (h : Accounted s turns) (t : Turn) :
    Accounted s (turns ++ [t]) := by
  have hwf := wf.after turns
  refine ⟨fun op => ?_, fun op => ?_⟩
  · rw [after_concat, mem_current_take hwf, started_concat, cancelledIn_concat, finished_concat,
      List.mem_append, List.mem_append, Option.mem_toList, mem_cancelled_take]
    by_cases hnew : ((s.after turns).take t).starts = some op
    · -- the number is new, so nothing can have happened to the operation yet
      have hnum := (numbered_starts hnew).1
      have hcurrent : op ∉ (s.after turns).current := fun hop => hnum (hwf.numbered hop)
      have hcancelled : op ∉ s.cancelledIn turns := fun hop => hnum (numbered_of_cancelledIn wf hop)
      have hfinished : ¬ s.Finished turns op := fun hop => hnum (numbered_of_finished wf hop)
      simp [hnew, hcurrent, hcancelled, hfinished]
    · have hcur := h.current_iff op
      cases ha : t.aborts op <;> cases he : t.ends op <;> simp [hnew] <;> tauto
  · rw [cancelledIn_concat, superseded_concat, List.mem_append, mem_cancelled_take]
    have hcur := h.current_iff op
    have hcan := h.cancelled_iff op
    tauto

/-- Whatever the turns, all that they started is accounted for. -/
theorem of_idle (wf : WellFormed s) (idle : s.current = []) (turns : List Turn) :
    Accounted s turns := by
  induction turns using List.reverseRecOn with
  | nil =>
    refine ⟨fun op => ?_, fun op => ?_⟩
    · simp [idle, started]
    · simp [cancelledIn, Superseded, not_once_nil]
  | append_singleton turns t ih => exact ih.concat wf t

end Accounted

/-- At most one operation is current. -/
theorem WellFormed.current_unique {s : Conversation} (h : WellFormed s) {op op' : Operation}
    (hop : op ∈ s.current) (hop' : op' ∈ s.current) : op = op' := by
  cases op with
  | stream k =>
    have hk := (stream_mem_current s k).1 hop
    cases op' with
    | stream k' =>
      have hk' := (stream_mem_current s k').1 hop'
      simpa [hk] using hk'
    | load q =>
      have hq := (load_mem_current s q).1 hop'
      simp [h.load_of_stream hk] at hq
  | load q =>
    have hq := (load_mem_current s q).1 hop
    cases op' with
    | stream k =>
      have hk := (stream_mem_current s k).1 hop'
      simp [h.load_of_stream hk] at hq
    | load q' =>
      have hq' := (load_mem_current s q').1 hop'
      simpa [hq] using hq'

/-- Slots and tokens.  Whatever turns a new conversation has taken: its stream slot is taken
exactly while a message receives a reply; its two slots are never taken at once, so it is
busy exactly when one of them is; it has a task only while the stream slot is taken.  No
token is handed out twice; a token is cancelled exactly when its operation was replaced or
aborted before its end was accepted; and the operations that are neither cancelled nor
finished are those in the slots, at most one. -/
theorem tokens_accounted (model : String) (thread : Option String) (turns : List Turn) :
    let s := start model thread
    let c := s.after turns
    (c.stream.isSome = true ↔ c.transcript.streaming.isSome = true) ∧
    ¬ (c.stream.isSome = true ∧ c.load.isSome = true) ∧
    (c.isBusy = true ↔ Xor (c.stream.isSome = true) (c.load.isSome = true)) ∧
    (c.transcript.task.isSome = true → c.stream.isSome = true) ∧
    (s.started turns).Nodup ∧
    (∀ op, op ∈ s.cancelledIn turns ↔ s.Superseded turns op) ∧
    (∀ op, (op ∈ s.started turns ∧ op ∉ s.cancelledIn turns ∧ ¬ s.Finished turns op) ↔
      op ∈ c.current) ∧
    (∀ op op', op ∈ c.current → op' ∈ c.current → op = op') := by
  intro s c
  have wf : WellFormed c := (wellFormed_start model thread).after turns
  have account : Accounted s turns := .of_idle (wellFormed_start model thread) rfl turns
  have exclusive : ¬ (c.stream.isSome = true ∧ c.load.isSome = true) := by
    rintro ⟨hstream, hload⟩
    obtain ⟨k, hk⟩ := Option.isSome_iff_exists.1 hstream
    simp [wf.load_of_stream hk] at hload
  refine ⟨wf.streaming_iff.symm, exclusive, ?_, ?_, nodup_started s turns,
    account.cancelled_iff, fun op => (account.current_iff op).symm,
    fun op op' => wf.current_unique⟩
  · rw [wf.isBusy_iff, ← Option.isSome_iff_exists, ← Option.isSome_iff_exists,
      xor_iff_or_and_not_and]
    tauto
  · intro htask
    by_contra hstream
    have hidle := wf.task_idle (by simpa using hstream)
    simp [hidle] at htask

/-- A reply that a load takes the place of, a load that is finished, and a reply that is
finished before the user stops what is no longer there. -/
def replacedAndFinished : List Turn :=
  [.act (.submit "one"), .act (.selectThread "t"), .act (.chunk 1 .finished),
    .act (.threadLoaded 1 "t" []), .act (.submit "two"), .tell, .act (.chunk 2 .finished),
    .act .cancel, .act (.submit "three")]

/-- Of the four operations of `replacedAndFinished` the first is cancelled, the next two are
finished, and the last is current. -/
theorem tokens_accounted_replacedAndFinished :
    let s := start "m" none
    s.started replacedAndFinished = [.stream 1, .load 1, .stream 2, .stream 3] ∧
    (∀ op, s.Superseded replacedAndFinished op ↔ op = .stream 1) ∧
    (∀ op, op ∈ s.started replacedAndFinished → op ∉ s.cancelledIn replacedAndFinished →
      ¬ s.Finished replacedAndFinished op → op = .stream 3) := by
  intro s
  have hstarted : s.started replacedAndFinished = [.stream 1, .load 1, .stream 2, .stream 3] := by
    decide +kernel
  have hcancelled : s.cancelledIn replacedAndFinished = [.stream 1] := by decide +kernel
  have hcurrent : (s.after replacedAndFinished).current = [.stream 3] := by decide +kernel
  obtain ⟨-, -, -, -, -, hsuperseded, hopen, -⟩ := tokens_accounted "m" none replacedAndFinished
  refine ⟨hstarted, fun op => ?_, fun op hop hnot hfinished => ?_⟩
  · rw [← hsuperseded, hcancelled, List.mem_singleton]
  · have hmem := (hopen op).1 ⟨hop, hnot, hfinished⟩
    rwa [hcurrent, List.mem_singleton] at hmem

end ChatGateway.Conversation
