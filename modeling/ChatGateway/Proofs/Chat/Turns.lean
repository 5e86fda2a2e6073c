import Mathlib
import ChatGateway.Proofs.Chat.Operations

/-!
# The turns of a conversation

A conversation is used in turns: an action is applied, or the user is told what there is
to tell.  The answer to a turn is all that the outside learns from it.  A command that
starts an operation hands out a token for it, and the conversation may cancel that token
later; `started` and `cancelledIn` collect both over the turns of a run.  Telling the user
bears on none of it: turns lead where their actions lead (`after_eq_run`).

What a turn does to the operations is said by two equivalences.  A turn cancels the current
operations that it aborts (`mem_cancelled_take`), and it leaves those current that it
neither aborts nor ends, besides the one that it starts (`mem_current_take`).
-/

set_option autoImplicit false

namespace ChatGateway

/-- One use of a conversation. -/
inductive Turn
  | act (a : Action)
  /-- The user is told what there is to tell. -/
  | tell
deriving DecidableEq, Repr

/-- Whether an action makes a conversation give an operation up, if it is current. -/
def Operation.abortedBy (op : Operation) : Action → Bool
  | .submit content => Text.trim content ≠ ""
  | .cancel =>
    match op with
    | .stream _ => true
    | .load _ => false
  | .selectThread _ => true
  | .newThread => true
  | _ => false

/-- Whether a turn makes a conversation give `op` up, if it is current. -/
def Turn.aborts (op : Operation) : Turn → Bool
  | .act a => op.abortedBy a
  | .tell => false

/-- Whether a turn is the end of `op`, if it is current. -/
def Turn.ends (op : Operation) : Turn → Bool
  | .act a => op.endedBy a
  | .tell => false

/-- Whether a turn brings something from `op`. -/
def Turn.comesFrom (op : Operation) : Turn → Bool
  | .act a => op.brings a
  | .tell => false

namespace Conversation

/-- What a turn gives: the outcome of an action, or what the user is told. -/
structure Answer extends Outcome where
  told : List String := []
deriving DecidableEq, Repr

/-- The answer to a turn. -/
def take (s : Conversation) : Turn → Answer
  | .act a => { toOutcome := s.apply a }
  | .tell => { conversation := s.takeNotices.2, told := s.takeNotices.1 }

/-- The operation that a turn starts. -/
def Answer.starts (a : Answer) : Option Operation :=
  a.command.bind Command.opens

/-- The conversation after some turns. -/
def after (s : Conversation) (turns : List Turn) : Conversation :=
  turns.foldl (fun s t => (s.take t).conversation) s

/-- The operations that some turns start, in order. -/
def started (s : Conversation) : List Turn → List Operation
  | [] => []
  | t :: rest => (s.take t).starts.toList ++ (s.take t).conversation.started rest

/-- The operations whose tokens some turns cancel, in order. -/
def cancelledIn (s : Conversation) : List Turn → List Operation
  | [] => []
  | t :: rest => (s.take t).cancelled ++ (s.take t).conversation.cancelledIn rest

section runs

variable (s : Conversation)

/-- Without turns nothing happens. -/
@[simp]
theorem after_nil : s.after [] = s := rfl

/-- The first turn is taken first. -/
@[simp]
theorem after_cons (t : Turn) (rest : List Turn) :
    s.after (t :: rest) = (s.take t).conversation.after rest := rfl

/-- Turns are taken one after another. -/
theorem after_append (before rest : List Turn) :
    s.after (before ++ rest) = (s.after before).after rest := by
  simp [after]

/-- The last turn is taken last. -/
theorem after_concat (turns : List Turn) (t : Turn) :
    s.after (turns ++ [t]) = ((s.after turns).take t).conversation := by
  simp [after]

/-- Operations are started one turn after another. -/
theorem started_append (before rest : List Turn) :
    s.started (before ++ rest) = s.started before ++ (s.after before).started rest := by
  induction before generalizing s with
  | nil => rfl
  | cons u before ih => simp [started, ih]

/-- What the last turn starts is started last. -/
theorem started_concat (turns : List Turn) (t : Turn) :
    s.started (turns ++ [t]) = s.started turns ++ ((s.after turns).take t).starts.toList := by
  simp [started_append, started]

/-- Operations are cancelled one turn after another. -/
theorem cancelledIn_append (before rest : List Turn) :
    s.cancelledIn (before ++ rest) = s.cancelledIn before ++ (s.after before).cancelledIn rest := by
  induction before generalizing s with
  | nil => rfl
  | cons u before ih => simp [cancelledIn, ih]

/-- What the last turn cancels is cancelled last. -/
theorem cancelledIn_concat (turns : List Turn) (t : Turn) :
    s.cancelledIn (turns ++ [t]) = s.cancelledIn turns ++ ((s.after turns).take t).cancelled := by
  simp [cancelledIn_append, cancelledIn]

end runs

/-! ## What has been told does not matter -/

section step

variable {s : Conversation} {a : Action} {o : Outcome}

/-- An action cancels the current operations that it aborts. -/
theorem Step.mem_cancelled_iff (hstep : Step s a o) (op : Operation) :
    op ∈ o.cancelled ↔ op ∈ s.current ∧ op.abortedBy a = true := by
  cases hstep with
  | blank blank => simp [Operation.abortedBy, blank]
  | send given => simp [Conversation.send, Operation.abortedBy, given]
  | receive => simp [Operation.abortedBy]
  | cancel => cases op <;> simp [cancelStream, Operation.abortedBy]
  | _ => simp [Operation.abortedBy]

/-- An action leaves a current operation current unless it aborts or ends it. -/
theorem Step.current_kept (hstep : Step s a o) {op : Operation} (current : op ∈ s.current)
    (kept : op.abortedBy a = false) (open_ : op.endedBy a = false) :
    op ∈ o.conversation.current := by
  cases hstep with
  | blank => exact current
  | stale => exact current
  | lateLoad => exact current
  | lateFailure => exact current
  | send given => simp [Operation.abortedBy, given] at kept
  | selectThread => simp [Operation.abortedBy] at kept
  | newThread => simp [Operation.abortedBy] at kept
  | @receive stream id c hstream streaming =>
    cases op with
    | load q => simpa using current
    | stream k =>
      have hk : s.stream = some k := by simpa using current
      have hsame : stream = k := by simpa [hk] using hstream.symm
      have hc : c.isTerminal = false := by
        simpa [Operation.endedBy, Operation.brings, hsame] using open_
      simp [hc, hk]
  | cancel =>
    cases op with
    | stream k => simp [Operation.abortedBy] at kept
    | load q => simpa [cancelStream] using current
  | @loaded request thread messages hload =>
    cases op with
    | stream k => simpa [takeHistory] using current
    | load q =>
      have hq : s.load = some q := by simpa using current
      have hsame : request = q := by simpa [hq] using hload.symm
      simp [Operation.endedBy, Operation.brings, hsame] at open_
  | @failed request thread failure hload =>
    cases op with
    | stream k => simpa [failLoad] using current
    | load q =>
      have hq : s.load = some q := by simpa using current
      have hsame : request = q := by simpa [hq] using hload.symm
      simp [Operation.endedBy, Operation.brings, hsame] at open_

/-- The operation that an action starts is current after it. -/
theorem Step.current_of_opens (hstep : Step s a o) {op : Operation}
    (hop : o.command.bind Command.opens = some op) : op ∈ o.conversation.current := by
  cases hstep with
  | send =>
    obtain rfl : Operation.stream (s.lastStream + 1) = op := by
      simpa [Conversation.send, Command.opens] using hop
    simp [Conversation.send]
  | selectThread =>
    obtain rfl : Operation.load (s.lastLoad + 1) = op := by
      simpa [Command.opens] using hop
    simp
  | @receive stream id c current streaming =>
    cases hr : (s.transcript.reduce id c).thread with
    | none => simp [Conversation.receive, hr] at hop
    | some thread =>
      by_cases h : s.thread = some thread <;>
        simp [Conversation.receive, hr, h, Command.opens] at hop
  | loaded => simp [Command.opens] at hop
  | newThread => simp [Command.opens] at hop
  | _ => cases hop

end step

/-! ## What a turn does to the operations -/

section take

variable {s : Conversation} {op : Operation}

/-- Every turn keeps the slots in order. -/
theorem WellFormed.take (h : WellFormed s) (t : Turn) : WellFormed (s.take t).conversation := by
  cases t with
  | act a => exact h.step (apply_step s a)
  | tell =>
    exact
      { streaming_iff := h.streaming_iff
        exclusive := h.exclusive
        task_idle := h.task_idle
        stream_le := h.stream_le
        load_le := h.load_le }

/-- All turns keep the slots in order. -/
theorem WellFormed.after (h : WellFormed s) (turns : List Turn) : WellFormed (s.after turns) := by
  induction turns generalizing s with
  | nil => exact h
  | cons t rest ih => exact ih (h.take t)

/-- A turn cancels the current operations that it gives up. -/
theorem mem_cancelled_take (s : Conversation) (t : Turn) (op : Operation) :
    op ∈ (s.take t).cancelled ↔ op ∈ s.current ∧ t.aborts op = true := by
  cases t with
  | act a => exact (apply_step s a).mem_cancelled_iff op
  | tell => simp [Conversation.take, Turn.aborts]

/-- After a turn those operations are current that it leaves current, and the one that it starts. -/
theorem mem_current_take (h : WellFormed s) (t : Turn) :
    op ∈ (s.take t).conversation.current ↔
      (op ∈ s.current ∧ t.aborts op = false ∧ t.ends op = false) ∨
        (s.take t).starts = some op := by
  cases t with
  | tell =>
    -- telling the user touches no slot
    constructor
    · exact fun hop => .inl ⟨hop, rfl, rfl⟩
    · rintro (⟨hop, -, -⟩ | hopens)
      · exact hop
      · cases hopens
  | act a =>
    have hstep := apply_step s a
    constructor
    · intro hop
      rcases hstep.current_after h hop with ⟨hcur, hnot, hend⟩ | ⟨hopens, -⟩
      · have hkept : op.abortedBy a = false := by
          simpa [hstep.mem_cancelled_iff, hcur] using hnot
        exact .inl ⟨hcur, hkept, hend⟩
      · exact .inr hopens
    · rintro (⟨hcur, hkept, hopen⟩ | hopens)
      · exact hstep.current_kept hcur hkept hopen
      · exact hstep.current_of_opens hopens

/-- Numbers stay given out. -/
theorem numbered_take (t : Turn) (hop : s.Numbered op) : (s.take t).conversation.Numbered op := by
  cases t with
  | act a => exact (apply_step s a).numbered hop
  | tell => cases op <;> exact hop

/-- A turn starts an operation under a number that was not given out before. -/
theorem numbered_starts {t : Turn} (hop : (s.take t).starts = some op) :
    ¬ s.Numbered op ∧ (s.take t).conversation.Numbered op := by
  cases t with
  | act a => exact (apply_step s a).numbered_opens hop
  | tell => cases hop

/-- A number that has been given out stays so. -/
theorem numbered_after (turns : List Turn) (hop : s.Numbered op) : (s.after turns).Numbered op := by
  induction turns generalizing s with
  | nil => exact hop
  | cons t rest ih => exact ih (numbered_take t hop)

/-- What has been started has its number from the conversation. -/
theorem numbered_of_started {turns : List Turn} (hop : op ∈ s.started turns) :
    (s.after turns).Numbered op := by
  induction turns generalizing s with
  | nil => cases hop
  | cons t rest ih =>
    rw [started, List.mem_append, Option.mem_toList] at hop
    rcases hop with hop | hop
    · exact numbered_after rest (numbered_starts hop).2
    · exact ih hop

end take

end Conversation

end ChatGateway
