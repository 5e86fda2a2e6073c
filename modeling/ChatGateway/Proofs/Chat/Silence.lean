import Mathlib
import ChatGateway.Proofs.Chat.Turns

/-!
# Superseded operations are silent

Once an operation has been started and is no longer current, it never becomes current
again, because numbers are never given out twice.  Whatever it still brings is dropped
without a trace.  So two continuations that differ only in what the operation brings, and
in where it comes, cannot be told apart: all other turns are answered alike.
-/

set_option autoImplicit false

namespace ChatGateway.Conversation

/-- Turns with their answers. -/
def record (s : Conversation) : List Turn → List (Turn × Answer)
  | [] => []
  | t :: rest => (t, s.take t) :: (s.take t).conversation.record rest

/-- What some turns do is recorded before what later ones do. -/
theorem record_append (s : Conversation) (before rest : List Turn) :
    s.record (before ++ rest) = s.record before ++ (s.after before).record rest := by
  induction before generalizing s with
  | nil => rfl
  | cons t before ih => simp [record, ih]

/-- The turns that do not come from `op`. -/
def without (op : Operation) (turns : List Turn) : List Turn :=
  turns.filter fun t => !t.comesFrom op

/-- What is recorded of the turns that do not come from `op`. -/
def recordWithout (s : Conversation) (op : Operation) (turns : List Turn) : List (Turn × Answer) :=
  (s.record turns).filter fun e => !e.1.comesFrom op

/-- `op` has been started, and something has ended it. -/
structure Silent (s : Conversation) (op : Operation) : Prop where
  numbered : s.Numbered op
  notCurrent : op ∉ s.current

/-- An action of an operation that is not current is dropped. -/
theorem apply_of_not_current {s : Conversation} {op : Operation} {a : Action}
    (notCurrent : op ∉ s.current) (brings : op.brings a = true) :
    s.apply a = { conversation := s } := by
  have hstep := apply_step s a
  generalize s.apply a = o at hstep
  cases hstep with
  | stale => rfl
  | lateLoad => rfl
  | lateFailure => rfl
  | @receive stream id c current =>
    cases op with
    | load q => simp [Operation.brings] at brings
    | stream k =>
      obtain rfl : stream = k := by simpa [Operation.brings] using brings
      exact absurd ((stream_mem_current s stream).2 current) notCurrent
  | @loaded request thread messages current | @failed request thread failure current =>
    cases op with
    | stream k => simp [Operation.brings] at brings
    | load q =>
      obtain rfl : request = q := by simpa [Operation.brings] using brings
      exact absurd ((load_mem_current s request).2 current) notCurrent
  | _ => cases op <;> simp [Operation.brings] at brings

namespace Silent

variable {s : Conversation} {op : Operation}

/-- What a silent operation brings is answered by nothing and changes nothing. -/
theorem take_eq (h : Silent s op) {t : Turn} (comes : t.comesFrom op = true) :
    s.take t = { conversation := s } := by
  cases t with
  | tell => cases comes
  | act a =>
    have hdropped := apply_of_not_current h.notCurrent comes
    simp [Conversation.take, hdropped]

/-- No turn makes a silent operation current again. -/
theorem take (h : Silent s op) (wf : WellFormed s) (t : Turn) :
    Silent (s.take t).conversation op := by
  refine ⟨numbered_take t h.numbered, fun hop => ?_⟩
  rcases (mem_current_take wf t).1 hop with ⟨hcur, -⟩ | hstarts
  · exact h.notCurrent hcur
  · exact (numbered_starts hstarts).1 h.numbered

/-- An operation that is silent stays so. -/
theorem after (h : Silent s op) (wf : WellFormed s) (turns : List Turn) :
    Silent (s.after turns) op := by
  induction turns generalizing s with
  | nil => exact h
  | cons t rest ih => exact ih (h.take wf t) (wf.take t)

/-- The turns of a silent operation may be left out. -/
theorem after_without (h : Silent s op) (wf : WellFormed s) (turns : List Turn) :
    s.after turns = s.after (without op turns) := by
  induction turns generalizing s with
  | nil => rfl
  | cons t rest ih =>
    cases hc : t.comesFrom op with
    | true =>
      have hskip : without op (t :: rest) = without op rest := by simp [without, hc]
      rw [hskip, after_cons, h.take_eq hc]
      exact ih h wf
    | false =>
      have hkeep : without op (t :: rest) = t :: without op rest := by simp [without, hc]
      rw [hkeep, after_cons, after_cons]
      exact ih (h.take wf t) (wf.take t)

/-- The other turns are answered as if the turns of a silent operation had not been. -/
theorem recordWithout_eq (h : Silent s op) (wf : WellFormed s) (turns : List Turn) :
    s.recordWithout op turns = s.record (without op turns) := by
  induction turns generalizing s with
  | nil => rfl
  | cons t rest ih =>
    cases hc : t.comesFrom op with
    | true =>
      have hskip : without op (t :: rest) = without op rest := by simp [without, hc]
      have hrec : s.recordWithout op (t :: rest) = s.recordWithout op rest := by
        simp [recordWithout, record, hc, h.take_eq hc]
      rw [hskip, hrec]
      exact ih h wf
    | false =>
      have hkeep : without op (t :: rest) = t :: without op rest := by simp [without, hc]
      have hrec : s.recordWithout op (t :: rest) =
          (t, s.take t) :: (s.take t).conversation.recordWithout op rest := by
        simp [recordWithout, record, hc]
      rw [hkeep, hrec, record]
      exact congrArg _ (ih (h.take wf t) (wf.take t))

end Silent

/-- Once superseded, always silent.  After turns that started `op` and left it no longer
current, two continuations that differ only in the turns that come from `op` lead to the
same conversation and answer every other turn alike: with the same conversation, command
and cancelled tokens, and with the same notices told.  Wherever a turn that comes from `op`
stands, it is answered by nothing and changes nothing. -/
theorem superseded_silent {model : String} {thread : Option String} {history : List Turn}
    {op : Operation} (issued : op ∈ (start model thread).started history)
    (superseded : op ∉ ((start model thread).after history).current)
    {turns turns' : List Turn} (same : without op turns = without op turns') :
    let s := (start model thread).after history
    s.after turns = s.after turns' ∧
    s.recordWithout op turns = s.recordWithout op turns' ∧
    ∀ before t rest, turns = before ++ t :: rest → t.comesFrom op = true →
      (s.after before).take t = { conversation := s.after before } := by
  intro s
  have wf : WellFormed s := (wellFormed_start model thread).after history
  have silent : Silent s op := ⟨numbered_of_started issued, superseded⟩
  refine ⟨?_, ?_, ?_⟩
  · rw [silent.after_without wf turns, silent.after_without wf turns', same]
  · rw [silent.recordWithout_eq wf turns, silent.recordWithout_eq wf turns', same]
  · rintro before t rest - comes
    exact (silent.after wf before).take_eq comes

/-- A load that a message has taken the place of. -/
def replacedLoad : List Turn :=
  [.act (.selectThread "t"), .act (.submit "hello")]

/-- Late results of the replaced load, in different places and numbers, leave no trace in
what follows. -/
theorem superseded_silent_replacedLoad :
    let s := (start "m" none).after replacedLoad
    let reply : List Turn := [.act (.chunk 1 (.delta "Hi")), .act (.chunk 1 (.error none)), .tell]
    let history : Turn := .act (.threadLoaded 1 "t" [⟨"m1", "user", "earlier"⟩])
    let refusal : Turn := .act (.threadFailed 1 "t" .emptyResponse)
    Operation.load 1 ∈ (start "m" none).started replacedLoad ∧
    Operation.load 1 ∉ s.current ∧
    s.recordWithout (.load 1) (history :: reply ++ [refusal]) =
      s.recordWithout (.load 1) (reply.take 1 ++ refusal :: history :: reply.drop 1) := by
  intro s reply history refusal
  have issued : Operation.load 1 ∈ (start "m" none).started replacedLoad := by decide +kernel
  have superseded : Operation.load 1 ∉ s.current := by decide +kernel
  have same : without (.load 1) (history :: reply ++ [refusal]) =
      without (.load 1) (reply.take 1 ++ refusal :: history :: reply.drop 1) := by decide +kernel
  exact ⟨issued, superseded, (superseded_silent issued superseded same).2.1⟩

end ChatGateway.Conversation
