/-!
# Feeds and agendas

A feed is what a source delivers over time: results, each some time after the one
before.  It may end or fall silent for ever.  An agenda holds what is still to happen,
in the order of time; what was put in first happens first among equal times.
-/

set_option autoImplicit false

namespace ChatGateway

/-- One result of a feed. -/
structure FeedItem (α : Type) where
  /-- The time since the item before, or since the feed was opened. -/
  delay : Nat
  /-- The result, or nothing if the feed falls silent here. -/
  result : Option α
deriving Repr

/-- The results that a source delivers. -/
abbrev Feed (α : Type) := List (FeedItem α)

namespace Feed

variable {α : Type}

/-- The results of a feed that is opened at `start`, with their times. -/
def timed (start : Nat) : Feed α → List (Nat × α)
  | [] => []
  | item :: rest =>
    match item.result with
    | none => []
    | some x => (start + item.delay, x) :: timed (start + item.delay) rest

/-- The time at which a feed that is opened at `start` ends, if it does. -/
def endTime (start : Nat) : Feed α → Option Nat
  | [] => some start
  | item :: rest =>
    match item.result with
    | none => none
    | some _ => endTime (start + item.delay) rest

/-- The feed that gives some results at once and ends. -/
def atOnce (results : List α) : Feed α :=
  results.map fun x => ⟨0, some x⟩

end Feed

/-- Something that happens at a time. -/
structure Due (τ : Type) where
  time : Nat
  what : τ
deriving DecidableEq, Repr

/-- What is still to happen, in the order of time. -/
abbrev Agenda (τ : Type) := List (Due τ)

namespace Agenda

variable {τ : Type}

/-- The agenda with `d` after everything that happens no later. -/
def insert (d : Due τ) : Agenda τ → Agenda τ
  | [] => [d]
  | e :: es => if e.time ≤ d.time then e :: insert d es else d :: e :: es

/-- The agenda with each of `ds` put in. -/
def insertAll (agenda : Agenda τ) (ds : List (Due τ)) : Agenda τ :=
  ds.foldl (fun a d => insert d a) agenda

/-- What happens up to the time `limit`, and what is still to happen after it. -/
def take (limit : Nat) (agenda : Agenda τ) : List τ × Agenda τ :=
  ((agenda.takeWhile fun d => d.time ≤ limit).map Due.what,
    agenda.dropWhile fun d => d.time ≤ limit)

/-- The agenda without what `gone` holds of. -/
def drop (gone : τ → Bool) (agenda : Agenda τ) : Agenda τ :=
  agenda.filter fun d => !gone d.what

/-- An agenda is in order when no entry happens before an earlier one. -/
def InOrder (agenda : Agenda τ) : Prop :=
  agenda.Pairwise fun d e => d.time ≤ e.time

/-- The entries after an insertion are those before and the new one. -/
theorem mem_insert (d e : Due τ) (agenda : Agenda τ) :
    e ∈ insert d agenda ↔ e = d ∨ e ∈ agenda := by
  induction agenda with
  | nil => simp [insert]
  | cons f fs ih =>
    by_cases h : f.time ≤ d.time
    · simp only [insert, h, ↓reduceIte, List.mem_cons, ih]
      exact or_left_comm
    · simp [insert, h]

/-- Insertion keeps an agenda in order. -/
theorem inOrder_insert (d : Due τ) (agenda : Agenda τ) (h : InOrder agenda) :
    InOrder (insert d agenda) := by
  induction agenda with
  | nil => simp [insert, InOrder]
  | cons e es ih =>
    obtain ⟨he, hes⟩ := List.pairwise_cons.1 h
    by_cases hd : e.time ≤ d.time
    · simp only [insert, hd, ↓reduceIte]
      refine List.pairwise_cons.2 ⟨?_, ih hes⟩
      intro f hf
      rcases (mem_insert d f es).1 hf with rfl | hf
      · exact hd
      · exact he f hf
    · simp only [insert, hd, ↓reduceIte]
      refine List.pairwise_cons.2 ⟨?_, h⟩
      intro f hf
      rcases List.mem_cons.1 hf with rfl | hf
      · omega
      · have := he f hf
        omega

end Agenda

end ChatGateway
