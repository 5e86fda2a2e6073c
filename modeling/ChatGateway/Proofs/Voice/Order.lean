import Mathlib
import ChatGateway.Proofs.Voice.Calls

/-!
# The order of calls that interleave

Whatever steps the calls take in between each other, they have answers that they could have had
one at a time, in an order that puts a call behind all that had returned before it came in.  A
call takes its place in that order when what it finds can no longer change: a start that sees
recording on at that moment, a call without need for a job when it finds out, a call with a job
when the recorder has answered and the flag says so.

The `Ledger` says which calls have their place in the order, and has a rule for each kind of step.
-/

set_option autoImplicit false

namespace ChatGateway.Voice

/-- The call `a` has returned before the call `b` came in. -/
def Precedes (history : List Event) (a b : Nat) : Prop :=
  ∃ before after answer call, history = before ++ after ∧ .answered a answer ∈ before ∧
    .begun call ∈ after ∧ call.id = b

/-- One more event lets a call precede another only if that other comes in with it. -/
theorem precedes_concat {history : List Event} {e : Event} {a b : Nat}
    (h : Precedes (history ++ [e]) a b) :
    Precedes history a b ∨
      ∃ call answer, e = .begun call ∧ call.id = b ∧ .answered a answer ∈ history := by
  obtain ⟨before, after, answer, call, hsplit, hanswered, hbegun, hb⟩ := h
  obtain ⟨early, late, rfl⟩ := List.append_of_mem hbegun
  rw [← List.append_assoc] at hsplit
  rcases concat_eq_append_cons.1 hsplit with ⟨-, hearly, he⟩ | ⟨rest, -, hhistory⟩
  · exact .inr ⟨call, answer, he.symm, hb, hearly ▸ List.mem_append_left _ hanswered⟩
  · refine .inl ⟨before, early ++ .begun call :: rest, answer, call, ?_, hanswered, by simp, hb⟩
    rw [hhistory, List.append_assoc]

namespace Floor

/-- A call has its answer and keeps it. -/
def Settled (f : Floor) (call : Call) (answer : Answer) : Prop :=
  f.calls call.id = some (call.request, .leaving answer) ∨
    f.calls call.id = some (call.request, .returned answer) ∨ f.turn = some (call, .done answer)

/-- A call has come in. -/
def Has (f : Floor) (call : Call) : Prop :=
  ∃ status, f.calls call.id = some (call.request, status)

/-- What is known of the calls: who came in, who has returned, and in which order those come
whose answers are settled. -/
structure Ledger (f : Floor) (history : List Event) (order : List (Call × Answer)) : Prop where
  served : ∀ call stage, f.turn = some (call, stage) →
    f.calls call.id = some (call.request, .served)
  mem_order : ∀ call answer, (call, answer) ∈ order ↔ f.Settled call answer
  nodup : (order.map fun e => e.1.id).Nodup
  begun : ∀ call, .begun call ∈ history ↔ f.Has call
  answered : ∀ id answer, .answered id answer ∈ history ↔
    ∃ request, f.calls id = some (request, .returned answer)
  inOrder : order.Pairwise fun a b => ¬ Precedes history b.1.id a.1.id

section moves

variable {f : Floor} {call : Call} {old new : Status}

/-- A call that goes on has come in before and after. -/
theorem has_move (there : f.calls call.id = some (call.request, old)) (new : Status)
    (other : Call) : (f.move call new).Has other ↔ f.Has other := by
  by_cases hid : other.id = call.id
  · simp [Has, hid, there]
  · simp only [Has, move_calls_of_ne _ _ _ hid]

/-- A call that goes on without returning changes no answer that was returned. -/
theorem returned_move (there : f.calls call.id = some (call.request, old))
    (hold : ∀ a, old ≠ .returned a) (hnew : ∀ a, new ≠ .returned a) (id : Nat)
    (answer : Answer) :
    (∃ request, (f.move call new).calls id = some (request, .returned answer)) ↔
      ∃ request, f.calls id = some (request, .returned answer) := by
  by_cases hid : id = call.id
  · simp [hid, there, hold, hnew]
  · simp only [move_calls_of_ne _ _ _ hid]

end moves

namespace Ledger

variable {history : List Event} {order : List (Call × Answer)} {f f' : Floor}

/-- A call that is not served does not have the turn. -/
theorem ne_of_turn (h : f.Ledger history order) {call other : Call} {status : Status}
    {stage : Stage} (there : f.calls call.id = some (call.request, status))
    (unserved : status ≠ .served) (hturn : f.turn = some (other, stage)) :
    other.id ≠ call.id := by
  intro hid
  have hserved := h.served other stage hturn
  rw [hid, there] at hserved
  exact unserved (congrArg Prod.snd (Option.some.inj hserved))

/-- A call whose answer is settled has come in. -/
theorem has_of_settled (h : f.Ledger history order) {call : Call} {answer : Answer}
    (settled : f.Settled call answer) : f.Has call := by
  rcases settled with hcall | hcall | hturn
  · exact ⟨_, hcall⟩
  · exact ⟨_, hcall⟩
  · exact ⟨_, h.served _ _ hturn⟩

/-- Steps that neither begin nor end a call and settle no answer. -/
theorem of_iff (h : f.Ledger history order)
    (served : ∀ call stage, f'.turn = some (call, stage) →
      f'.calls call.id = some (call.request, .served))
    (settled : ∀ call answer, f'.Settled call answer ↔ f.Settled call answer)
    (has : ∀ call, f'.Has call ↔ f.Has call)
    (returned : ∀ id answer, (∃ request, f'.calls id = some (request, .returned answer)) ↔
      ∃ request, f.calls id = some (request, .returned answer)) : f'.Ledger history order where
  served := served
  mem_order := fun call answer => (h.mem_order call answer).trans (settled call answer).symm
  nodup := h.nodup
  begun := fun call => (h.begun call).trans (has call).symm
  answered := fun id answer => (h.answered id answer).trans (returned id answer).symm
  inOrder := h.inOrder

/-- What the recorder does is no event of a call. -/
theorem recorder (h : f.Ledger history order) {e : Event} (hbegun : ∀ call, e ≠ .begun call)
    (hanswered : ∀ id answer, e ≠ .answered id answer) : f.Ledger (history ++ [e]) order where
  served := h.served
  mem_order := h.mem_order
  nodup := h.nodup
  begun := fun call => by simpa [(hbegun call).symm] using h.begun call
  answered := fun id answer => by simpa [(hanswered id answer).symm] using h.answered id answer
  inOrder := h.inOrder.imp fun hnot hprecedes => by
    rcases precedes_concat hprecedes with hearlier | ⟨call, -, he, -⟩
    · exact hnot hearlier
    · exact hbegun call he

/-- A call whose answer gets settled comes last. -/
theorem settle (h : f.Ledger history order) {call : Call} {answer : Answer}
    (served : ∀ call stage, f'.turn = some (call, stage) →
      f'.calls call.id = some (call.request, .served))
    (fresh : ∀ request status, f.calls call.id = some (request, status) →
      (∀ a, status ≠ .leaving a) ∧ ∀ a, status ≠ .returned a)
    (pending : ∀ other a, f.turn = some (other, .done a) → other.id ≠ call.id)
    (settled : ∀ other a, f'.Settled other a ↔
      f.Settled other a ∨ (other = call ∧ a = answer))
    (has : ∀ other, f'.Has other ↔ f.Has other)
    (returned : ∀ id a, (∃ request, f'.calls id = some (request, .returned a)) ↔
      ∃ request, f.calls id = some (request, .returned a)) :
    f'.Ledger history (order ++ [(call, answer)]) where
  served := served
  mem_order := fun other a => by
    rw [settled, ← h.mem_order, List.mem_append, List.mem_singleton, Prod.mk.injEq]
  nodup := by
    rw [List.map_append, List.map_singleton, ← List.concat_eq_append, List.nodup_concat]
    refine ⟨fun hmem => ?_, h.nodup⟩
    obtain ⟨⟨other, a⟩, hother, hid⟩ := List.mem_map.1 hmem
    rcases (h.mem_order other a).1 hother with hcall | hcall | hturn
    · exact (fresh _ _ (hid ▸ hcall)).1 a rfl
    · exact (fresh _ _ (hid ▸ hcall)).2 a rfl
    · exact pending other a hturn hid
  begun := fun other => (h.begun other).trans (has other).symm
  answered := fun id a => (h.answered id a).trans (returned id a).symm
  inOrder := by
    refine List.pairwise_append.2 ⟨h.inOrder, List.pairwise_singleton _ _, ?_⟩
    -- a call that has no answer yet cannot have returned before another came in
    rintro other - last hlast ⟨before, after, a, later, hsplit, hanswered, -, -⟩
    obtain rfl := List.mem_singleton.1 hlast
    have hmem : .answered call.id a ∈ history := hsplit ▸ List.mem_append_left _ hanswered
    obtain ⟨request, hcall⟩ := (h.answered _ _).1 hmem
    exact (fresh _ _ hcall).2 a rfl

/-- A call comes in. -/
theorem begin (h : f.Ledger history order) {call : Call} (fresh : f.calls call.id = none) :
    (f.move call .begun).Ledger (history ++ [.begun call]) order := by
  have hother {id : Nat} {entry : Request × Status} (hid : f.calls id = some entry) :
      (f.move call .begun).calls id = some entry := by
    have hne : id ≠ call.id := by
      rintro rfl
      rw [fresh] at hid
      cases hid
    rwa [move_calls_of_ne _ _ _ hne]
  have hback {id : Nat} {entry : Request × Status}
      (hid : (f.move call .begun).calls id = some entry) :
      f.calls id = some entry ∨ id = call.id ∧ entry = (call.request, .begun) := by
    by_cases hne : id = call.id
    · rw [hne, move_calls_self, Option.some.injEq] at hid
      exact .inr ⟨hne, hid.symm⟩
    · rw [move_calls_of_ne _ _ _ hne] at hid
      exact .inl hid
  refine ⟨?_, ?_, h.nodup, ?_, ?_, ?_⟩
  · intro other stage hturn
    exact hother (h.served other stage hturn)
  · intro other a
    rw [h.mem_order]
    constructor
    · exact Or.imp hother (Or.imp_left hother)
    · rintro (hcall | hcall | hturn)
      · rcases hback hcall with hcall | ⟨-, hentry⟩
        · exact .inl hcall
        · simp at hentry
      · rcases hback hcall with hcall | ⟨-, hentry⟩
        · exact .inr (.inl hcall)
        · simp at hentry
      · exact .inr (.inr hturn)
  · intro other
    rw [List.mem_append, List.mem_singleton, Event.begun.injEq, h.begun]
    constructor
    · rintro (⟨status, hcall⟩ | rfl)
      · exact ⟨status, hother hcall⟩
      · exact ⟨.begun, move_calls_self _ _ _⟩
    · rintro ⟨status, hcall⟩
      rcases hback hcall with hcall | ⟨hid, hentry⟩
      · exact .inl ⟨status, hcall⟩
      · exact .inr (by cases other; cases call; simp_all)
  · intro id a
    rw [List.mem_append, List.mem_singleton, h.answered]
    constructor
    · rintro (⟨request, hcall⟩ | he)
      · exact ⟨request, hother hcall⟩
      · cases he
    · rintro ⟨request, hcall⟩
      rcases hback hcall with hcall | ⟨-, hentry⟩
      · exact .inl ⟨request, hcall⟩
      · simp at hentry
  · -- the new call has no place in the order yet
    refine h.inOrder.imp_of_mem fun {a b} hmem _ hnot hprecedes => ?_
    rcases precedes_concat hprecedes with hearlier | ⟨later, -, he, hid, -⟩
    · exact hnot hearlier
    · obtain rfl := Event.begun.inj he
      obtain ⟨status, hcall⟩ := h.has_of_settled ((h.mem_order a.1 a.2).1 hmem)
      rw [← hid, fresh] at hcall
      cases hcall

/-- A call returns. -/
theorem answer (h : f.Ledger history order) {call : Call} {answer : Answer}
    (there : f.calls call.id = some (call.request, .leaving answer)) :
    (f.move call (.returned answer)).Ledger (history ++ [.answered call.id answer]) order := by
  have hother {id : Nat} (hne : id ≠ call.id) :
      (f.move call (.returned answer)).calls id = f.calls id := move_calls_of_ne _ _ _ hne
  have hself := move_calls_self f call (.returned answer)
  refine ⟨?_, ?_, h.nodup, ?_, ?_, ?_⟩
  · intro other stage hturn
    rw [hother (h.ne_of_turn there (by simp) hturn)]
    exact h.served other stage hturn
  · intro other a
    rw [h.mem_order]
    by_cases hid : other.id = call.id
    · simp only [Settled, hid, there, hself, move_turn]
      simp
    · simp only [Settled, hother hid, move_turn]
  · intro other
    simpa [has_move there] using h.begun other
  · intro id a
    rw [List.mem_append, List.mem_singleton, Event.answered.injEq, h.answered]
    by_cases hid : id = call.id
    · subst hid
      simp [there, eq_comm]
    · simp [hother hid, hid]
  · refine h.inOrder.imp fun hnot hprecedes => ?_
    rcases precedes_concat hprecedes with hearlier | ⟨later, -, he, -⟩
    · exact hnot hearlier
    · cases he

/-- A call goes on to another place, and no answer gets settled by that. -/
theorem move (h : f.Ledger history order) {call : Call} {old new : Status}
    {turn : Option (Call × Stage)} (there : f.calls call.id = some (call.request, old))
    (served : ∀ other stage, turn = some (other, stage) →
      other.id ≠ call.id ∧ f.turn = some (other, stage) ∨ other = call ∧ new = .served)
    (others : ∀ other a, other.id ≠ call.id →
      (turn = some (other, .done a) ↔ f.turn = some (other, .done a)))
    (own : ∀ other a, other.id = call.id →
      (other.request = call.request ∧ new = .leaving a ∨ turn = some (other, .done a) ↔
        other.request = call.request ∧ old = .leaving a ∨ f.turn = some (other, .done a)))
    (hold : ∀ a, old ≠ .returned a) (hnew : ∀ a, new ≠ .returned a) :
    Ledger { f.move call new with turn := turn } history order := by
  have hself := move_calls_self f call new
  have hother {id : Nat} (hne : id ≠ call.id) : (f.move call new).calls id = f.calls id :=
    move_calls_of_ne _ _ _ hne
  refine h.of_iff (fun other stage hturn => ?_) (fun other a => ?_) (has_move there new)
    (returned_move there hold hnew)
  · rcases served other stage hturn with ⟨hne, hbefore⟩ | ⟨rfl, rfl⟩
    · exact (hother hne).trans (h.served other stage hbefore)
    · exact hself
  · by_cases hid : other.id = call.id
    · simpa [Settled, hid, there, hself, hold, hnew, eq_comm] using own other a hid
    · simp only [Settled, hother hid, others other a hid]

section steps

variable {call : Call} {answer : Answer} {now : Stage}

/-- A call waits for its turn. -/
theorem queue (h : f.Ledger history order) (call : Call)
    (there : f.calls call.id = some (call.request, .begun)) :
    (f.move call .queued).Ledger history order :=
  h.move there (fun _ _ hturn => .inl ⟨h.ne_of_turn there (by simp) hturn, hturn⟩)
    (fun _ _ _ => .rfl) (by simp) (by simp) (by simp)

/-- A call that waits gets the turn when it is free. -/
theorem enter (h : f.Ledger history order)
    (there : f.calls call.id = some (call.request, .queued)) (free : f.turn = none) :
    Ledger { f.move call .served with turn := some (call, call.request.entry) }
      history order := by
  have hentry (other : Call) (a : Answer) :
      some (call, call.request.entry) ≠ some (other, .done a) := by
    intro heq
    have := congrArg Prod.snd (Option.some.inj heq)
    cases hrequest : call.request <;> simp [hrequest, Request.entry] at this
  refine h.move there (fun other stage hturn => .inr ⟨?_, rfl⟩) (fun other a _ => ?_)
    (fun other a _ => ?_) (by simp) (by simp)
  · exact (congrArg Prod.fst (Option.some.inj hturn)).symm
  · simp [free, hentry]
  · simp [free, hentry]

/-- A call that has its answer gives the turn up. -/
theorem leave (h : f.Ledger history order) (there : f.turn = some (call, .done answer)) :
    Ledger { f.move call (.leaving answer) with turn := none } history order := by
  refine h.move (h.served _ _ there) (by simp) (fun other a hne => ?_) (fun other a hid => ?_)
    (by simp) (by simp)
  · simp only [there, reduceCtorEq, Option.some.injEq, Prod.mk.injEq, false_iff]
    rintro ⟨rfl, -⟩
    exact hne rfl
  · cases other
    cases call
    simp_all [eq_comm]

/-- A start that sees recording on has its answer. -/
theorem seen (h : f.Ledger history order) (call : Call)
    (there : f.calls call.id = some (call.request, .begun)) :
    (f.move call (.leaving answer)).Ledger history (order ++ [(call, answer)]) := by
  have hself := move_calls_self f call (.leaving answer)
  have hother {id : Nat} (hne : id ≠ call.id) :
      (f.move call (.leaving answer)).calls id = f.calls id := move_calls_of_ne _ _ _ hne
  have hturn : ∀ other stage, f.turn = some (other, stage) → other.id ≠ call.id :=
    fun _ _ => h.ne_of_turn there (by simp)
  refine h.settle (fun other stage hother' => ?_) (by simp [there]) (fun other a => hturn other _)
    (fun other a => ?_) (has_move there _) (returned_move there (by simp) (by simp))
  · exact (hother (hturn other stage hother')).trans (h.served other stage hother')
  · by_cases hid : other.id = call.id
    · have hnot : f.turn ≠ some (other, .done a) := fun heq => hturn _ _ heq hid
      obtain ⟨id, request⟩ := other
      obtain rfl : id = call.id := hid
      cases call
      simp [Settled, there, hself, hnot, eq_comm]
    · have hne : other ≠ call := fun heq => hid (congrArg Call.id heq)
      simp [Settled, hother hid, hne]

/-- The call that has the turn goes on. -/
theorem stage (h : f.Ledger history order) (active : Bool) (next : Stage)
    (there : f.turn = some (call, now)) (busy : ∀ a, now ≠ .done a)
    (still : ∀ a, next ≠ .done a) :
    Ledger { f with active := active, turn := some (call, next) } history order := by
  refine h.of_iff (fun other other' hturn => ?_) (fun other a => ?_) (fun _ => .rfl)
    fun _ _ => .rfl
  · obtain ⟨rfl, rfl⟩ := Prod.mk.inj (Option.some.inj hturn)
    exact h.served _ _ there
  · simp [Settled, there, busy, still]

/-- The call that has the turn has its answer. -/
theorem done (h : f.Ledger history order) (active : Bool) (there : f.turn = some (call, now))
    (busy : ∀ a, now ≠ .done a) :
    Ledger { f with active := active, turn := some (call, .done answer) } history
      (order ++ [(call, answer)]) := by
  have hserved := h.served _ _ there
  refine h.settle (fun other other' hturn => ?_) (by simp [hserved]) (by simp [there, busy])
    (fun other a => ?_) (fun _ => .rfl) fun _ _ => .rfl
  · obtain ⟨rfl, rfl⟩ := Prod.mk.inj (Option.some.inj hturn)
    exact hserved
  · simp [Settled, there, busy, eq_comm, or_assoc]

end steps

end Ledger

end Floor

end ChatGateway.Voice
