import Mathlib
import ChatGateway.Proofs.Board.Arrivals

/-!
# What the loading flag says

One flag stands for all loads.  A load that is started sets it; a list, a failure of a list
fetch, a list fetch that brings nothing and the failure of a session that is waited for take
it back, whichever load is still under way.  So the flag says that nothing has been delivered
since the latest load was started (`Store.loading_iff`).  It covers a load from its start to
the first thing that it brings only as long as nothing else delivers, as in a store with its
initial load and no other intent.
-/

set_option autoImplicit false

namespace ChatGateway.Board

namespace Panel

/-- Whether an input puts an end to loading: it brings a list, or it tells that a list or the
session that is waited for could not be loaded. -/
def delivers (p : Panel) : Input → Bool
  | .event (.listed (.ok _)) => true
  | .event (.listed (.error f)) => !f.isCancelled
  | .event (.finished received _) => !received
  | .event (.answered request _ (.error f)) => p.executor.pending = some request && !f.isCancelled
  | _ => false

variable {p : Panel} {i : Input} {r : Reaction}

/-- The flag is set by a load that is started, and otherwise stays until something is
delivered. -/
theorem Step.loading (h : Step p i r) :
    r.panel.board.loading = (i.loads || (p.board.loading && !p.delivers i)) := by
  cases h with
  | notListed told => simp [Input.loads, delivers, told, changed, apply]
  | listCancelled silent => simp [Input.loads, delivers, silent]
  | @answered request id result awaited =>
    have hpending : p.executor.pending = some request := awaited
    cases result with
    | ok s => simp [Input.loads, delivers, answerEffects, apply]
    | error f =>
      cases hf : f.isCancelled <;>
        simp [Input.loads, delivers, answerEffects, hpending, hf, apply]
  | @late request id result late =>
    have hpending : p.executor.pending ≠ some request := late
    cases result <;> simp [Input.loads, delivers, hpending]
  | _ => simp [Input.loads, Intent.loads, delivers, idle, changed, ask, apply]

end Panel

/-- Whether an arrival has nothing to do with the load of that number: another load brings
it, or it is an answer. -/
def Arrival.IsApart (load : Nat) : Arrival → Prop
  | .intent _ => False
  | .brought other _ => other ≠ load
  | .answered _ _ _ => True

namespace Store

variable (sources : Sources)

/-- What the arrivals `between` deliver after the arrivals `before` is followed by the start of
a load. -/
def Undelivered (before between : List Arrival) : Prop :=
  ∀ early a late, between = early ++ a :: late →
    (after sources (before ++ early)).panel.delivers a.input = true → loadsIn late ≠ 0

/-- Nothing has taken the flag back after one more arrival exactly if it starts a load, or nothing
had done so before and it does not either. -/
theorem undelivered_concat (before between : List Arrival) (a : Arrival) :
    Undelivered sources before (between ++ [a]) ↔
      a.input.loads = true ∨
        (Undelivered sources before between ∧
          (after sources (before ++ between)).panel.delivers a.input = false) := by
  constructor
  · intro h
    cases hload : a.input.loads with
    | true => exact .inl rfl
    | false =>
      refine .inr ⟨fun early x late heq hx => ?_, ?_⟩
      · have hlate := h early x (late ++ [a]) (by simp [heq]) hx
        simpa [hload] using hlate
      · by_contra hdelivers
        exact h between a [] rfl (by simpa using hdelivers) rfl
  · rintro h early x late heq hx
    rcases concat_eq_append_cons.1 heq with ⟨rfl, rfl, rfl⟩ | ⟨rest, rfl, hrest⟩
    · rcases h with hload | ⟨-, hnot⟩
      · -- an intent delivers nothing
        cases x with
        | intent i => simp [Arrival.input, Panel.delivers] at hx
        | _ => simp [Arrival.input, Input.loads] at hload
      · simp [hnot] at hx
    · rw [loadsIn_append, loadsIn_singleton]
      rcases h with hload | ⟨hbetween, -⟩
      · simp [hload]
      · have := hbetween early x rest hrest hx
        omega

/-- The flag is on when a load is started, and as long as nothing takes it back. -/
theorem loading_take (s : Store) (i : Input) :
    (s.take sources i).desk.board.loading =
      (i.loads || (s.desk.board.loading && !s.panel.delivers i)) := by
  have hpanel := congrArg (fun p : Panel => p.board.loading) (s.panel_take sources i)
  exact hpanel.trans (Panel.react_step s.panel i).loading

/-- From the start of a load on, the flag says that nothing has been delivered since the
latest load was started. -/
theorem loading_iff (before between : List Arrival) {i : Intent} (loads : i.loads = true) :
    (after sources (before ++ [.intent i] ++ between)).desk.board.loading = true ↔
      Undelivered sources (before ++ [.intent i]) between := by
  induction between using List.reverseRecOn with
  | nil =>
    have hloading : (after sources (before ++ [.intent i] ++ [])).desk.board.loading = true := by
      simp [after_concat, loading_take, Arrival.input, Input.loads, loads]
    simp only [hloading, true_iff]
    intro early a late heq
    simp at heq
  | append_singleton between a ih =>
    rw [← List.append_assoc, after_concat, loading_take, undelivered_concat, ← ih]
    simp

/-- While a load brings nothing, what takes the flag back comes from elsewhere. -/
theorem isApart_of_delivers {between : List Arrival} {load : Nat}
    (silent : broughtBy load between = []) {a : Arrival} (ha : a ∈ between) {p : Panel}
    (delivers : p.delivers a.input = true) : a.IsApart load := by
  cases a with
  | intent i => simp [Arrival.input, Panel.delivers] at delivers
  | brought other e =>
    rintro rfl
    have he : e ∈ broughtBy other between := (mem_broughtBy ..).2 ha
    simp [silent] at he
  | answered request id result => trivial

/-- From the start of a load until it brings something, the flag is taken back exactly by what
has nothing to do with the load, until the next load is started. -/
theorem loading_eq_false_iff (before between : List Arrival) {i : Intent} (loads : i.loads = true)
    (silent : broughtBy (loadsIn before) between = []) :
    (after sources (before ++ [.intent i] ++ between)).desk.board.loading = false ↔
      ∃ early a late, between = early ++ a :: late ∧ loadsIn late = 0 ∧
        a.IsApart (loadsIn before) ∧
        (after sources (before ++ [.intent i] ++ early)).panel.delivers a.input = true := by
  rw [← Bool.not_eq_true, loading_iff sources before between loads]
  constructor
  · intro h
    simp only [Undelivered, not_forall, ne_eq, not_not] at h
    obtain ⟨early, a, late, heq, hdelivers, hlate⟩ := h
    exact ⟨early, a, late, heq, hlate,
      isApart_of_delivers silent (heq ▸ List.mem_append_right _ List.mem_cons_self) hdelivers,
      hdelivers⟩
  · rintro ⟨early, a, late, heq, hlate, -, hdelivers⟩ h
    exact h early a late heq hdelivers hlate

/-- The flag is on until the first load brings something. -/
theorem loading_of_initial {arrivals : List Arrival} (orderly : Orderly sources arrivals)
    (initial : intentsOf arrivals = [.load]) (silent : broughtBy 0 arrivals = []) :
    (after sources arrivals).desk.board.loading = true := by
  induction arrivals using List.reverseRecOn with
  | nil => simp [intentsOf] at initial
  | append_singleton arrivals a ih =>
    obtain ⟨hbefore, hnext⟩ := orderly_concat.1 orderly
    rw [intentsOf_append] at initial
    rw [broughtBy_append, List.append_eq_nil_iff] at silent
    rw [after_concat, loading_take]
    cases a with
    | intent i =>
      have hmem : i ∈ [Intent.load] := initial ▸ List.mem_append_right _ (List.mem_singleton.2 rfl)
      obtain rfl := List.mem_singleton.1 hmem
      rfl
    | brought other e =>
      have hone := loadsIn_of_initial (by simpa using initial)
      obtain rfl : other = 0 := by
        have := hnext.1
        omega
      simp at silent
    | answered request id result =>
      have hinitial : intentsOf arrivals = [.load] := by simpa using initial
      have hselection : (after sources arrivals).panel.executor.selection = none :=
        selection_eq_none sources (by simp [hinitial])
      have hdelivers : (after sources arrivals).panel.delivers
          (.event (.answered request id result)) = false := by
        cases result <;> simp [Panel.delivers, Executor.pending, hselection]
      simp [Arrival.input, hdelivers, ih hbefore hinitial silent.1]

/-- The flag covers a load, from its start until it brings something, on every board that is
published, except where something else delivers: there it is off until the next load is
started.  So in a store with no intent but its initial load the flag covers that load. -/
theorem loading_covers :
    (∀ (p : Panel) (i : Input), (changes (p.react i).effects).length ≤ 1) ∧
    (∀ before i between, i.loads = true → broughtBy (loadsIn before) between = [] →
      ((after sources (before ++ [.intent i] ++ between)).desk.published.loading = false ↔
        ∃ early a late, between = early ++ a :: late ∧ loadsIn late = 0 ∧
          a.IsApart (loadsIn before) ∧
          (after sources (before ++ [.intent i] ++ early)).panel.delivers a.input = true)) ∧
    (∀ arrivals, Orderly sources arrivals → intentsOf arrivals = [.load] →
      broughtBy 0 arrivals = [] → (after sources arrivals).desk.published.loading = true) := by
  refine ⟨fun p i => (Panel.react_step p i).changes_length_le, ?_, ?_⟩
  · intro before i between loads silent
    rw [published_after]
    exact loading_eq_false_iff sources before between loads silent
  · intro arrivals orderly initial silent
    rw [published_after]
    exact loading_of_initial sources orderly initial silent

/-- A first list that comes soon, later ones that come late, and no session. -/
def lateRefresh : Sources where
  lists load := [⟨if load = 0 then 10 else 50, some (.ok [])⟩]
  sessions _ := [⟨5, some (.error (.network "offline"))⟩]

/-- The flag is off while the refresh is still to bring its first list, because the initial
load has brought one; and it is off while the initial load is still to bring its list,
because a selection has failed. -/
theorem notLoading_while_pending :
    (let s := ((start lateRefresh).dispatch lateRefresh [.refresh]).wait 20
    s.desk.published.loading = false ∧ s.coming = lateRefresh.brings 1) ∧
    (let s := ((start lateRefresh).dispatch lateRefresh [.select "s1"]).wait 5
    s.desk.published.loading = false ∧ s.coming = lateRefresh.brings 0) := by
  refine ⟨⟨?_, rfl⟩, ⟨?_, rfl⟩⟩
  · decide +kernel
  · decide +kernel

/-- A refresh whose flag is taken back by the list of the initial load, and the initial load
on its own. -/
theorem loading_covers_lateRefresh :
    (after lateRefresh
      [.intent .load, .intent .refresh, .brought 0 (.listed (.ok []))]).desk.published.loading =
        false ∧
    (after lateRefresh [.intent .load]).desk.published.loading = true := by
  obtain ⟨-, hcovers, hinitial⟩ := loading_covers lateRefresh
  refine ⟨?_, hinitial [.intent .load] ?_ rfl rfl⟩
  · refine (hcovers [.intent .load] .refresh [.brought 0 (.listed (.ok []))] rfl rfl).2 ?_
    exact ⟨[], _, [], rfl, rfl, Nat.zero_ne_one, rfl⟩
  · exact orderly_load lateRefresh

end Store

end ChatGateway.Board
