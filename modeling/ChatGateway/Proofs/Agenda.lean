import Mathlib
import ChatGateway.Agenda

/-!
# Feeds and agendas in order

The results of a feed come in the order of time and do not depend on when the feed is opened.
Entries that are put on an agenda in the order of time stay in their order, so an agenda keeps
what comes of one source in the order of that source (`Agenda.filterMap_insertAll`), whatever
else is put on it.
-/

set_option autoImplicit false

namespace ChatGateway

namespace Feed

variable {α : Type}

/-- The results of a feed up to the point where it ends or falls silent. -/
def results (feed : Feed α) : List α :=
  (feed.timed 0).map Prod.snd

/-- Whether a feed ends after its results. -/
def ends (feed : Feed α) : Bool :=
  (feed.endTime 0).isSome

/-- When a feed is opened makes no difference to what it gives. -/
theorem timed_and_endTime_start (start start' : Nat) (feed : Feed α) :
    (feed.timed start).map Prod.snd = (feed.timed start').map Prod.snd ∧
      (feed.endTime start).isSome = (feed.endTime start').isSome := by
  induction feed generalizing start start' with
  | nil => exact ⟨rfl, rfl⟩
  | cons item rest ih =>
    obtain ⟨delay, result⟩ := item
    cases result with
    | none => exact ⟨rfl, rfl⟩
    | some x =>
      obtain ⟨htimed, hend⟩ := ih (start + delay) (start' + delay)
      exact ⟨congrArg (x :: ·) htimed, hend⟩

/-- The results with their times are the results. -/
theorem map_snd_timed (start : Nat) (feed : Feed α) :
    (feed.timed start).map Prod.snd = feed.results :=
  (timed_and_endTime_start start 0 feed).1

/-- A feed has a time of its end exactly if it ends. -/
theorem isSome_endTime (start : Nat) (feed : Feed α) :
    (feed.endTime start).isSome = feed.ends :=
  (timed_and_endTime_start start 0 feed).2

/-- A feed that gives everything at once has these results. -/
@[simp]
theorem results_atOnce (xs : List α) : (atOnce xs).results = xs := by
  induction xs with
  | nil => rfl
  | cons x xs ih => exact congrArg (x :: ·) ih

/-- The results of a feed come in the order of time, and before its end. -/
theorem timed_inOrder (start : Nat) (feed : Feed α) :
    (∀ r ∈ feed.timed start, start ≤ r.1) ∧
      (feed.timed start).Pairwise (fun r s => r.1 ≤ s.1) ∧
      ∀ time, feed.endTime start = some time →
        start ≤ time ∧ ∀ r ∈ feed.timed start, r.1 ≤ time := by
  induction feed generalizing start with
  | nil => simp [timed, endTime]
  | cons item rest ih =>
    obtain ⟨delay, result⟩ := item
    cases result with
    | none => simp [timed, endTime]
    | some x =>
      obtain ⟨hstart, hpairwise, hend⟩ := ih (start + delay)
      have hlater : ∀ r ∈ timed (start + delay) rest, start ≤ r.1 := fun r hr =>
        (Nat.le_add_right _ _).trans (hstart r hr)
      refine ⟨List.forall_mem_cons.2 ⟨Nat.le_add_right _ _, hlater⟩,
        List.pairwise_cons.2 ⟨hstart, hpairwise⟩, fun time htime => ?_⟩
      obtain ⟨hle, hbefore⟩ := hend time htime
      exact ⟨(Nat.le_add_right _ _).trans hle, List.forall_mem_cons.2 ⟨hle, hbefore⟩⟩

end Feed

/-- The entry at the same time for something else. -/
def Due.map {τ ρ : Type} (f : τ → ρ) (d : Due τ) : Due ρ :=
  ⟨d.time, f d.what⟩

namespace Agenda

section pairwise

variable {τ : Type} {R : τ → τ → Prop}

/-- An agenda with one more entry has that entry and the ones before. -/
theorem insert_perm (d : Due τ) (agenda : Agenda τ) : (insert d agenda).Perm (d :: agenda) := by
  induction agenda with
  | nil => exact .refl _
  | cons e es ih =>
    by_cases h : e.time ≤ d.time
    · simp only [insert, h, ↓reduceIte]
      exact (ih.cons e).trans (.swap d e es)
    · simp only [insert, h, ↓reduceIte]
      exact .refl _

/-- An agenda with more entries has those and the ones before. -/
theorem insertAll_perm (agenda : Agenda τ) (ds : List (Due τ)) :
    (insertAll agenda ds).Perm (agenda ++ ds) := by
  induction ds generalizing agenda with
  | nil => simp [insertAll]
  | cons d ds ih =>
    have hfirst : (insert d agenda ++ ds).Perm (d :: agenda ++ ds) :=
      (insert_perm d agenda).append_right ds
    exact (ih (insert d agenda)).trans (hfirst.trans List.perm_middle.symm)

/-- An entry comes after everything that happens no later, and before the rest. -/
theorem pairwise_insert {d : Due τ} {agenda : Agenda τ} (inOrder : InOrder agenda)
    (h : agenda.Pairwise fun e f => R e.what f.what)
    (hafter : ∀ e ∈ agenda, e.time ≤ d.time → R e.what d.what)
    (hbefore : ∀ e ∈ agenda, d.time < e.time → R d.what e.what) :
    (insert d agenda).Pairwise fun e f => R e.what f.what := by
  induction agenda with
  | nil => simp [insert]
  | cons e es ih =>
    obtain ⟨htime, hes⟩ := List.pairwise_cons.1 inOrder
    obtain ⟨hfirst, hrest⟩ := List.pairwise_cons.1 h
    by_cases hd : e.time ≤ d.time
    · simp only [insert, hd, ↓reduceIte]
      refine List.pairwise_cons.2 ⟨?_, ih hes hrest
        (fun f hf => hafter f (List.mem_cons_of_mem e hf))
        (fun f hf => hbefore f (List.mem_cons_of_mem e hf))⟩
      intro f hf
      rcases (mem_insert d f es).1 hf with rfl | hf
      · exact hafter e List.mem_cons_self hd
      · exact hfirst f hf
    · simp only [insert, hd, ↓reduceIte]
      refine List.pairwise_cons.2 ⟨?_, h⟩
      intro f hf
      rcases List.mem_cons.1 hf with rfl | hmem
      · exact hbefore f hf (by omega)
      · have := htime f hmem
        exact hbefore f hf (by omega)

/-- An entry of an agenda with more entries is one of these, or was there before. -/
theorem mem_insertAll {agenda : Agenda τ} {ds : List (Due τ)} {e : Due τ}
    (h : e ∈ insertAll agenda ds) : e ∈ agenda ∨ e ∈ ds := by
  induction ds generalizing agenda with
  | nil => exact .inl h
  | cons d ds ih =>
    rcases ih h with he | he
    · rcases (mem_insert d e agenda).1 he with rfl | he
      · exact .inr List.mem_cons_self
      · exact .inl he
    · exact .inr (List.mem_cons_of_mem d he)

/-- An agenda stays in order, whatever is entered. -/
theorem inOrder_insertAll {agenda : Agenda τ} (h : InOrder agenda) (ds : List (Due τ)) :
    InOrder (insertAll agenda ds) := by
  induction ds generalizing agenda with
  | nil => exact h
  | cons d ds ih => exact ih (inOrder_insert d agenda h)

/-- Entries that are in order among themselves are put in one by one. -/
theorem pairwise_insertAll {agenda : Agenda τ} {ds : List (Due τ)} (inOrder : InOrder agenda)
    (h : agenda.Pairwise fun e f => R e.what f.what)
    (hds : ds.Pairwise fun d e => d.time ≤ e.time ∧ R d.what e.what)
    (hafter : ∀ e ∈ agenda, ∀ d ∈ ds, e.time ≤ d.time → R e.what d.what)
    (hbefore : ∀ e ∈ agenda, ∀ d ∈ ds, d.time < e.time → R d.what e.what) :
    (insertAll agenda ds).Pairwise fun e f => R e.what f.what := by
  induction ds generalizing agenda with
  | nil => exact h
  | cons d ds ih =>
    obtain ⟨hfirst, hrest⟩ := List.pairwise_cons.1 hds
    refine ih (inOrder_insert d agenda inOrder) (pairwise_insert inOrder h
      (fun e he => hafter e he d List.mem_cons_self)
      (fun e he => hbefore e he d List.mem_cons_self)) hrest ?_ ?_
    · intro e he d' hd' htime
      rcases (mem_insert d e agenda).1 he with rfl | he
      · exact (hfirst d' hd').2
      · exact hafter e he d' (List.mem_cons_of_mem d hd') htime
    · intro e he d' hd' htime
      rcases (mem_insert d e agenda).1 he with rfl | he
      · have := (hfirst d' hd').1
        omega
      · exact hbefore e he d' (List.mem_cons_of_mem d hd') htime

end pairwise

section map

variable {τ ρ : Type} (f : τ → ρ)

/-- What the entries say makes no difference to where one is put. -/
theorem map_insert (d : Due τ) (agenda : Agenda τ) :
    (insert d agenda).map (Due.map f) = insert (d.map f) (agenda.map (Due.map f)) := by
  induction agenda with
  | nil => rfl
  | cons e es ih =>
    by_cases h : e.time ≤ d.time
    · have hmap : (e.map f).time ≤ (d.map f).time := h
      simp [insert, h, hmap, ih]
    · have hmap : ¬ (e.map f).time ≤ (d.map f).time := h
      simp [insert, h, hmap]

/-- What the entries say makes no difference to where they are put. -/
theorem map_insertAll (agenda : Agenda τ) (ds : List (Due τ)) :
    (insertAll agenda ds).map (Due.map f) =
      insertAll (agenda.map (Due.map f)) (ds.map (Due.map f)) := by
  induction ds generalizing agenda with
  | nil => rfl
  | cons d ds ih =>
    have hrest := ih (insert d agenda)
    rw [map_insert] at hrest
    exact hrest

end map

section filterMap

variable {τ ρ : Type} {g : τ → Option ρ}

/-- An entry comes last among those of its kind if none of them is later. -/
theorem filterMap_insert {d : Due τ} {agenda : Agenda τ} (inOrder : InOrder agenda)
    (last : ∀ e ∈ agenda, (g d.what).isSome → (g e.what).isSome → e.time ≤ d.time) :
    ((insert d agenda).map Due.what).filterMap g =
      (agenda.map Due.what).filterMap g ++ [d.what].filterMap g := by
  induction agenda with
  | nil => rfl
  | cons e es ih =>
    obtain ⟨htime, hes⟩ := List.pairwise_cons.1 inOrder
    by_cases hd : e.time ≤ d.time
    · have hrest := ih hes fun f hf => last f (List.mem_cons_of_mem e hf)
      simp only [insert, hd, ↓reduceIte]
      rw [List.map_cons, List.map_cons, ← List.singleton_append, List.filterMap_append, hrest,
        ← List.append_assoc, ← List.filterMap_append, List.singleton_append]
    · simp only [insert, hd, ↓reduceIte]
      cases hg : g d.what with
      | none => simp [hg]
      | some x =>
        -- all that comes later is of another kind
        have hnone : ((e :: es).map Due.what).filterMap g = [] := by
          refine List.filterMap_eq_nil_iff.2 fun y hy => ?_
          obtain ⟨f, hf, rfl⟩ := List.mem_map.1 hy
          have hle : e.time ≤ f.time := by
            rcases List.mem_cons.1 hf with rfl | hf
            · exact Nat.le_refl _
            · exact htime f hf
          by_contra hsome
          have := last f hf (by simp [hg]) (Option.isSome_iff_ne_none.2 hsome)
          omega
        rw [List.map_cons, ← List.singleton_append, List.filterMap_append, hnone]
        simp

/-- If the entries that count come after all those that count already, they are read last. -/
theorem filterMap_insertAll {agenda : Agenda τ} {ds : List (Due τ)} (inOrder : InOrder agenda)
    (hds : InOrder ds)
    (last : ∀ e ∈ agenda, ∀ d ∈ ds, (g d.what).isSome → (g e.what).isSome → e.time ≤ d.time) :
    ((insertAll agenda ds).map Due.what).filterMap g =
      (agenda.map Due.what).filterMap g ++ (ds.map Due.what).filterMap g := by
  induction ds generalizing agenda with
  | nil => simp [insertAll]
  | cons d ds ih =>
    obtain ⟨hfirst, hrest⟩ := List.pairwise_cons.1 hds
    have hinsert := filterMap_insert inOrder fun e he => last e he d List.mem_cons_self
    have hall := ih (inOrder_insert d agenda inOrder) hrest ?_
    · rw [hinsert, List.append_assoc, ← List.filterMap_append, List.singleton_append] at hall
      exact hall
    · intro e he d' hd' hd'some hesome
      rcases (mem_insert d e agenda).1 he with rfl | he
      · exact hfirst d' hd'
      · exact last e he d' (List.mem_cons_of_mem d hd') hd'some hesome

end filterMap

section filter

variable {τ : Type} {p : Due τ → Bool} {agenda ds : Agenda τ}

/-- Entries that do not count change nothing about those that do. -/
theorem filter_insertAll_of_neg (agenda : Agenda τ) (h : ∀ d ∈ ds, p d = false) :
    (insertAll agenda ds).filter p = agenda.filter p := by
  induction ds generalizing agenda with
  | nil => rfl
  | cons d ds ih =>
    obtain ⟨hd, hds⟩ := List.forall_mem_cons.1 h
    have hinsert : (insert d agenda).filter p = agenda.filter p := by
      clear ih
      induction agenda with
      | nil => simp [insert, hd]
      | cons e es ih =>
        by_cases htime : e.time ≤ d.time
        · simp [insert, htime, List.filter_cons, ih]
        · simp [insert, htime, List.filter_cons, hd]
    exact (ih (insert d agenda) hds).trans hinsert

/-- An entry that counts and is the last to do so is read last. -/
theorem filter_insert_of_pos {d : Due τ} (inOrder : InOrder agenda) (hd : p d = true)
    (last : ∀ e ∈ agenda, p e = true → e.time ≤ d.time) :
    (insert d agenda).filter p = agenda.filter p ++ [d] := by
  induction agenda with
  | nil => simp [insert, hd]
  | cons e es ih =>
    obtain ⟨htime, hes⟩ := List.pairwise_cons.1 inOrder
    by_cases hle : e.time ≤ d.time
    · have hrest := ih hes fun f hf => last f (List.mem_cons_of_mem e hf)
      cases hp : p e <;> simp [insert, hle, hp, hrest]
    · -- all that comes later is of another kind
      have hnone : (e :: es).filter p = [] := by
        refine List.filter_eq_nil_iff.2 fun f hf hp => ?_
        have hbefore := last f hf hp
        rcases List.mem_cons.1 hf with rfl | hmem
        · exact hle hbefore
        · have := htime f hmem
          omega
      simp only [insert, hle, ↓reduceIte]
      rw [List.filter_cons_of_pos hd, hnone]
      rfl

/-- Entries of one kind that are no earlier than the others of that kind come after these, in
the order in which they were put in. -/
theorem filter_insertAll_of_pos (inOrder : InOrder agenda) (hds : InOrder ds)
    (hp : ∀ d ∈ ds, p d = true)
    (last : ∀ e ∈ agenda, p e = true → ∀ d ∈ ds, e.time ≤ d.time) :
    (insertAll agenda ds).filter p = agenda.filter p ++ ds := by
  induction ds generalizing agenda with
  | nil => simp [insertAll]
  | cons d ds ih =>
    obtain ⟨hfirst, hrest⟩ := List.pairwise_cons.1 hds
    obtain ⟨hd, hds'⟩ := List.forall_mem_cons.1 hp
    have hinsert := filter_insert_of_pos inOrder hd fun e he hpe =>
      last e he hpe d List.mem_cons_self
    have hall := ih (inOrder_insert d agenda inOrder) hrest hds' fun e he hpe d' hd' => by
      rcases (mem_insert d e agenda).1 he with rfl | he
      · exact hfirst d' hd'
      · exact last e he hpe d' (List.mem_cons_of_mem d hd')
    rw [hinsert, List.append_assoc] at hall
    exact hall

/-- What comes up to a time of one kind is what is of that kind among all that comes up to it. -/
theorem filter_takeWhile (inOrder : InOrder agenda) (limit : Nat) :
    (agenda.takeWhile fun d => d.time ≤ limit).filter p =
        (agenda.filter p).takeWhile (fun d => d.time ≤ limit) ∧
      (agenda.dropWhile fun d => d.time ≤ limit).filter p =
        (agenda.filter p).dropWhile fun d => d.time ≤ limit := by
  induction agenda with
  | nil => exact ⟨rfl, rfl⟩
  | cons e es ih =>
    obtain ⟨htime, hes⟩ := List.pairwise_cons.1 inOrder
    by_cases hlimit : e.time ≤ limit
    · obtain ⟨htake, hdrop⟩ := ih hes
      cases hp : p e <;> simp [hlimit, hp, htake, hdrop]
    · have hlate : ∀ d ∈ ((e :: es).filter p).head?, ¬ d.time ≤ limit := by
        intro d hd
        rcases List.mem_cons.1 (List.mem_filter.1 (List.mem_of_mem_head? hd)).1 with rfl | hmem
        · exact hlimit
        · have := htime d hmem
          omega
      rw [List.takeWhile_cons_of_neg (by simpa using hlimit),
        List.dropWhile_cons_of_neg (by simpa using hlimit)]
      cases hlist : (e :: es).filter p with
      | nil => exact ⟨rfl, rfl⟩
      | cons d rest =>
        have hd : ¬ d.time ≤ limit := hlate d (by rw [hlist]; rfl)
        rw [List.takeWhile_cons_of_neg (by simpa using hd),
          List.dropWhile_cons_of_neg (by simpa using hd)]
        exact ⟨rfl, rfl⟩

end filter

end Agenda

end ChatGateway
