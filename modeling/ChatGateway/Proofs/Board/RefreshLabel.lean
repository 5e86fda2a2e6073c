import Mathlib
import ChatGateway.Proofs.Board.Arrivals

/-!
# Which load a label is about

An observer that wants a new list asks for a refresh and waits for the first label that tells
how a load went.  Labels of loads bear no number, and a board stops loading with the first list
that a load brings, before the load is over.  So the first such label may come from the rest
of the initial load, and the board that is published then shows what was known before.

The label is about the refresh exactly if the initial load has nothing left that tells a label
(`Store.refreshTold_iff`).
-/

set_option autoImplicit false

namespace ChatGateway.Board

/-- Whether a label tells how a load went, or that something went wrong. -/
def Label.isOutcome : Label → Bool
  | .selectionCompleted _ => false
  | _ => true

/-- Whether an event makes a store send a label. -/
def Event.isTold (e : Event) : Bool :=
  !(labels e.effects).isEmpty

/-- What the load of that number brings tells nothing but outcomes. -/
theorem Event.isOutcome_of_mem {e : Event} (aside : e.isAnswer = false) {l : Label}
    (hl : l ∈ labels e.effects) : l.isOutcome = true := by
  cases e with
  | listed result =>
    cases result with
    | ok sessions => cases hl
    | error f =>
      cases hf : f.isCancelled with
      | true => simp [effects, Executor.handle, hf, labels] at hl
      | false =>
        obtain rfl : l = _ := by
          simpa [effects, Executor.handle, hf, failureEffects, labels] using hl
        rfl
  | finished received lastOk =>
    cases received with
    | false =>
      obtain rfl : l = _ := List.mem_singleton.1 hl
      rfl
    | true =>
      cases lastOk with
      | false => cases hl
      | true =>
        obtain rfl : l = _ := List.mem_singleton.1 hl
        rfl
  | answered => cases aside

namespace Sources

variable (sources : Sources) (load : Nat) (arrivals : List Arrival)

/-- What a load is still to bring after some arrivals. -/
def outstanding : List Event :=
  (sources.brings load).drop (broughtBy load arrivals).length

variable {sources load arrivals}

/-- What a load has brought and what it is still to bring are all that it brings. -/
theorem broughtBy_append_outstanding (orderly : Orderly sources arrivals) :
    broughtBy load arrivals ++ sources.outstanding load arrivals = sources.brings load :=
  (List.prefix_iff_eq_append.1 (orderly.broughtBy_prefix load))

end Sources

namespace Store

variable (sources : Sources)

/-- The labels that are sent by the arrivals `more` after the arrivals `before`, each with the
board that was published when it was sent. -/
def sentSince (before more : List Arrival) : List (Label × Board) :=
  (after sources (before ++ more)).desk.sent.drop (after sources before).desk.sent.length

/-- The labels before come first. -/
theorem sent_append (before more : List Arrival) :
    (after sources before).desk.sent ++ sentSince sources before more =
      (after sources (before ++ more)).desk.sent := by
  refine List.prefix_iff_eq_append.1 ?_
  induction more using List.reverseRecOn with
  | nil => simp
  | append_singleton more a ih =>
    rw [← List.append_assoc, after_concat, sent_take]
    exact ih.trans (List.prefix_append _ _)

/-- One more arrival sends its labels last, each with the board that it publishes. -/
theorem sentSince_concat (before more : List Arrival) (a : Arrival) :
    sentSince sources before (more ++ [a]) = sentSince sources before more ++
      (labels ((after sources (before ++ more)).panel.react a.input).effects).map fun l =>
        (l, (after sources (before ++ (more ++ [a]))).desk.published) := by
  have hsent := sent_append sources before (more ++ [a])
  rw [← List.append_assoc, after_concat, sent_take, ← sent_append, List.append_assoc] at hsent
  rw [List.append_cancel_left hsent, ← List.append_assoc, after_concat]

/-- The labels of some arrivals come before those of later ones. -/
theorem sentSince_append (before more rest : List Arrival) :
    sentSince sources before (more ++ rest) =
      sentSince sources before more ++ sentSince sources (before ++ more) rest := by
  refine (List.append_right_inj (after sources before).desk.sent).1 ?_
  have hmore := sent_append sources before more
  have hrest := sent_append sources (before ++ more) rest
  rw [sent_append, ← List.append_assoc _ (sentSince _ _ _), hmore, hrest, List.append_assoc]

/-- A label of any of the arrivals is among those that are sent. -/
theorem exists_mem_sentSince (before early late : List Arrival) {a : Arrival} {l : Label}
    (hl : l ∈ labels ((after sources (before ++ early)).panel.react a.input).effects) :
    ∃ shown, (l, shown) ∈ sentSince sources before (early ++ a :: late) := by
  rw [List.append_cons, sentSince_append, sentSince_concat]
  exact ⟨_, List.mem_append_left _ (List.mem_append_right _ (List.mem_map.2 ⟨l, hl, rfl⟩))⟩

/-- Whatever arrives after `before` besides one refresh: when the first label is sent that
tells how a load went, the refresh has brought something, and the board that is published then
has taken it in.

An arrival is taken in as a whole: its board is published and its labels are sent before anything
else happens.  An observer that starts to listen between the two is left out. -/
def RefreshTold (before : List Arrival) : Prop :=
  ∀ more l shown, Orderly sources (before ++ more) → intentsOf more <+: [.refresh] →
    (sentSince sources before more).find? (fun s => s.1.isOutcome) = some (l, shown) →
      ∃ early a late, more = early ++ a :: late ∧
        (∀ s ∈ sentSince sources before early, s.1.isOutcome = false) ∧
        broughtBy (loadsIn before) (early ++ [a]) ≠ [] ∧
        shown = (after sources (before ++ (early ++ [a]))).desk.published

/-- A refresh, and then all that the initial load still has to bring. -/
def refreshThenRest (before : List Arrival) : List Arrival :=
  .intent .refresh :: (sources.outstanding 0 before).map (.brought 0)

/-- The rest of the first load may come right after a refresh is asked for. -/
theorem orderly_refreshThenRest {before : List Arrival} (orderly : Orderly sources before)
    (started : 0 < loadsIn before) :
    Orderly sources (before ++ refreshThenRest sources before) := by
  have hrefresh := orderly.concat (a := .intent .refresh) trivial
  rw [refreshThenRest, List.append_cons]
  refine hrefresh.append_brought ?_ ?_
  · rw [loadsIn_append]
    exact Nat.lt_add_right _ started
  · rw [broughtBy_append, broughtBy_intent, List.append_nil,
      Sources.broughtBy_append_outstanding orderly]

/-- Only the refresh is asked for. -/
theorem intentsOf_refreshThenRest (before : List Arrival) :
    intentsOf (refreshThenRest sources before) = [.refresh] := by
  rw [refreshThenRest, ← List.singleton_append, intentsOf_append, intentsOf_map_brought]
  rfl

/-- Only the first load brings something then. -/
theorem broughtBy_refreshThenRest (before : List Arrival) {load : Nat} (hload : load ≠ 0) :
    broughtBy load (refreshThenRest sources before) = [] := by
  rw [refreshThenRest, ← List.singleton_append, broughtBy_append, broughtBy_map_brought,
    if_neg hload.symm]
  rfl

/-- Each label that the rest of the first load has is sent. -/
theorem exists_mem_refreshThenRest {before : List Arrival} {e : Event}
    (he : e ∈ sources.outstanding 0 before) {l : Label} (hl : l ∈ labels e.effects) :
    ∃ shown, (l, shown) ∈ sentSince sources before (refreshThenRest sources before) := by
  have haside := sources.aside_of_mem_brings 0 (List.mem_of_mem_drop he)
  obtain ⟨pre, post, hsplit⟩ := List.append_of_mem he
  rw [refreshThenRest, hsplit, List.map_append, List.map_cons, ← List.cons_append]
  refine exists_mem_sentSince sources before _ _ ?_
  rwa [Arrival.input, Panel.react_aside _ haside]

section initial

variable {sources} {before : List Arrival}

/-- Until the refresh brings something, no labels are sent if the initial load has nothing
left that tells one. -/
theorem labels_eq_nil (initial : intentsOf before = [.load])
    (quiet : ∀ e ∈ sources.outstanding 0 before, e.isTold = false) {more : List Arrival}
    {a : Arrival} (orderly : Orderly sources (before ++ (more ++ [a])))
    (single : intentsOf (more ++ [a]) <+: [.refresh]) (silent : broughtBy 1 (more ++ [a]) = []) :
    labels ((after sources (before ++ more)).panel.react a.input).effects = [] := by
  have hintents : ∀ i ∈ intentsOf (more ++ [a]), i = .refresh := fun i hi =>
    List.mem_singleton.1 (single.subset hi)
  have hone := loadsIn_of_initial initial
  cases a with
  | intent i =>
    obtain rfl := hintents i (by simp)
    rfl
  | brought other e =>
    rw [← List.append_assoc] at orderly
    obtain ⟨hbefore, hstarted, hnext⟩ := orderly_concat.1 orderly
    have hmore : loadsIn more ≤ 1 := by
      have hlength : (intentsOf more).length ≤ 1 := by simpa using single.length_le
      exact List.countP_le_length.trans hlength
    obtain rfl : other = 0 := by
      have hne : other ≠ 1 := by
        rintro rfl
        simp at silent
      rw [loadsIn_append] at hstarted
      omega
    have he : e ∈ sources.outstanding 0 before := by
      rw [broughtBy_append, List.append_assoc,
        ← Sources.broughtBy_append_outstanding hbefore.of_append,
        List.prefix_append_right_inj] at hnext
      exact hnext.subset (by simp)
    have haside := sources.aside_of_mem_brings 0 (List.mem_of_mem_drop he)
    have htold := quiet e he
    rw [Arrival.input, Panel.react_aside _ haside]
    simpa [Event.isTold] using htold
  | answered request id result =>
    have hselection : (after sources (before ++ more)).panel.executor.selection = none := by
      refine selection_eq_none sources fun other hother => ?_
      rw [intentsOf_append, initial, List.mem_append] at hother
      rcases hother with hother | hother
      · simp at hother
      · have := hintents _ (by rw [intentsOf_append]; exact List.mem_append_left _ hother)
        cases this
    have hlate : ¬ (after sources (before ++ more)).panel.Awaits request := by
      simp [Panel.Awaits, Executor.pending, hselection]
    rw [Arrival.input, ((Panel.react_answered _ request id result).2 hlate).1]
    rfl

/-- The first label after the dispatch of a refresh that tells how a load went is about the
refresh, exactly if the initial load has nothing left that tells a label. -/
theorem refreshTold_iff (orderly : Orderly sources before) (initial : intentsOf before = [.load]) :
    RefreshTold sources before ↔ ∀ e ∈ sources.outstanding 0 before, e.isTold = false := by
  have hone := loadsIn_of_initial initial
  constructor
  · intro htold e he
    by_contra hlabel
    -- the rest of the initial load tells a label before the refresh brings anything
    obtain ⟨l, hl⟩ : ∃ l, l ∈ labels e.effects := by
      simpa [Event.isTold, List.eq_nil_iff_forall_not_mem] using hlabel
    have haside := sources.aside_of_mem_brings 0 (List.mem_of_mem_drop he)
    obtain ⟨shown, hsent⟩ := exists_mem_refreshThenRest sources he hl
    obtain ⟨first, hfirst⟩ := Option.isSome_iff_exists.1
      ((List.find?_isSome (p := fun s => s.1.isOutcome)).2
        ⟨_, hsent, Event.isOutcome_of_mem haside hl⟩)
    obtain ⟨early, a, late, hmore, -, hbrought, -⟩ := htold _ first.1 first.2
      (orderly_refreshThenRest sources orderly (by omega))
      (by rw [intentsOf_refreshThenRest]) hfirst
    have hnothing : broughtBy 1 (refreshThenRest sources before) = [] :=
      broughtBy_refreshThenRest sources before one_ne_zero
    rw [hmore, List.append_cons, broughtBy_append, List.append_eq_nil_iff] at hnothing
    exact hbrought (hone ▸ hnothing.1)
  · intro quiet more l shown horderly hsingle hfind
    -- the label is the first of those that the last arrival sends, or it was sent before
    induction more using List.reverseRecOn with
    | nil => simp [sentSince] at hfind
    | append_singleton more a ih =>
      rw [sentSince_concat, List.find?_append, Option.or_eq_some_iff] at hfind
      rcases hfind with hold | ⟨hnone, hnew⟩
      · rw [← List.append_assoc] at horderly
        rw [intentsOf_append] at hsingle
        obtain ⟨early, b, late, rfl, hearly⟩ :=
          ih horderly.of_append ((List.prefix_append _ _).trans hsingle) hold
        exact ⟨early, b, late ++ [a], by simp, hearly⟩
      · refine ⟨more, a, [], rfl, ?_, ?_, ?_⟩
        · simpa using hnone
        · intro hnothing
          rw [hone] at hnothing
          rw [labels_eq_nil initial quiet horderly hsingle hnothing] at hnew
          cases hnew
        · obtain ⟨l', -, heq⟩ := List.mem_map.1 (List.mem_of_find?_eq_some hnew)
          exact (congrArg Prod.snd heq).symm

end initial

/-- A first list that comes twice, and a later one that comes late. -/
def repeatedFirst : Sources where
  lists load :=
    if load = 0 then [⟨0, some (.ok [sessionNamed "old"])⟩, ⟨10, some (.ok [sessionNamed "old"])⟩]
    else [⟨50, some (.ok [sessionNamed "new"])⟩]
  sessions _ := []

/-- The board is not loading when the refresh is dispatched, and the first label then comes with
the old list, while the refresh still has everything to bring. -/
theorem refresh_told_early :
    let opened := (start repeatedFirst).wait 1
    let refreshed := (opened.dispatch repeatedFirst [.refresh]).wait 20
    opened.desk.published.loading = false ∧ opened.desk.sent = [] ∧
      refreshed.desk.sent.map (fun s => (s.1, s.2.sessions)) =
        [(.loadCompleted, [sessionNamed "old"])] ∧
      refreshed.coming = repeatedFirst.brings 1 ∧
      (refreshed.wait 100).desk.published.sessions = [sessionNamed "new"] := by
  refine ⟨?_, ?_, ?_, rfl, ?_⟩ <;> decide +kernel

/-- The label of a refresh is not sure to be about it while the initial load has only brought
its lists, and it is when that load is over. -/
theorem refreshTold_iff_repeatedFirst :
    (let listed := Arrival.intent .load ::
      (repeatedFirst.results 0).map fun r => .brought 0 (.listed r)
    ¬ RefreshTold repeatedFirst listed ∧
      RefreshTold repeatedFirst (listed ++ [.brought 0 (.finished true true)])) := by
  have hfirst := (orderly_load repeatedFirst).concat
    (a := .brought 0 (.listed (.ok [sessionNamed "old"]))) ⟨by decide, _, rfl⟩
  have hagain := hfirst.concat (a := .brought 0 (.listed (.ok [sessionNamed "old"])))
    ⟨by decide, _, rfl⟩
  have hend := hagain.concat (a := .brought 0 (.finished true true)) ⟨by decide, [], rfl⟩
  constructor
  · intro htold
    have hquiet := (refreshTold_iff hagain rfl).1 htold (.finished true true) List.mem_cons_self
    cases hquiet
  · exact (refreshTold_iff hend rfl).2 fun e he => absurd he List.not_mem_nil

end Store

end ChatGateway.Board
