import Mathlib
import ChatGateway.Proofs.Board.Loading

/-!
# Every load reports how it went

Whatever else reaches a store, a load whose feed ends has the effects that its results ask
for: each list is shown, each failure is shown and told, and at the end a label says that the
load is complete if its last result was a list; a load without results tells one failure.

The first thing that such a load brings takes the loading flag back.  So the flag is on only
while the latest load has brought nothing (`Store.latest_silent`), and it is off when all that
has been started is over.
-/

set_option autoImplicit false

namespace ChatGateway.Board

/-- The effects of a load that fails: the board shows why, and then a label tells it in the same
words. -/
def complaint (reason : String) : List Effect :=
  [.change (.loadFailed ("Failed to load sessions: " ++ reason)),
    .label (.errorOccurred ("Failed to load sessions: " ++ reason))]

/-- The effects of one result of a load that was not cancelled. -/
def resultEffects : Except Failure (List Session) → List Effect
  | .ok sessions => [.change (.loaded sessions)]
  | .error f => complaint f.describe

/-- The effects of a load with these results: those of each result in order, then the label of
a load that ends with a list; or one failure if there is no result. -/
def report (results : List (Except Failure (List Session))) : List Effect :=
  if results.isEmpty then complaint "Empty response"
  else results.flatMap resultEffects ++
    if endsInList results then [.label .loadCompleted] else []

/-- The effects of what the load of that number brings among some arrivals. -/
def Panel.effectsFrom (load : Nat) (p : Panel) : List Arrival → List Effect
  | [] => []
  | a :: rest =>
    (if (a.from? load).isSome then (p.react a.input).effects else []) ++
      (p.react a.input).panel.effectsFrom load rest

/-- The feed of the load of that number ends, and none of its results is a cancellation. -/
structure Sources.Settles (sources : Sources) (load : Nat) : Prop where
  ends : (sources.lists load).ends = true
  uncancelled : .error .cancelled ∉ sources.results load

/-- What a load contributes is said by what it brings, whatever else arrives. -/
theorem Panel.effectsFrom_eq (load : Nat) (p : Panel) {arrivals : List Arrival}
    (aside : ∀ e, .brought load e ∈ arrivals → e.isAnswer = false) :
    p.effectsFrom load arrivals = (broughtBy load arrivals).flatMap Event.effects := by
  induction arrivals generalizing p with
  | nil => rfl
  | cons a rest ih =>
    have hrest := ih (p.react a.input).panel fun e he => aside e (List.mem_cons_of_mem a he)
    rw [effectsFrom, hrest, ← List.singleton_append, broughtBy_append, List.flatMap_append]
    cases a with
    | brought other e =>
      by_cases hother : other = load
      · obtain rfl := hother
        have haside := aside e List.mem_cons_self
        simp [Arrival.from?, Arrival.input, p.react_aside haside]
      · simp [Arrival.from?, hother]
    | _ => simp [Arrival.from?]

/-- The executor has these effects for a failure of the list. -/
theorem failureEffects_listFailure (f : Failure) :
    failureEffects (listFailure f) = complaint f.describe := rfl

namespace Sources

variable {sources : Sources} {load : Nat}

/-- No failure of a load that settles is a cancellation. -/
theorem Settles.isCancelled (h : sources.Settles load) {f : Failure}
    (failed : .error f ∈ sources.results load) : f.isCancelled = false := by
  have hne : f ≠ .cancelled := by
    rintro rfl
    exact h.uncancelled failed
  simpa [Failure.isCancelled] using hne

/-- A load whose feed ends brings something. -/
theorem brings_ne_nil (ends : (sources.lists load).ends = true) : sources.brings load ≠ [] := by
  simp [brings_eq, ends]

/-- The effects of all that a load brings are what it is to report. -/
theorem Settles.effects_brings (h : sources.Settles load) :
    (sources.brings load).flatMap Event.effects = report (sources.results load) := by
  have hresult : ∀ r ∈ sources.results load, (Event.listed r).effects = resultEffects r := by
    intro r hr
    cases r with
    | ok sessions => rfl
    | error f =>
      simp [Event.effects, Executor.handle, resultEffects, h.isCancelled hr,
        failureEffects_listFailure]
  rw [brings_eq, h.ends, if_pos rfl, List.flatMap_append, List.flatMap_map,
    List.flatMap_congr hresult, report]
  cases sources.results load with
  | nil =>
    have hempty : complaint Failure.emptyResponse.describe = complaint "Empty response" := rfl
    simp [Event.effects, Executor.handle, failureEffects_listFailure, hempty]
  | cons r rest => simp [Event.effects, Executor.handle]

/-- The first thing that a load brings takes the flag back. -/
theorem Settles.delivers_first (h : sources.Settles load) {e : Event}
    (first : [e] <+: sources.brings load) (p : Panel) : p.delivers (.event e) = true := by
  obtain ⟨rest, hrest⟩ := first
  have hhead : (sources.brings load).head? = some e := by rw [← hrest]; rfl
  rw [brings_eq, h.ends, if_pos rfl] at hhead
  cases hresults : sources.results load with
  | nil =>
    obtain rfl : .finished false false = e := by simpa [hresults, endsInList] using hhead
    rfl
  | cons r results =>
    obtain rfl : .listed r = e := by simpa [hresults] using hhead
    cases r with
    | ok sessions => rfl
    | error f =>
      have hf := h.isCancelled (hresults ▸ List.mem_cons_self)
      simp [Panel.delivers, hf]

end Sources

namespace Store

variable {sources : Sources} {arrivals : List Arrival}

/-- The flag is on only while the latest load has brought nothing. -/
theorem latest_silent (orderly : Orderly sources arrivals)
    (settles : ∀ load < loadsIn arrivals, sources.Settles load)
    (loading : (after sources arrivals).desk.board.loading = true) :
    ∃ load, loadsIn arrivals = load + 1 ∧ broughtBy load arrivals = [] := by
  induction arrivals using List.reverseRecOn with
  | nil => simp at loading
  | append_singleton arrivals a ih =>
    obtain ⟨hbefore, hnext⟩ := orderly_concat.1 orderly
    rw [loadsIn_append] at settles
    have ih := ih hbefore fun load hload => settles load (by omega)
    rw [after_concat, loading_take] at loading
    rw [loadsIn_append, loadsIn_singleton]
    cases hload : a.input.loads with
    | true =>
      refine ⟨loadsIn arrivals, rfl, ?_⟩
      rw [broughtBy_append, hbefore.broughtBy_eq_nil le_rfl]
      cases a with
      | intent i => rfl
      | _ => cases hload
    | false =>
      obtain ⟨hold, hnot⟩ : (after sources arrivals).desk.board.loading = true ∧
          (after sources arrivals).panel.delivers a.input = false := by
        simpa [hload] using loading
      obtain ⟨load, hlatest, hsilent⟩ := ih hold
      refine ⟨load, hlatest, ?_⟩
      cases a with
      | brought other e =>
        by_cases hother : other = load
        · -- the first thing that the load brings would have taken the flag back
          obtain rfl := hother
          have hfirst : [e] <+: sources.brings other := by simpa [hsilent] using hnext.2
          have hdelivers := (settles other (by omega)).delivers_first hfirst
            (after sources arrivals).panel
          simp [Arrival.input, hdelivers] at hnot
        · simp [hsilent, hother]
      | _ => simp [hsilent]

/-- When all loads are over, nothing is loading. -/
theorem loading_eq_false_of_isOver (orderly : Orderly sources arrivals)
    (settles : ∀ load < loadsIn arrivals, sources.Settles load)
    (hover : ∀ load < loadsIn arrivals, sources.IsOver load arrivals) :
    (after sources arrivals).desk.board.loading = false := by
  by_contra hloading
  obtain ⟨load, hlatest, hsilent⟩ := latest_silent orderly settles (by simpa using hloading)
  have hall : broughtBy load arrivals = sources.brings load := hover load (by omega)
  exact Sources.brings_ne_nil (settles load (by omega)).ends (hall ▸ hsilent)

/-- A load has its effects in the order of its results, whatever else arrives, and all of them
when it is over; and the flag is off when every load that was started is over. -/
theorem loads_reported (orderly : Orderly sources arrivals)
    (settles : ∀ load < loadsIn arrivals, sources.Settles load) :
    (∀ load < loadsIn arrivals,
      Panel.effectsFrom load {} arrivals <+: report (sources.results load) ∧
      (sources.IsOver load arrivals →
        Panel.effectsFrom load {} arrivals = report (sources.results load))) ∧
    ((∀ load < loadsIn arrivals, sources.IsOver load arrivals) →
      (after sources arrivals).desk.board.loading = false) := by
  constructor
  · intro load hload
    rw [Panel.effectsFrom_eq load {} fun e he => orderly.aside_of_mem he,
      ← (settles load hload).effects_brings]
    constructor
    · obtain ⟨rest, hrest⟩ := orderly.broughtBy_prefix load
      rw [← hrest, List.flatMap_append]
      exact List.prefix_append _ _
    · intro hover
      rw [hover]
  · exact loading_eq_false_of_isOver orderly settles

/-- A first load with a list and a failure, and later ones that bring nothing. -/
def listThenFailure : Sources where
  lists load := if load = 0 then Feed.atOnce [.ok [], .error (.network "offline")] else []
  sessions _ := []

/-- Two loads that overlap: the second is started, and is over, between the results of the
first. -/
def overlappingLoads : List Arrival :=
  [.intent .load, .brought 0 (.listed (.ok [])), .intent .refresh,
    .brought 1 (.finished false false), .brought 0 (.listed (.error (.network "offline"))),
    .brought 0 (.finished true false)]

/-- The two loads bring their own in order. -/
theorem overlappingLoads_orderly : Orderly listThenFailure overlappingLoads := by
  have hlist := (orderly_load listThenFailure).concat (a := .brought 0 (.listed (.ok [])))
    ⟨by decide, _, rfl⟩
  have hrefresh := hlist.concat (a := .intent .refresh) trivial
  have hempty := hrefresh.concat (a := .brought 1 (.finished false false)) ⟨by decide, _, rfl⟩
  have hfailure := hempty.concat (a := .brought 0 (.listed (.error (.network "offline"))))
    ⟨by decide, _, rfl⟩
  exact hfailure.concat (a := .brought 0 (.finished true false)) ⟨by decide, [], rfl⟩

/-- The two loads report a list and two failures, and nothing is left loading. -/
theorem loads_reported_overlappingLoads :
    Panel.effectsFrom 0 {} overlappingLoads =
      [.change (.loaded []),
        .change (.loadFailed "Failed to load sessions: Network error: offline"),
        .label (.errorOccurred "Failed to load sessions: Network error: offline")] ∧
    Panel.effectsFrom 1 {} overlappingLoads =
      [.change (.loadFailed "Failed to load sessions: Empty response"),
        .label (.errorOccurred "Failed to load sessions: Empty response")] ∧
    (after listThenFailure overlappingLoads).desk.board.loading = false := by
  have settles : ∀ load < loadsIn overlappingLoads, listThenFailure.Settles load := by
    intro load hload
    have htwo : load < 2 := hload
    interval_cases load
    · exact ⟨rfl, by simp [Sources.results, listThenFailure]⟩
    · exact ⟨rfl, by simp [Sources.results, listThenFailure, Feed.results, Feed.timed]⟩
  have hover : ∀ load < loadsIn overlappingLoads, listThenFailure.IsOver load overlappingLoads := by
    intro load hload
    have htwo : load < 2 := hload
    interval_cases load <;> rfl
  obtain ⟨hreports, hidle⟩ := loads_reported overlappingLoads_orderly settles
  exact ⟨((hreports 0 (by decide)).2 (hover 0 (by decide))).trans (by decide),
    ((hreports 1 (by decide)).2 (hover 1 (by decide))).trans (by decide), hidle hover⟩

end Store

end ChatGateway.Board
