import Mathlib
import ChatGateway.Proofs.Board.Reports

/-!
# What a store does is in an order that is possible

A store puts what its fetches bring on an agenda by time, and the agenda does not say which
load an entry comes of.  Behind the agenda there is one that does: its entries are arrivals,
and what each load has brought together with its entries there is all that the load brings
(`Fetcher.Owes`).  Starting a fetch, cancelling one and letting time pass keep this.

So an open store is where some orderly arrivals lead (`Store.Reached.exists_orderly`), and
what holds after all orderly arrivals holds of it.  With nothing on its agenda all of its loads
are over.
-/

set_option autoImplicit false

namespace ChatGateway.Board

/-- A list fetch brings its results in order of time. -/
theorem listEvents_inOrder (now : Nat) (feed : Feed (Except Failure (List Session))) :
    Agenda.InOrder (listEvents now feed) := by
  obtain ⟨-, hpairwise, hend⟩ := feed.timed_inOrder now
  rw [listEvents]
  cases htime : feed.endTime now with
  | none => simpa [Agenda.InOrder, List.pairwise_map] using hpairwise
  | some time =>
    refine List.pairwise_append.2 ⟨List.pairwise_map.2 hpairwise, List.pairwise_singleton _ _, ?_⟩
    intro d hd e he
    obtain ⟨r, hr, rfl⟩ := List.mem_map.1 hd
    obtain rfl := List.mem_singleton.1 he
    exact (hend time htime).2 r hr

/-- What a list fetch brings does not depend on when it starts. -/
theorem Sources.map_what_listEvents (sources : Sources) (now load : Nat) :
    (listEvents now (sources.lists load)).map Due.what = sources.brings load := by
  rw [brings, listEvents_what, listEvents_what]

/-- The arrivals `due` are behind the entries of an agenda: they are what is still to come
after `arrivals`. -/
structure Fetcher.Owes (sources : Sources) (f : Fetcher) (agenda : Agenda Event)
    (arrivals : List Arrival) (due : Agenda Arrival) : Prop where
  running : f.stopped = false
  lists : f.lists = loadsIn arrivals
  same : due.map (Due.map Arrival.input) = agenda.map (Due.map .event)
  inOrder : Agenda.InOrder due
  /-- What a load has brought and what is due from it is all that it brings. -/
  account : ∀ load, broughtBy load arrivals ++ broughtBy load (due.map Due.what) =
    if load < loadsIn arrivals then sources.brings load else []

namespace Fetcher.Owes

variable {sources : Sources} {f : Fetcher} {agenda : Agenda Event} {arrivals : List Arrival}
  {due : Agenda Arrival}

/-- An intent that loads nothing leaves what is owed. -/
theorem intent (h : f.Owes sources agenda arrivals due) {i : Intent}
    (hi : i.loads = false) : f.Owes sources agenda (arrivals ++ [.intent i]) due := by
  have hloads : loadsIn (arrivals ++ [.intent i]) = loadsIn arrivals := by
    simp [Arrival.input, Input.loads, hi]
  refine ⟨h.running, hloads.symm ▸ h.lists, h.same, h.inOrder, fun load => ?_⟩
  rw [hloads, broughtBy_append, broughtBy_intent, List.append_nil]
  exact h.account load

/-- Nothing that is owed by a load is an answer about a session. -/
theorem aside (h : f.Owes sources agenda arrivals due) {load : Nat} {e : Event}
    (he : .brought load e ∈ due.map Due.what) : e.isAnswer = false := by
  have hdue : e ∈ broughtBy load (due.map Due.what) := (mem_broughtBy ..).2 he
  have hall := List.mem_append_right (broughtBy load arrivals) hdue
  rw [h.account] at hall
  by_cases hload : load < loadsIn arrivals
  · rw [if_pos hload] at hall
    exact sources.aside_of_mem_brings load hall
  · simp [hload] at hall

/-- Answers that are no longer wanted are not owed. -/
theorem cancel (h : f.Owes sources f.agenda arrivals due) (request : Nat) :
    (f.cancel request).Owes sources (f.cancel request).agenda arrivals
      (Agenda.drop (fun a => a.input.answers request) due) := by
  have hkept : ∀ load, broughtBy load ((Agenda.drop (fun a => a.input.answers request) due).map
      Due.what) = broughtBy load (due.map Due.what) := by
    intro load
    rw [Agenda.drop, broughtBy, broughtBy, List.filterMap_map, List.filterMap_map,
      List.filterMap_filter]
    refine List.filterMap_congr fun d hd => ?_
    cases ha : d.what with
    | brought other e =>
      have hdue : .brought other e ∈ due.map Due.what := ha ▸ List.mem_map_of_mem hd
      have haside := h.aside hdue
      have hkeep : Fetcher.answers request e = false := by
        cases e with
        | answered => cases haside
        | _ => rfl
      simp [Arrival.input, Input.answers, ha, hkeep]
    | _ => simp [Arrival.from?, ha]
  refine ⟨h.running, h.lists, ?_, h.inOrder.sublist List.filter_sublist, fun load => ?_⟩
  · have hfilter := congrArg (List.filter fun d => !d.what.answers request) h.same
    rw [List.filter_map, List.filter_map] at hfilter
    exact hfilter
  · rw [hkept]
    exact h.account load

section insertAll

variable {ds : Agenda Arrival} {load : Nat}

/-- What is put on an agenda in order comes behind what is due of the same load. -/
theorem broughtBy_insertAll (inOrder : Agenda.InOrder due) (hds : Agenda.InOrder ds)
    (fresh : broughtBy load (ds.map Due.what) = [] ∨ broughtBy load (due.map Due.what) = []) :
    broughtBy load ((Agenda.insertAll due ds).map Due.what) =
      broughtBy load (due.map Due.what) ++ broughtBy load (ds.map Due.what) := by
  refine Agenda.filterMap_insertAll inOrder hds fun e he d hd hd' he' => ?_
  rcases fresh with hnil | hnil
  · have hnone := List.filterMap_eq_nil_iff.1 hnil _ (List.mem_map_of_mem hd)
    simp [hnone] at hd'
  · have hnone := List.filterMap_eq_nil_iff.1 hnil _ (List.mem_map_of_mem he)
    simp [hnone] at he'

/-- Two agendas that agree on what is due agree after the same things are entered. -/
theorem same_insertAll {es : Agenda Event}
    (same : due.map (Due.map Arrival.input) = agenda.map (Due.map .event))
    (hds : ds.map (Due.map Arrival.input) = es.map (Due.map .event)) :
    (Agenda.insertAll due ds).map (Due.map Arrival.input) =
      (Agenda.insertAll agenda es).map (Due.map .event) := by
  rw [Agenda.map_insertAll, Agenda.map_insertAll, same, hds]

end insertAll

/-- A load that is started owes all that it brings. -/
theorem startList (h : f.Owes sources f.agenda arrivals due) {i : Intent} (hi : i.loads = true)
    (force : Bool) :
    ∃ due', (f.start sources (.list force)).Owes sources (f.start sources (.list force)).agenda
      (arrivals ++ [.intent i]) due' := by
  let events := listEvents f.now (sources.lists f.lists)
  let ds := events.map (Due.map (Arrival.brought f.lists))
  have hagenda : (f.start sources (.list force)).agenda = Agenda.insertAll f.agenda events := by
    simp [start, h.running, events]
  have hdsOrder : Agenda.InOrder ds := List.pairwise_map.2 (listEvents_inOrder _ _)
  have hbrings : ds.map Due.what = (sources.brings f.lists).map (.brought f.lists) := by
    rw [← sources.map_what_listEvents f.now]
    simp [ds, events, Function.comp_def, Due.map]
  have hloads : loadsIn (arrivals ++ [.intent i]) = f.lists + 1 := by
    simp [Arrival.input, Input.loads, hi, h.lists]
  refine ⟨Agenda.insertAll due ds, h.running, by rw [hloads]; rfl, ?_,
    Agenda.inOrder_insertAll h.inOrder ds, fun load => ?_⟩
  · rw [hagenda]
    refine same_insertAll h.same ?_
    simp [ds, Due.map, Function.comp_def, Arrival.input]
  · have haccount := h.account load
    rw [← h.lists] at haccount
    rw [hloads, broughtBy_append, broughtBy_intent, List.append_nil]
    by_cases hload : f.lists = load
    · -- the new load has brought nothing before, and nothing is due from it
      obtain rfl := hload
      obtain ⟨hbrought, hdue⟩ := List.append_eq_nil_iff.1 (by simpa using haccount)
      rw [broughtBy_insertAll h.inOrder hdsOrder (.inr hdue), hbrought, hdue, hbrings,
        broughtBy_map_brought]
      simp
    · have hother : broughtBy load (ds.map Due.what) = [] := by
        rw [hbrings, broughtBy_map_brought, if_neg hload]
      rw [broughtBy_insertAll h.inOrder hdsOrder (.inl hother), hother, List.append_nil, haccount]
      have hlt : load < f.lists + 1 ↔ load < f.lists := by omega
      simp only [hlt]

/-- A session fetch makes no difference to what the loads owe. -/
theorem startSession (h : f.Owes sources f.agenda arrivals due) (request : Nat) (id : String) :
    ∃ due', (f.start sources (.session request id)).Owes sources
      (f.start sources (.session request id)).agenda arrivals due' := by
  have hagenda : (f.start sources (.session request id)).agenda =
      Agenda.insertAll f.agenda (sessionEvents f.now request id (sources.sessions id)) := by
    simp [start, h.running]
  rcases sessionEvents_spec sources f.now request id with hnone | ⟨time, result, hone, -⟩
  · refine ⟨due, h.running, h.lists, ?_, h.inOrder, h.account⟩
    rw [hagenda, hnone]
    exact h.same
  · let ds : Agenda Arrival := [⟨time, .answered request id result⟩]
    have hdsOrder : Agenda.InOrder ds := List.pairwise_singleton _ _
    refine ⟨Agenda.insertAll due ds, h.running, h.lists, ?_,
      Agenda.inOrder_insertAll h.inOrder ds, fun load => ?_⟩
    · rw [hagenda, hone]
      exact same_insertAll h.same rfl
    · have hother : broughtBy load (ds.map Due.what) = [] := rfl
      rw [broughtBy_insertAll h.inOrder hdsOrder (.inl hother), hother, List.append_nil]
      exact h.account load

end Fetcher.Owes

namespace Store

/-- A store is where `arrivals` lead, and `agenda` is still to come. -/
structure Follows (sources : Sources) (s : Store) (agenda : Agenda Event)
    (arrivals : List Arrival) (due : Agenda Arrival) : Prop where
  desk : s.desk = (after sources arrivals).desk
  panel : s.panel = (after sources arrivals).panel
  orderly : Orderly sources arrivals
  owes : s.bench.fetcher.Owes sources agenda arrivals due

namespace Follows

variable {sources : Sources} {s : Store} {agenda : Agenda Event} {arrivals : List Arrival}
  {due : Agenda Arrival}

/-- A store and the one that the arrivals lead to take an input alike. -/
theorem desk_panel_take (h : s.Follows sources agenda arrivals due) (a : Arrival) :
    (s.take sources a.input).desk = (after sources (arrivals ++ [a])).desk ∧
      (s.take sources a.input).panel = (after sources (arrivals ++ [a])).panel := by
  rw [after_concat, desk_take, desk_take, panel_take, panel_take, h.desk, h.panel]
  exact ⟨rfl, rfl⟩

/-- The first entry of the agenda can arrive next. -/
theorem handle {d : Due Event} (h : s.Follows sources (d :: agenda) arrivals due) :
    ∃ arrivals' due', (s.handle d.what).Follows sources agenda arrivals' due' := by
  obtain ⟨⟨time, a⟩, due', rfl, hfirst, hsame⟩ := List.map_eq_cons_iff.1 h.owes.same
  have hinput : a.input = .event d.what := congrArg Due.what hfirst
  obtain ⟨hdesk, hpanel⟩ := h.desk_panel_take a
  rw [hinput] at hdesk hpanel
  have hloads : loadsIn (arrivals ++ [a]) = loadsIn arrivals := by
    simp [hinput, Input.loads]
  have haccount : ∀ load, broughtBy load (arrivals ++ [a]) ++ broughtBy load (due'.map Due.what) =
      if load < loadsIn arrivals then sources.brings load else [] := by
    intro load
    rw [← h.owes.account load, broughtBy_append, List.append_assoc, ← broughtBy_append,
      List.map_cons, List.singleton_append]
  -- a load that has something due was started, and this is the next thing that it brings
  have hnext : a.MayFollow sources arrivals := by
    cases a with
    | brought load e =>
      have hload := haccount load
      by_cases hstarted : load < loadsIn arrivals
      · refine ⟨hstarted, broughtBy load (due'.map Due.what), ?_⟩
        simpa [hstarted] using hload
      · simp [hstarted] at hload
    | _ => trivial
  exact ⟨arrivals ++ [a], due', hdesk, hpanel, h.orderly.concat hnext, h.owes.running,
    hloads.symm ▸ h.owes.lists, hsame, (List.pairwise_cons.1 h.owes.inOrder).2,
    hloads.symm ▸ haccount⟩

/-- What is due is handled in the order of the agenda. -/
theorem handleAll {first : Agenda Event} (h : s.Follows sources (first ++ agenda) arrivals due) :
    ∃ arrivals' due',
      ((first.map Due.what).foldl Store.handle s).Follows sources agenda arrivals' due' := by
  induction first generalizing s arrivals due with
  | nil => exact ⟨arrivals, due, h⟩
  | cons d first ih =>
    obtain ⟨arrivals₁, due₁, h₁⟩ := h.handle
    exact ih h₁

end Follows

/-- Handling events neither starts a fetch nor closes the store. -/
theorem foldl_handle (s : Store) (es : List Event) :
    (es.foldl handle s).bench.fetcher = s.bench.fetcher ∧
      (es.foldl handle s).closed = s.closed := by
  induction es generalizing s with
  | nil => exact ⟨rfl, rfl⟩
  | cons e es ih => exact ih (s.handle e)

/-- A store follows some arrivals with what is on its agenda still to come. -/
def IsOrderly (sources : Sources) (s : Store) : Prop :=
  ∃ arrivals due, s.Follows sources s.bench.fetcher.agenda arrivals due

namespace IsOrderly

variable {sources : Sources} {s : Store}

/-- Arrivals stay in order when an intent is carried out. -/
theorem intend (h : s.IsOrderly sources) (i : Intent) : (s.intend sources i).IsOrderly sources := by
  obtain ⟨arrivals, due, h⟩ := h
  obtain ⟨hdesk, hpanel⟩ := h.desk_panel_take (.intent i)
  have horderly := h.orderly.concat (a := .intent i) trivial
  suffices howes : ∃ due', (s.intend sources i).bench.fetcher.Owes sources
      (s.intend sources i).bench.fetcher.agenda (arrivals ++ [.intent i]) due' by
    obtain ⟨due', howes⟩ := howes
    exact ⟨_, due', hdesk, hpanel, horderly, howes⟩
  have hstep := Panel.react_step s.panel (.intent i)
  have hfetcher : (s.intend sources i).bench.fetcher =
      (s.panel.react (.intent i)).fetch.elim
        ((s.panel.react (.intent i)).cancelled.elim s.bench.fetcher s.bench.fetcher.cancel)
        (Fetcher.start sources
          ((s.panel.react (.intent i)).cancelled.elim s.bench.fetcher s.bench.fetcher.cancel)) :=
    s.bench.execute_fetcher sources s.desk.board i
  rw [hfetcher]
  generalize s.panel.react (.intent i) = r at hstep
  -- first a fetch may be cancelled, then one may be started
  obtain ⟨due₁, h₁⟩ : ∃ due₁, (r.cancelled.elim s.bench.fetcher s.bench.fetcher.cancel).Owes sources
      (r.cancelled.elim s.bench.fetcher s.bench.fetcher.cancel).agenda arrivals due₁ := by
    cases r.cancelled with
    | none => exact ⟨due, h.owes⟩
    | some request => exact ⟨_, h.owes.cancel request⟩
  generalize r.cancelled.elim s.bench.fetcher s.bench.fetcher.cancel = f at h₁
  cases hstep with
  | load => exact h₁.startList rfl false
  | refresh => exact h₁.startList rfl true
  | asked => exact (h₁.intent rfl).startSession _ _
  | _ => exact ⟨due₁, h₁.intent rfl⟩

/-- Arrivals stay in order while time passes. -/
theorem wait (h : s.IsOrderly sources) (time : Nat) : (s.wait time).IsOrderly sources := by
  obtain ⟨arrivals, due, h⟩ := h
  let limit := s.bench.fetcher.now + time
  let first := s.bench.fetcher.agenda.takeWhile fun d => d.time ≤ limit
  let rest := s.bench.fetcher.agenda.dropWhile fun d => d.time ≤ limit
  let fetcher : Fetcher := { s.bench.fetcher with now := limit, agenda := rest }
  let s₁ : Store := { s with bench := { s.bench with fetcher := fetcher } }
  have hsplit : s.bench.fetcher.agenda = first ++ rest := List.takeWhile_append_dropWhile.symm
  have h₁ : s₁.Follows sources (first ++ rest) arrivals due :=
    ⟨h.desk, h.panel, h.orderly, h.owes.running, h.owes.lists, hsplit ▸ h.owes.same,
      h.owes.inOrder, h.owes.account⟩
  obtain ⟨arrivals', due', h'⟩ := h₁.handleAll
  refine ⟨arrivals', due', ?_⟩
  have hagenda := congrArg Fetcher.agenda (foldl_handle s₁ (first.map Due.what)).1
  exact hagenda.symm ▸ h'

/-- Arrivals stay in order when several intents are carried out. -/
theorem intends (h : s.IsOrderly sources) (is : List Intent) :
    (is.foldl (Store.intend sources) s).IsOrderly sources := by
  induction is generalizing s with
  | nil => exact h
  | cons i is ih => exact ih (h.intend i)

end IsOrderly

/-- Time does not close a store. -/
theorem closed_wait (s : Store) (time : Nat) : (s.wait time).closed = s.closed :=
  (foldl_handle _ _).2

/-- In a store that is open all has arrived in order. -/
theorem Reached.isOrderly {sources : Sources} {s : Store} (h : Reached sources s)
    (opened : s.closed = false) : s.IsOrderly sources := by
  induction h with
  | start =>
    have hempty : Follows sources {} [] [] [] :=
      ⟨rfl, rfl, orderly_nil, rfl, rfl, rfl, .nil, fun load => rfl⟩
    exact IsOrderly.intend ⟨[], [], hempty⟩ .load
  | @dispatched s _ is ih =>
    cases hclosed : s.closed with
    | true => simp [dispatch, hclosed] at opened
    | false =>
      have hopen : s.dispatch sources is = (is.foldl (Store.intend sources) s).wait 0 := by
        simp [dispatch, hclosed]
      rw [hopen]
      exact ((ih hclosed).intends is).wait 0
  | waited _ time ih =>
    rw [closed_wait] at opened
    exact (ih opened).wait time
  | closed => cases opened

/-- An open store is where some orderly arrivals lead, and if nothing is on its agenda, all
loads are over. -/
theorem Reached.exists_orderly {sources : Sources} {s : Store} (h : Reached sources s)
    (opened : s.closed = false) :
    ∃ arrivals, Orderly sources arrivals ∧ s.desk = (after sources arrivals).desk ∧
      s.panel = (after sources arrivals).panel ∧
      (s.coming = [] → ∀ load < loadsIn arrivals, sources.IsOver load arrivals) := by
  obtain ⟨arrivals, due, hfollows⟩ := h.isOrderly opened
  refine ⟨arrivals, hfollows.orderly, hfollows.desk, hfollows.panel, fun hquiet load hload => ?_⟩
  have hagenda : s.bench.fetcher.agenda = [] := List.map_eq_nil_iff.1 hquiet
  have hsame := hfollows.owes.same
  rw [hagenda, List.map_nil, List.map_eq_nil_iff] at hsame
  have haccount := hfollows.owes.account load
  rw [hsame, if_pos hload] at haccount
  exact (List.append_nil _).symm.trans haccount

/-- An open store with nothing on its agenda is not loading. -/
theorem Reached.notLoading_of_coming_eq_nil {sources : Sources} {s : Store} (h : Reached sources s)
    (opened : s.closed = false) (settles : ∀ load, sources.Settles load) (quiet : s.coming = []) :
    s.desk.published.loading = false := by
  obtain ⟨arrivals, horderly, hdesk, -, hover⟩ := h.exists_orderly opened
  rw [hdesk, published_after]
  exact loading_eq_false_of_isOver horderly (fun load _ => settles load) (hover quiet)

end Store

end ChatGateway.Board
