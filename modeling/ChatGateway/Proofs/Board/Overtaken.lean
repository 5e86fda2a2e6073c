import Mathlib
import ChatGateway.Proofs.Board.Arrivals

/-!
# A list can be overtaken

Every list that a load brings is shown, whichever load brings it.  So the board shows the list
that arrived last, and that is the latest list of some load, but not always of the latest one
(`Store.exists_latestList`): an older load that is slower than a newer one brings its list
last.  Of two loads the newer one's list is sure to stay only if the older one ends with the
same list.
-/

set_option autoImplicit false

namespace ChatGateway.Board

/-- The list that an event brings, if it brings one. -/
def Event.list? : Event → Option (List Session)
  | .listed (.ok sessions) => some sessions
  | _ => none

/-- The list that comes in, if one does. -/
def Input.list? : Input → Option (List Session)
  | .intent _ => none
  | .event e => e.list?

/-- The last of the lists among some events. -/
def lastList (es : List Event) : Option (List Session) :=
  (es.filterMap Event.list?).getLast?

/-- Of two series of events the second has the last list, if it has one. -/
theorem lastList_append (es es' : List Event) :
    lastList (es ++ es') = (lastList es').or (lastList es) := by
  rw [lastList, lastList, lastList, List.filterMap_append, List.getLast?_append]

/-- A step shows the list that it is given, if it is given one. -/
theorem Panel.Step.sessions {p : Panel} {i : Input} {r : Panel.Reaction} (h : Panel.Step p i r) :
    r.panel.board.sessions = i.list?.getD p.board.sessions := by
  cases h with
  | @answered request id result awaited =>
    cases result with
    | ok s => rfl
    | error f =>
      cases hf : f.isCancelled <;> simp [answerEffects, hf, apply, Input.list?, Event.list?]
  | _ => rfl

/-- The load of that number brings these lists, at least one, and then its end. -/
structure Sources.Succeeds (sources : Sources) (load : Nat) (lists : List (List Session)) :
    Prop where
  ends : (sources.lists load).ends = true
  results : sources.results load = lists.map .ok
  nonempty : lists ≠ []

/-- The last list that a load brings is the last of its results. -/
theorem Sources.Succeeds.lastList_brings {sources : Sources} {load : Nat}
    {lists : List (List Session)} (h : sources.Succeeds load lists) :
    lastList (sources.brings load) = lists.getLast? := by
  have hlists : (sources.brings load).filterMap Event.list? = lists := by
    rw [brings_eq, h.ends, if_pos rfl, h.results, List.map_map, List.filterMap_append,
      List.filterMap_map]
    simp [Function.comp_def, Event.list?]
  rw [lastList, hlists]

namespace Store

variable {sources : Sources} {arrivals : List Arrival}

/-- A store shows the list that it takes in, if that is one. -/
theorem sessions_take (s : Store) (i : Input) :
    (s.take sources i).desk.board.sessions = i.list?.getD s.desk.board.sessions := by
  have hpanel := congrArg (fun p : Panel => p.board.sessions) (s.panel_take sources i)
  exact hpanel.trans (Panel.react_step s.panel i).sessions

/-- As soon as any list has been brought, the board shows the latest list of one of the
loads. -/
theorem exists_latestList (orderly : Orderly sources arrivals) :
    (∀ load, lastList (broughtBy load arrivals) = none) ∨
      ∃ load < loadsIn arrivals,
        lastList (broughtBy load arrivals) = some (after sources arrivals).desk.board.sessions := by
  induction arrivals using List.reverseRecOn with
  | nil => exact .inl fun load => rfl
  | append_singleton arrivals a ih =>
    obtain ⟨hbefore, hnext⟩ := orderly_concat.1 orderly
    have ih := ih hbefore
    rw [after_concat, sessions_take]
    cases hlist : a.input.list? with
    | some sessions =>
      -- only a load brings a list
      cases a with
      | brought load e =>
        have he : e.list? = some sessions := hlist
        refine .inr ⟨load, by rw [loadsIn_append]; exact Nat.lt_add_right _ hnext.1, ?_⟩
        simp [lastList, he]
      | _ => cases hlist
    | none =>
      have hsame : ∀ load, lastList (broughtBy load (arrivals ++ [a])) =
          lastList (broughtBy load arrivals) := by
        intro load
        have hnone : lastList (broughtBy load [a]) = none := by
          cases a with
          | brought other e =>
            have he : e.list? = none := hlist
            by_cases hother : other = load <;> simp [lastList, hother, he]
          | _ => rfl
        simp [lastList_append, hnone]
      refine ih.imp (fun h load => (hsame load).trans (h load)) ?_
      rintro ⟨load, hload, hlatest⟩
      exact ⟨load, by rw [loadsIn_append]; omega, (hsame load).trans hlatest⟩

/-- After a load has brought several things in a row, the board shows the last list among
them. -/
theorem sessions_append_brought (load : Nat) (es : List Event) :
    (after sources (arrivals ++ es.map (.brought load))).desk.board.sessions =
      (lastList es).getD (after sources arrivals).desk.board.sessions := by
  induction es using List.reverseRecOn with
  | nil => simp [lastList]
  | append_singleton es e ih =>
    rw [List.map_append, List.map_singleton, ← List.append_assoc, after_concat, sessions_take, ih,
      lastList_append]
    cases he : e.list? <;> simp [Arrival.input, Input.list?, lastList, he]

/-- Two loads of which the newer one brings everything before the older one brings
anything. -/
def newerFirst (sources : Sources) : List Arrival :=
  [.intent .load, .intent .refresh] ++ (sources.brings 1).map (.brought 1) ++
    (sources.brings 0).map (.brought 0)

/-- In this order two loads are started. -/
theorem loadsIn_newerFirst (sources : Sources) : loadsIn (newerFirst sources) = 2 := by
  simp only [newerFirst, loadsIn_append, loadsIn_map_brought]
  rfl

/-- In this order both loads bring all they have. -/
theorem isOver_newerFirst (sources : Sources) :
    sources.IsOver 0 (newerFirst sources) ∧ sources.IsOver 1 (newerFirst sources) := by
  have hstarted : ∀ load, broughtBy load [.intent .load, .intent .refresh] = [] := fun load => rfl
  constructor <;>
    simp only [Sources.IsOver, newerFirst, broughtBy_append, hstarted, broughtBy_map_brought] <;>
    simp

/-- In this order each load brings its own in order. -/
theorem orderly_newerFirst (sources : Sources) : Orderly sources (newerFirst sources) := by
  have hrefresh := (orderly_load sources).concat (a := .intent .refresh) trivial
  have hnewer := hrefresh.append_brought (by decide) (List.prefix_refl (sources.brings 1))
  refine hnewer.append_brought ?_ ?_
  · rw [loadsIn_append]
    exact Nat.lt_add_right _ (by decide)
  · rw [broughtBy_append, broughtBy_map_brought]
    exact List.prefix_rfl

/-- In every order in which two loads can bring what they bring, the board shows the last list
of the newer one in the end. -/
def KeepsNewer (sources : Sources) : Prop :=
  ∀ arrivals, Orderly sources arrivals → loadsIn arrivals = 2 →
    sources.IsOver 0 arrivals → sources.IsOver 1 arrivals →
      lastList (sources.brings 1) = some (after sources arrivals).desk.board.sessions

/-- When two loads are over, the last list of one of them is shown. -/
theorem getLast?_eq_sessions {older newer : List (List Session)}
    (holder : sources.Succeeds 0 older) (hnewer : sources.Succeeds 1 newer)
    (orderly : Orderly sources arrivals) (two : loadsIn arrivals = 2)
    (over₀ : sources.IsOver 0 arrivals) (over₁ : sources.IsOver 1 arrivals) :
    older.getLast? = some (after sources arrivals).desk.board.sessions ∨
      newer.getLast? = some (after sources arrivals).desk.board.sessions := by
  rcases exists_latestList orderly with hnone | ⟨load, hload, hlatest⟩
  · have hlast := hnone 1
    rw [over₁, hnewer.lastList_brings] at hlast
    exact absurd (List.getLast?_eq_none_iff.1 hlast) hnewer.nonempty
  · obtain rfl | rfl : load = 0 ∨ load = 1 := by omega
    · rw [over₀, holder.lastList_brings] at hlatest
      exact .inl hlatest
    · rw [over₁, hnewer.lastList_brings] at hlatest
      exact .inr hlatest

/-- Of two loads that succeed, the list of the newer one is sure to stay exactly if both end
with the same list. -/
theorem keepsNewer_iff {older newer : List (List Session)} (holder : sources.Succeeds 0 older)
    (hnewer : sources.Succeeds 1 newer) :
    KeepsNewer sources ↔ older.getLast? = newer.getLast? := by
  constructor
  · intro hkeeps
    -- the newer load may be over before the older one brings anything
    obtain ⟨hover₀, hover₁⟩ := isOver_newerFirst sources
    have hshown := hkeeps _ (orderly_newerFirst sources) (loadsIn_newerFirst sources) hover₀ hover₁
    rw [newerFirst, sessions_append_brought, holder.lastList_brings,
      hnewer.lastList_brings] at hshown
    obtain ⟨sessions, hsessions⟩ := Option.ne_none_iff_exists'.1
      (mt List.getLast?_eq_none_iff.1 holder.nonempty)
    rw [hshown, hsessions]
    rfl
  · intro hsame arrivals orderly htwo hover₀ hover₁
    rw [hnewer.lastList_brings]
    rcases getLast?_eq_sessions holder hnewer orderly htwo hover₀ hover₁ with h | h
    · exact hsame ▸ h
    · exact h

/-- A first list that takes longer than the later ones. -/
def slowFirst : Sources where
  lists load :=
    if load = 0 then [⟨20, some (.ok [sessionNamed "old"])⟩]
    else [⟨5, some (.ok [sessionNamed "new"])⟩]
  sessions _ := []

/-- The initial load brings its list after the refresh has brought a newer one, and the board
shows the old list in the end. -/
theorem older_list_shown :
    let s := ((start slowFirst).dispatch slowFirst [.refresh]).wait 100
    s.coming = [] ∧ s.desk.published.loading = false ∧
      s.desk.published.sessions = [sessionNamed "old"] := by
  refine ⟨rfl, ?_, ?_⟩ <;> decide +kernel

/-- A first load that is slow hides the newer list. -/
theorem keepsNewer_iff_slowFirst : ¬ KeepsNewer slowFirst := by
  have holder : slowFirst.Succeeds 0 [[sessionNamed "old"]] := ⟨rfl, rfl, by simp⟩
  have hnewer : slowFirst.Succeeds 1 [[sessionNamed "new"]] := ⟨rfl, rfl, by simp⟩
  rw [keepsNewer_iff holder hnewer]
  simp [sessionNamed]

end Store

end ChatGateway.Board
