import Mathlib
import ChatGateway.Proofs.Board.Timetable
import ChatGateway.Proofs.History

/-!
# What reaches a store

A store is reached by intents, by what its loads bring, and by the answers to its session
fetches.  Loads are numbered as they are started, and each brings the results of its feed
and then its end.  Nothing is said about how fast they are: `Orderly` only asks that a load
brings something after it has been started, and that what it brings comes in its own order.
So a theorem about all orderly arrivals holds for every order in which the tasks of a store
can take turns.

Two facts carry over from the panel to the store.  What an event of a load leads to does not
depend on the executor (`react_aside`), and every arrival publishes at most one board, before
its labels are sent (`Store.published_after`, `Store.sent_take`).
-/

set_option autoImplicit false

namespace ChatGateway.Board

/-- Whether an intent starts a load. -/
def Intent.loads : Intent → Bool
  | .load | .refresh => true
  | _ => false

/-- Whether what comes in asks for the list. -/
def Input.loads : Input → Bool
  | .intent i => i.loads
  | .event _ => false

/-! ## What a load brings -/

/-- Whether the last of some results is a list. -/
def endsInList (results : List (Except Failure (List Session))) : Bool :=
  match results.getLast? with
  | some (.ok _) => true
  | _ => false

/-- What comes of a list fetch, without the times. -/
theorem listEvents_what (now : Nat) (feed : Feed (Except Failure (List Session))) :
    (listEvents now feed).map Due.what =
      feed.results.map .listed ++
        if feed.ends then [.finished (!feed.results.isEmpty) (endsInList feed.results)]
        else [] := by
  have hresults : (feed.timed now).map (Event.listed ∘ Prod.snd) = feed.results.map .listed := by
    rw [← feed.map_snd_timed now, List.map_map]
  have hempty : (feed.timed now).isEmpty = feed.results.isEmpty := by
    rw [← feed.map_snd_timed now, List.isEmpty_map]
  rw [← feed.isSome_endTime now, ← hresults, ← hempty, endsInList, ← feed.map_snd_timed now,
    List.getLast?_map, listEvents, List.map_append, List.map_map]
  cases feed.endTime now with
  | none => rfl
  | some time => rcases (feed.timed now).getLast? with _ | ⟨_, _ | _⟩ <;> rfl

namespace Sources

variable (sources : Sources) (load : Nat)

/-- The results of the load of that number. -/
def results : List (Except Failure (List Session)) :=
  (sources.lists load).results

/-- What the load of that number brings, in order. -/
def brings : List Event :=
  (listEvents 0 (sources.lists load)).map Due.what

/-- A load brings each of its results and then, if its feed ends, the end. -/
theorem brings_eq :
    sources.brings load = (sources.results load).map .listed ++
      if (sources.lists load).ends then
        [.finished (!(sources.results load).isEmpty) (endsInList (sources.results load))]
      else [] :=
  listEvents_what 0 _

/-- What a load brings is no answer about a session. -/
theorem aside_of_mem_brings {e : Event} (h : e ∈ sources.brings load) : e.isAnswer = false := by
  obtain ⟨d, hd, rfl⟩ := List.mem_map.1 h
  exact listEvents_aside _ _ hd

end Sources

/-- The effects of an event that is no answer. -/
def Event.effects (e : Event) : List Effect :=
  (Executor.handle {} e).1

/-- What a load brings leads to the same on every executor, and leaves it as it is. -/
theorem Panel.react_aside (p : Panel) {e : Event} (aside : e.isAnswer = false) :
    p.react (.event e) =
      { panel := ⟨applyEffects p.board e.effects, p.executor⟩, effects := e.effects } := by
  cases e with
  | listed result => cases result <;> rfl
  | finished received lastOk => rfl
  | answered => cases aside

/-! ## Arrivals -/

/-- What reaches a store. -/
inductive Arrival
  | intent (i : Intent)
  /-- The load of that number brings something. -/
  | brought (load : Nat) (e : Event)
  | answered (request : Nat) (id : String) (result : Except Failure Session)

namespace Arrival

/-- What an arrival is to the panel. -/
def input : Arrival → Input
  | .intent i => .intent i
  | .brought _ e => .event e
  | .answered request id result => .event (.answered request id result)

/-- The intent that arrives, if one does. -/
def intent? : Arrival → Option Intent
  | .intent i => some i
  | _ => none

/-- What the load of that number brings by an arrival, if it does. -/
def from? (load : Nat) : Arrival → Option Event
  | .brought other e => if other = load then some e else none
  | _ => none

end Arrival

/-- The intents among some arrivals. -/
def intentsOf (arrivals : List Arrival) : List Intent :=
  arrivals.filterMap Arrival.intent?

/-- The number of loads that some arrivals start. -/
def loadsIn (arrivals : List Arrival) : Nat :=
  (intentsOf arrivals).countP Intent.loads

/-- What the load of that number brings by some arrivals. -/
def broughtBy (load : Nat) (arrivals : List Arrival) : List Event :=
  arrivals.filterMap (Arrival.from? load)

/-- All that the load of that number brings has arrived. -/
def Sources.IsOver (sources : Sources) (load : Nat) (arrivals : List Arrival) : Prop :=
  broughtBy load arrivals = sources.brings load

/-- Whether something can arrive after some arrivals.  What is brought is the next thing
that a load brings which has been started. -/
def Arrival.MayFollow (sources : Sources) (arrivals : List Arrival) : Arrival → Prop
  | .brought load e =>
    load < loadsIn arrivals ∧ broughtBy load arrivals ++ [e] <+: sources.brings load
  | _ => True

/-- The arrivals are in an order that is possible: each can arrive when it does. -/
def Orderly (sources : Sources) (arrivals : List Arrival) : Prop :=
  ∀ before a after, arrivals = before ++ a :: after → a.MayFollow sources before

section lists

variable (arrivals : List Arrival) (load : Nat)

/-- What is brought before comes first. -/
@[simp]
theorem broughtBy_append (more : List Arrival) :
    broughtBy load (arrivals ++ more) = broughtBy load arrivals ++ broughtBy load more :=
  List.filterMap_append

/-- The intents before come first. -/
@[simp]
theorem intentsOf_append (more : List Arrival) :
    intentsOf (arrivals ++ more) = intentsOf arrivals ++ intentsOf more :=
  List.filterMap_append

/-- Loads are counted one arrival after another. -/
@[simp]
theorem loadsIn_append (more : List Arrival) :
    loadsIn (arrivals ++ more) = loadsIn arrivals + loadsIn more := by
  simp [loadsIn]

/-- An intent is nothing that a load brings. -/
@[simp]
theorem broughtBy_intent (i : Intent) : broughtBy load [.intent i] = [] := rfl

/-- An answer about a session is nothing that a load brings. -/
@[simp]
theorem broughtBy_answered (request : Nat) (id : String) (result : Except Failure Session) :
    broughtBy load [.answered request id result] = [] := rfl

/-- What a load brings counts for that load only. -/
@[simp]
theorem broughtBy_brought (other : Nat) (e : Event) :
    broughtBy load [.brought other e] = if other = load then [e] else [] := by
  by_cases h : other = load <;> simp [broughtBy, Arrival.from?, h]

/-- An intent is the intent that it is. -/
@[simp]
theorem intentsOf_intent (i : Intent) : intentsOf [.intent i] = [i] := rfl

/-- What a load brings is no intent. -/
@[simp]
theorem intentsOf_brought (e : Event) : intentsOf [.brought load e] = [] := rfl

/-- An answer about a session is no intent. -/
@[simp]
theorem intentsOf_answered (request : Nat) (id : String) (result : Except Failure Session) :
    intentsOf [.answered request id result] = [] := rfl

/-- One arrival starts one load or none. -/
@[simp]
theorem loadsIn_singleton (a : Arrival) : loadsIn [a] = if a.input.loads then 1 else 0 := by
  cases a with
  | intent i => cases i <;> rfl
  | _ => rfl

/-- Several things that a load brings count for that load only. -/
theorem broughtBy_map_brought (other : Nat) (es : List Event) :
    broughtBy load (es.map (.brought other)) = if other = load then es else [] := by
  induction es with
  | nil => simp [broughtBy]
  | cons e es ih =>
    rw [List.map_cons, ← List.singleton_append, broughtBy_append, broughtBy_brought, ih]
    by_cases h : other = load <;> simp [h]

/-- What a load has brought is what has arrived from it. -/
theorem mem_broughtBy {e : Event} : e ∈ broughtBy load arrivals ↔ .brought load e ∈ arrivals := by
  rw [broughtBy, List.mem_filterMap]
  constructor
  · rintro ⟨a, ha, hfrom⟩
    cases a with
    | brought other e' =>
      obtain ⟨rfl, rfl⟩ : other = load ∧ e' = e := by simpa [Arrival.from?] using hfrom
      exact ha
    | _ => cases hfrom
  · exact fun he => ⟨_, he, by simp [Arrival.from?]⟩

/-- What a load brings has no intents in it. -/
@[simp]
theorem intentsOf_map_brought (es : List Event) :
    intentsOf (es.map (.brought load)) = [] := by
  simp [intentsOf, Arrival.intent?]

/-- What a load brings starts no loads. -/
@[simp]
theorem loadsIn_map_brought (es : List Event) : loadsIn (es.map (.brought load)) = 0 := by
  rw [loadsIn, intentsOf_map_brought]
  rfl

variable {arrivals}

/-- If the first load is all that was asked for, one load was started. -/
theorem loadsIn_of_initial (initial : intentsOf arrivals = [.load]) : loadsIn arrivals = 1 := by
  rw [loadsIn, initial]
  rfl

end lists

section orderly

variable {sources : Sources} {arrivals : List Arrival}

/-- Without arrivals all is in order. -/
theorem orderly_nil : Orderly sources [] := by
  intro before a after h
  simp at h

/-- Arrivals are in order as long as each of them may follow those before. -/
theorem orderly_concat {a : Arrival} :
    Orderly sources (arrivals ++ [a]) ↔
      Orderly sources arrivals ∧ a.MayFollow sources arrivals := by
  constructor
  · intro h
    exact ⟨fun before b after heq => h before b (after ++ [a]) (by simp [heq]), h arrivals a [] rfl⟩
  · rintro ⟨h, hlast⟩ before b after heq
    rcases concat_eq_append_cons.1 heq with ⟨-, rfl, rfl⟩ | ⟨rest, -, hrest⟩
    · exact hlast
    · exact h before b rest hrest

/-- One more arrival that may follow keeps the order. -/
theorem Orderly.concat (h : Orderly sources arrivals) {a : Arrival}
    (next : a.MayFollow sources arrivals) : Orderly sources (arrivals ++ [a]) :=
  orderly_concat.2 ⟨h, next⟩

/-- The first of some arrivals in order are in order too. -/
theorem Orderly.of_append {more : List Arrival} (h : Orderly sources (arrivals ++ more)) :
    Orderly sources arrivals :=
  fun before a after heq => h before a (after ++ more) (by simp [heq])

/-- The first load is in order. -/
theorem orderly_load (sources : Sources) : Orderly sources [.intent .load] :=
  orderly_nil.concat (a := .intent .load) trivial

/-- What a load brings is the beginning of all that it brings. -/
theorem Orderly.broughtBy_prefix (h : Orderly sources arrivals) (load : Nat) :
    broughtBy load arrivals <+: sources.brings load := by
  induction arrivals using List.reverseRecOn with
  | nil => exact List.nil_prefix
  | append_singleton arrivals a ih =>
    obtain ⟨hbefore, hlast⟩ := orderly_concat.1 h
    rw [broughtBy_append]
    cases a with
    | brought other e =>
      by_cases hother : other = load
      · obtain rfl := hother
        simpa using hlast.2
      · simpa [hother] using ih hbefore
    | _ => simpa using ih hbefore

/-- A load that has not been started has brought nothing. -/
theorem Orderly.broughtBy_eq_nil (h : Orderly sources arrivals) {load : Nat}
    (unstarted : loadsIn arrivals ≤ load) : broughtBy load arrivals = [] := by
  induction arrivals using List.reverseRecOn with
  | nil => rfl
  | append_singleton arrivals a ih =>
    obtain ⟨hbefore, hlast⟩ := orderly_concat.1 h
    rw [loadsIn_append] at unstarted
    rw [broughtBy_append, ih hbefore (by omega)]
    cases a with
    | brought other e =>
      have hother : other ≠ load := by
        have := hlast.1
        omega
      simp [hother]
    | _ => rfl

/-- Nothing that has arrived from a load is an answer about a session. -/
theorem Orderly.aside_of_mem (h : Orderly sources arrivals) {load : Nat} {e : Event}
    (he : .brought load e ∈ arrivals) : e.isAnswer = false := by
  obtain ⟨before, after, rfl⟩ := List.append_of_mem he
  have hnext := (h before _ after rfl).2
  exact sources.aside_of_mem_brings load (hnext.subset (by simp))

/-- A load may bring several things in its own order, one after another. -/
theorem Orderly.append_brought (h : Orderly sources arrivals) {load : Nat}
    (started : load < loadsIn arrivals) {es : List Event}
    (next : broughtBy load arrivals ++ es <+: sources.brings load) :
    Orderly sources (arrivals ++ es.map (.brought load)) := by
  induction es using List.reverseRecOn with
  | nil => simpa using h
  | append_singleton es e ih =>
    rw [← List.append_assoc] at next
    have hes := ih ((List.prefix_append _ _).trans next)
    rw [List.map_append, List.map_singleton, ← List.append_assoc]
    refine hes.concat ⟨?_, ?_⟩
    · rw [loadsIn_append]
      omega
    · simpa [broughtBy_map_brought] using next

end orderly

/-! ## What a store becomes -/

namespace Desk

variable (d : Desk)

/-- Effects are applied one after another. -/
theorem applyAll_append (es es' : List Effect) :
    d.applyAll (es ++ es') = (d.applyAll es).applyAll es' := by
  simp [applyAll]

/-- A board that was published is published after all effects too. -/
theorem applyAll_published (h : d.published = d.board) (es : List Effect) :
    (d.applyAll es).published = (d.applyAll es).board := by
  induction es generalizing d with
  | nil => exact h
  | cons e es ih => cases e with
    | change c => exact ih _ rfl
    | label l => exact ih _ h

/-- Changes of the board send no labels. -/
theorem applyAll_changes_sent (cs : List Change) :
    (d.applyAll (cs.map .change)).sent = d.sent := by
  induction cs generalizing d with
  | nil => rfl
  | cons c cs ih => exact ih _

/-- Labels are sent with the board that was published, and change nothing else. -/
theorem applyAll_labels (ls : List Label) :
    d.applyAll (ls.map .label) = { d with sent := d.sent ++ ls.map fun l => (l, d.published) } := by
  induction ls generalizing d with
  | nil => simp [applyAll]
  | cons l ls ih =>
    have hrest := ih (d.apply (.label l))
    simpa [applyAll, apply] using hrest

end Desk

section effects

variable {p : Panel} {i : Input} {r : Panel.Reaction}

/-- No step changes the board more than once. -/
theorem Panel.Step.changes_length_le (h : Panel.Step p i r) : (changes r.effects).length ≤ 1 := by
  cases h with
  | @answered request id result awaited =>
    cases result with
    | ok s => exact Nat.le_refl 1
    | error f => cases hf : f.isCancelled <;> simp [answerEffects, hf, failureEffects, changes]
  | _ => simp [changes, selectedEffects, failureEffects]

/-- The board is changed before labels are sent. -/
theorem Panel.Step.effects_eq (h : Panel.Step p i r) :
    r.effects = (changes r.effects).map .change ++ (labels r.effects).map .label := by
  cases h with
  | @answered request id result awaited =>
    cases result with
    | ok s => rfl
    | error f =>
      cases hf : f.isCancelled <;> simp [answerEffects, hf, failureEffects, changes, labels]
  | _ => rfl

end effects

namespace Store

variable (sources : Sources) (s : Store)

/-- The store after an intent or an event. -/
def take : Input → Store
  | .intent i => s.intend sources i
  | .event e => s.handle e

/-- A new store after some arrivals. -/
def after (arrivals : List Arrival) : Store :=
  arrivals.foldl (fun s a => s.take sources a.input) {}

/-- Before anything arrives the store is new. -/
@[simp]
theorem after_nil : after sources [] = {} := rfl

/-- One more arrival is taken in by the store that the others left. -/
theorem after_concat (arrivals : List Arrival) (a : Arrival) :
    after sources (arrivals ++ [a]) = (after sources arrivals).take sources a.input := by
  simp [after]

/-- The panel of a store reacts to what it takes in. -/
theorem panel_take (i : Input) : (s.take sources i).panel = (s.panel.react i).panel := by
  cases i with
  | intent i => exact s.panel_intend sources i
  | event e => exact s.panel_handle e

/-- The desk of a store gets the effects of what is taken in. -/
theorem desk_take (i : Input) :
    (s.take sources i).desk = s.desk.applyAll (s.panel.react i).effects := by
  cases i <;> rfl

/-- The panel of a store is what all that has arrived makes of it. -/
theorem panel_after (arrivals : List Arrival) :
    (after sources arrivals).panel = Panel.run {} (arrivals.map Arrival.input) := by
  induction arrivals using List.reverseRecOn with
  | nil => rfl
  | append_singleton arrivals a ih =>
    rw [after_concat, panel_take, ih, List.map_append, List.map_singleton, Panel.run_concat]

/-- Between arrivals the board is the one that was published. -/
theorem published_after (arrivals : List Arrival) :
    (after sources arrivals).desk.published = (after sources arrivals).desk.board := by
  induction arrivals using List.reverseRecOn with
  | nil => rfl
  | append_singleton arrivals a ih =>
    rw [after_concat, desk_take]
    exact Desk.applyAll_published _ ih _

/-- The labels of an input are sent when the board that they speak of has been published. -/
theorem sent_take (i : Input) :
    (s.take sources i).desk.sent = s.desk.sent ++
      (labels (s.panel.react i).effects).map fun l => (l, (s.take sources i).desk.published) := by
  rw [desk_take, (Panel.react_step s.panel i).effects_eq, Desk.applyAll_append,
    Desk.applyAll_labels, ← (Panel.react_step s.panel i).effects_eq]
  simp [Desk.applyAll_changes_sent]

/-- Without a selection no session is waited for. -/
theorem selection_eq_none {arrivals : List Arrival}
    (unselected : ∀ id, .select id ∉ intentsOf arrivals) :
    (after sources arrivals).panel.executor.selection = none := by
  cases hσ : (after sources arrivals).panel.executor.selection with
  | none => rfl
  | some σ =>
    rw [panel_after] at hσ
    obtain ⟨before, between, heq, -⟩ := Panel.exists_starts rfl hσ
    have hmem : Input.intent (.select σ.id) ∈ arrivals.map Arrival.input := by simp [heq]
    obtain ⟨a, ha, hinput⟩ := List.mem_map.1 hmem
    cases a with
    | intent i =>
      obtain rfl := Input.intent.inj hinput
      have hselect : .select σ.id ∈ intentsOf arrivals := List.mem_filterMap.2 ⟨_, ha, rfl⟩
      exact absurd hselect (unselected σ.id)
    | _ => cases hinput

end Store

end ChatGateway.Board
