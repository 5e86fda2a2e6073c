import Mathlib
import ChatGateway.CommandLine.Sessions
import ChatGateway.Proofs.Board.Live

/-!
# Selections are answered

A selection that nothing replaces is answered by a label: at once if the session is selected
already or in the list, else when the answer of its fetch is handled.  That this happens is
a property of endless executions in which the sources of the fetches end and the channel is
read as long as there is something on it: the fetch that is waited for brings its answer,
and the answer moves to the front of the channel.

The label speaks of the session that the gateway returned, so it bears the name that was
asked for exactly if the returned session does.  Whoever waits for a label with the name
asked for, or for an error, waits for ever when the gateway returns a session of another
name.
-/

set_option autoImplicit false

namespace ChatGateway.Board.Live

open CommandLine (settles)

/-- An endless execution: at each point of time a step or a pause, with the intent that is
carried out. -/
structure Execution (answers : Answers) where
  state : ℕ → Live
  intent : ℕ → Option Intent
  start : ∃ b, state 0 = { panel := { board := b } }
  next : ∀ k, Step answers (state k) (intent k) (state (k + 1)) ∨
    (intent k = none ∧ state (k + 1) = state k)

namespace Execution

variable {answers : Answers} (ρ : Execution answers)

/-- The first event of the channel is `e`, and is handled. -/
def Handles (k : ℕ) (e : Event) : Prop :=
  ∃ rest, (ρ.state k).events = e :: rest ∧
    ρ.state (k + 1) = { ρ.state k with events := rest }.take (.event e)

/-- What is assumed of the surroundings of a selection of `id`. -/
structure Fair (id : String) : Prop where
  /-- The sources of the fetches for `id` give a result or end. -/
  fetched : ∀ k request, (request, id) ∈ (ρ.state k).fetches →
    ∃ m ≥ k, (request, id) ∉ (ρ.state m).fetches
  /-- The channel is read again and again as long as there is something on it. -/
  read : ∀ k, (ρ.state k).events ≠ [] → ∃ m ≥ k, ∃ e, ρ.Handles m e

/-- Since `k`, and up to `m`, the session `id` is waited for. -/
def Waits (id : String) (k m : ℕ) : Prop :=
  ∀ j, k < j → j ≤ m → (ρ.state j).panel.executor.selection.map Selection.id = some id

/-- As long as the session `id` is waited for since `k`, nothing replaces its selection. -/
def Unreplaced (id : String) (k : ℕ) : Prop :=
  ∀ m > k, ρ.Waits id k m → ∀ i, ρ.intent m = some i → (Input.intent i).replaces id = false

/-- After `k` there is a label that settles the wish to see the session `id`: it says that
this session is selected, or that something went wrong. -/
def Answered (id : String) (k : ℕ) : Prop :=
  ∃ m told, (ρ.state m).labels = (ρ.state k).labels ++ told ∧ ∃ l ∈ told, settles id l = true

/-- At every point of time the answer is pending for what is waited for. -/
theorem waiting (k : ℕ) : Waiting answers (ρ.state k) := by
  induction k with
  | zero =>
    obtain ⟨b, hb⟩ := ρ.start
    exact hb ▸ Waiting.start b
  | succ k ih =>
    rcases ρ.next k with hstep | ⟨-, hpause⟩
    · exact ih.step hstep
    · exact hpause ▸ ih

/-- Labels stay told. -/
theorem labels_grow {k m : ℕ} (h : k ≤ m) : (ρ.state k).labels <+: (ρ.state m).labels := by
  induction m, h using Nat.le_induction with
  | base => exact List.prefix_rfl
  | succ m _ ih =>
    refine ih.trans ?_
    rcases ρ.next m with hstep | ⟨-, hpause⟩
    · generalize ρ.intent m = i at hstep
      generalize ρ.state (m + 1) = l' at hstep
      cases hstep with
      | intent i => exact List.prefix_append _ _
      | handled first => exact List.prefix_append _ _
      | _ => exact List.prefix_rfl
    · rw [hpause]

/-! ## The channel -/

/-- The channel grows at its end unless its first event is handled. -/
theorem events_next (k : ℕ) :
    (∃ e, ρ.Handles k e) ∨ ∃ more, (ρ.state (k + 1)).events = (ρ.state k).events ++ more := by
  rcases ρ.next k with hstep | ⟨-, hpause⟩
  · generalize hl : ρ.state (k + 1) = l' at hstep
    generalize ρ.intent k = i at hstep
    cases hstep with
    | intent i => exact .inr ⟨[], by simp⟩
    | listed => exact .inr ⟨_, rfl⟩
    | brought => exact .inr ⟨_, rfl⟩
    | ended => exact .inr ⟨_, rfl⟩
    | stopped => exact .inr ⟨[], by simp⟩
    | @handled e rest first => exact .inl ⟨e, rest, first, hl⟩
  · exact .inr ⟨[], by simp [hpause]⟩

/-- The next time that an event is handled, the channel has only grown at its end. -/
theorem next_read (d k : ℕ) (h : ∃ e, ρ.Handles (k + d) e) :
    ∃ m ≥ k, (∃ e, ρ.Handles m e) ∧ ∃ more, (ρ.state m).events = (ρ.state k).events ++ more := by
  induction d generalizing k with
  | zero => exact ⟨k, le_rfl, h, [], by simp⟩
  | succ d ih =>
    rcases ρ.events_next k with hnow | ⟨more, hmore⟩
    · exact ⟨k, le_rfl, hnow, [], by simp⟩
    · obtain ⟨m, hm, hhandles, more', hmore'⟩ := ih (k + 1) (by rwa [Nat.add_right_comm])
      exact ⟨m, by omega, hhandles, more ++ more', by rw [hmore', hmore, List.append_assoc]⟩

/-- What is on the channel is handled some time. -/
theorem handled_eventually {id : String} (fair : ρ.Fair id) {before after : List Event} {e : Event}
    {k : ℕ} (h : (ρ.state k).events = before ++ e :: after) : ∃ m ≥ k, ρ.Handles m e := by
  -- each time that the channel is read, one of the events before `e` goes
  induction before generalizing k after with
  | nil =>
    obtain ⟨m, hm, hhandles⟩ := fair.read k (by simp [h])
    obtain ⟨d, rfl⟩ := Nat.exists_eq_add_of_le hm
    obtain ⟨m, hm, ⟨e', rest, hfirst, hnext⟩, more, hmore⟩ := ρ.next_read d k hhandles
    rw [hmore, h, List.nil_append, List.cons_append] at hfirst
    obtain ⟨rfl, rfl⟩ := List.cons.inj hfirst
    exact ⟨m, hm, _, by rw [hmore, h]; rfl, hnext⟩
  | cons a before ih =>
    obtain ⟨m, hm, hhandles⟩ := fair.read k (by simp [h])
    obtain ⟨d, rfl⟩ := Nat.exists_eq_add_of_le hm
    obtain ⟨m, hm, ⟨e', rest, hfirst, hnext⟩, more, hmore⟩ := ρ.next_read d k hhandles
    rw [hmore, h, List.cons_append, List.cons_append] at hfirst
    obtain ⟨rfl, rfl⟩ := List.cons.inj hfirst
    have hrest : (ρ.state (m + 1)).events = before ++ e :: (after ++ more) := by
      rw [hnext, take_events]
      simp
    obtain ⟨m', hm', hhandled⟩ := ih hrest
    exact ⟨m', by omega, hhandled⟩

/-! ## The fetch that is waited for -/

section fetch

variable {id : String} {k m : ℕ} {σ : Selection}

/-- A selection is answered at once, or its session is waited for. -/
theorem selected_next (h : ρ.intent k = some (.select id)) :
    ρ.Answered id k ∨ ∃ σ, (ρ.state (k + 1)).panel.executor.selection = some σ ∧ σ.id = id := by
  have hnext : ρ.state (k + 1) = (ρ.state k).take (.intent (.select id)) := by
    rcases ρ.next k with hstep | ⟨hnone, -⟩
    · rw [h] at hstep
      generalize ρ.state (k + 1) = l' at hstep ⊢
      cases hstep with
      | intent i => rfl
    · simp [h] at hnone
  have hlabels : (ρ.state (k + 1)).labels = (ρ.state k).labels ++
      Board.labels ((ρ.state k).panel.react (.intent (.select id))).effects := by
    rw [hnext, take_labels]
  have hstep := Panel.react_step (ρ.state k).panel (.intent (.select id))
  rw [hnext, take_panel]
  generalize (ρ.state k).panel.react (.intent (.select id)) = r at hstep hlabels
  cases hstep with
  | shown => exact .inl ⟨k + 1, _, hlabels, .selectionCompleted id, by simp [Board.labels, settles]⟩
  | underWay hidden underWay =>
    obtain ⟨σ, hσ, hid⟩ := Option.map_eq_some_iff.1 underWay
    exact .inr ⟨σ, hσ, hid⟩
  | @known _ s hidden other found =>
    have hid : s.id = id := by simpa using List.find?_some found
    refine .inl ⟨k + 1, _, hlabels, .selectionCompleted s.id, ?_⟩
    simp [selectedEffects, Board.labels, settles, hid]
  | asked => exact .inr ⟨_, rfl, rfl⟩

/-- A session goes on being waited for until the answer of its fetch is handled, unless an
intent replaces its selection. -/
theorem waits_next (hσ : (ρ.state m).panel.executor.selection = some σ)
    (unreplaced : ∀ i, ρ.intent m = some i → (Input.intent i).replaces σ.id = false) :
    (ρ.state (m + 1)).panel.executor.selection = some σ ∨
      ∃ result, ρ.Handles m (.answered σ.request σ.id result) := by
  have hwaiting := ρ.waiting m
  rcases ρ.next m with hstep | ⟨-, hpause⟩
  · generalize hl : ρ.state (m + 1) = l' at hstep
    generalize hi : ρ.intent m = i at hstep
    cases hstep with
    | intent i =>
      have hselection := (Panel.react_step (ρ.state m).panel (.intent i)).selection_iff
        hwaiting.wellFormed σ
      exact .inl (hselection.2 (.inl ⟨hσ, unreplaced i hi, rfl⟩))
    | @handled e rest first =>
      cases hanswers : Fetcher.answers σ.request e with
      | false =>
        have hselection := (Panel.react_step (ρ.state m).panel (.event e)).selection_iff
          hwaiting.wellFormed σ
        exact .inl (hselection.2 (.inl ⟨hσ, rfl, hanswers⟩))
      | true =>
        obtain ⟨id', result, rfl⟩ := Event.eq_answered hanswers
        have hmem : .answered σ.request id' result ∈ (ρ.state m).events :=
          first ▸ List.mem_cons_self
        -- the answer is for the session that is waited for, by its number
        obtain rfl : id' = σ.id := hwaiting.agree σ hσ id' (.inr ⟨result, hmem⟩)
        exact .inr ⟨result, rest, first, hl⟩
    | _ => exact .inl hσ
  · exact .inl (hpause ▸ hσ)

/-- The answer of a fetch is handled while its session is waited for, if nothing replaces
the selection. -/
theorem answer_handled (fair : ρ.Fair σ.id) (unreplaced : ρ.Unreplaced σ.id k)
    (hσ : (ρ.state (k + 1)).panel.executor.selection = some σ) :
    ∃ m > k, (ρ.state m).panel.executor.selection = some σ ∧
      ∃ result, ρ.Handles m (.answered σ.request σ.id result) := by
  by_contra hnever
  -- otherwise the session is waited for at all times
  have hall : ∀ m > k, (∀ j, k < j → j ≤ m →
      (ρ.state j).panel.executor.selection = some σ) := by
    intro m hm
    induction m, hm using Nat.le_induction with
    | base =>
      intro j hj hjm
      obtain rfl : j = k + 1 := by omega
      exact hσ
    | succ m hm ih =>
      intro j hj hjm
      rcases Nat.le_succ_iff.1 hjm with hjm | rfl
      · exact ih j hj hjm
      · have hnow := ih m hm le_rfl
        have hwaits : ρ.Waits σ.id k m := fun j hj hjm => by rw [ih j hj hjm]; rfl
        rcases ρ.waits_next hnow (unreplaced m hm hwaits) with hnext | hhandles
        · exact hnext
        · exact absurd ⟨m, hm, hnow, hhandles⟩ hnever
  have hevent : ∃ m > k, ∃ result, .answered σ.request σ.id result ∈ (ρ.state m).events := by
    rcases (ρ.waiting (k + 1)).pending σ hσ with ⟨hrunning, -⟩ | ⟨result, he⟩
    · obtain ⟨m, hm, hover⟩ := fair.fetched (k + 1) σ.request hrunning
      rcases (ρ.waiting m).pending σ (hall m hm m hm le_rfl) with ⟨hrunning', -⟩ | ⟨result, he⟩
      · exact absurd hrunning' hover
      · exact ⟨m, hm, result, he⟩
    · exact ⟨k + 1, Nat.lt_succ_self k, result, he⟩
  obtain ⟨m, hm, result, he⟩ := hevent
  obtain ⟨before, after, hevents⟩ := List.append_of_mem he
  obtain ⟨m', hm', hhandles⟩ := ρ.handled_eventually fair hevents
  have hmk : k < m' := Nat.lt_of_lt_of_le hm hm'
  exact hnever ⟨m', hmk, hall m' hmk m' hmk le_rfl, result, hhandles⟩

/-- Handling the answer of the fetch that is waited for tells the labels of its result. -/
theorem labels_of_handles {result : Except Failure Session}
    (hσ : (ρ.state m).panel.executor.selection = some σ)
    (handles : ρ.Handles m (.answered σ.request σ.id result)) :
    (ρ.state (m + 1)).labels =
      (ρ.state m).labels ++ Board.labels (answerEffects σ.id result) := by
  obtain ⟨rest, -, hnext⟩ := handles
  have hawaits : (ρ.state m).panel.Awaits σ.request := (Panel.awaits_iff _ _).2 ⟨σ.id, hσ⟩
  have heffects := ((Panel.react_answered (ρ.state m).panel σ.request σ.id result).1 hawaits).1
  rw [hnext, take_labels, heffects]

end fetch

end Execution

/-- A selection that nothing replaces is told to observers by a label, whatever the gateway
returns: the label of the session that it returned, or of the session asked for, or of an
error. -/
theorem Execution.label_told {answers : Answers} (ρ : Execution answers) {id : String}
    (uncancelled : ∀ f, answers id (.error f) → f.isCancelled = false) (fair : ρ.Fair id) {k : ℕ}
    (selects : ρ.intent k = some (.select id)) (unreplaced : ρ.Unreplaced id k) :
    ρ.Answered id k ∨ ∃ s, answers id (.ok s) ∧
      ∃ m told, (ρ.state m).labels = (ρ.state k).labels ++ told ∧
        .selectionCompleted s.id ∈ told := by
  rcases ρ.selected_next selects with hanswered | ⟨σ, hσ, rfl⟩
  · exact .inl hanswered
  · obtain ⟨m, hm, hnow, result, hhandles⟩ := ρ.answer_handled fair unreplaced hσ
    obtain ⟨told, htold⟩ := ρ.labels_grow (Nat.le_of_lt hm)
    have hlabels := ρ.labels_of_handles hnow hhandles
    rw [← htold, List.append_assoc] at hlabels
    have hgiven : answers σ.id result ∨ result = .error .emptyResponse := by
      obtain ⟨rest, hfirst, -⟩ := hhandles
      exact (ρ.waiting m).given _ _ _ (hfirst ▸ List.mem_cons_self)
    cases result with
    | ok s =>
      have hs : answers σ.id (.ok s) := by simpa using hgiven
      refine .inr ⟨s, hs, m + 1, _, hlabels, ?_⟩
      simp [answerEffects, selectedEffects, Board.labels]
    | error f =>
      have hf : f.isCancelled = false := by
        rcases hgiven with hgiven | hempty
        · exact uncancelled f hgiven
        · obtain rfl := Except.error.inj hempty
          rfl
      refine .inl ⟨m + 1, _, hlabels, .errorOccurred (sessionFailure σ.id f), ?_⟩
      simp [answerEffects, hf, failureEffects, Board.labels, settles]

/-! ## Gateways that answer for another session -/

section otherSession

variable {answers : Answers} {id : String} {s : Session}

/-- A selection of `id` that the gateway answers with the session `s`, and nothing else. -/
def oneSelection (id : String) (s : Session) : ℕ → Live
  | 0 => {}
  | 1 => { panel := ⟨{}, ⟨some ⟨1, id⟩, 1⟩⟩, fetches := [(1, id)] }
  | 2 => { panel := ⟨{}, ⟨some ⟨1, id⟩, 1⟩⟩, events := [.answered 1 id (.ok s)] }
  | _ => { panel := ⟨{ selected := some s }, ⟨none, 1⟩⟩, labels := [.selectionCompleted s.id] }

/-- The selection is asked for. -/
theorem oneSelection_asked :
    (oneSelection id s 0).take (.intent (.select id)) = oneSelection id s 1 := rfl

/-- The answer to the selection comes. -/
theorem oneSelection_brought :
    ((oneSelection id s 1).stop 1).push (.answered 1 id (.ok s)) = oneSelection id s 2 := by
  simp [oneSelection, stop, push]

/-- The answer to the selection is handled. -/
theorem oneSelection_handled :
    { oneSelection id s 2 with events := [] }.take (.event (.answered 1 id (.ok s))) =
      oneSelection id s 3 := rfl

/-- The execution in which nothing happens but that selection. -/
def Execution.ofSession (given : answers id (.ok s)) : Execution answers where
  state := oneSelection id s
  intent k := if k = 0 then some (.select id) else none
  start := ⟨{}, rfl⟩
  next k := by
    match k with
    | 0 => exact .inl (oneSelection_asked ▸ .intent (.select id))
    | 1 => exact .inl (oneSelection_brought ▸ .brought (List.mem_singleton.2 rfl) given)
    | 2 => exact .inl (oneSelection_handled ▸ .handled rfl)
    | k + 3 => exact .inr ⟨rfl, rfl⟩

/-- The execution neglects neither an event nor a fetch. -/
theorem Execution.ofSession_fair (given : answers id (.ok s)) :
    (Execution.ofSession given).Fair id where
  fetched k request hrunning := by
    refine ⟨k + 2, Nat.le_add_right k 2, ?_⟩
    match k with
    | 0 | k + 1 => exact List.not_mem_nil
  read k hevents := by
    match k with
    | 0 | 1 | k + 3 => exact absurd rfl hevents
    | 2 => exact ⟨2, le_rfl, _, [], rfl, oneSelection_handled.symm⟩

/-- The only label that is ever told bears the name of the session that was returned. -/
theorem Execution.ofSession_labels (given : answers id (.ok s)) (m : ℕ) {l : Label}
    (told : l ∈ ((Execution.ofSession given).state m).labels) : l = .selectionCompleted s.id := by
  match m with
  | 0 | 1 | 2 => exact absurd told List.not_mem_nil
  | m + 3 => exact List.mem_singleton.1 told

end otherSession

/-- The gateway has every selection of `id` answered that nothing replaces, in any execution
in which the source of its fetch ends and the channel is read. -/
def AnswersSelections (answers : Answers) (id : String) : Prop :=
  ∀ ρ : Execution answers, ρ.Fair id → ∀ k, ρ.intent k = some (.select id) →
    ρ.Unreplaced id k → ρ.Answered id k

/-- Selections are answered exactly if the gateway returns, for the name that was asked for,
sessions of that name only. -/
theorem answersSelections_iff (answers : Answers) (id : String)
    (uncancelled : ∀ f, answers id (.error f) → f.isCancelled = false) :
    AnswersSelections answers id ↔ ∀ s, answers id (.ok s) → s.id = id := by
  constructor
  · intro hall s given
    have unreplaced : (Execution.ofSession given).Unreplaced id 0 := by
      intro m hm _ i hi
      have hnone : (Execution.ofSession given).intent m = none := if_neg (Nat.ne_of_gt hm)
      simp [hnone] at hi
    obtain ⟨m, told, htold, l, hl, hsettles⟩ :=
      hall (Execution.ofSession given) (Execution.ofSession_fair given) 0 rfl unreplaced
    obtain rfl := Execution.ofSession_labels given m (htold ▸ List.mem_append_right _ hl)
    simpa [settles] using hsettles
  · intro honest ρ fair k selects unreplaced
    rcases ρ.label_told uncancelled fair selects unreplaced with
      hanswered | ⟨s, given, m, told, htold, hmem⟩
    · exact hanswered
    · exact ⟨m, told, htold, _, hmem, by simp [settles, honest s given]⟩

/-- A gateway that returns the session "s2" whatever it is asked for. -/
def onlyS2 : Answers := fun _ result => result = .ok (sessionNamed "s2")

/-- The gateway `onlyS2` answers selections of "s2", and leaves some of "s1" unanswered. -/
theorem answersSelections_iff_onlyS2 :
    AnswersSelections onlyS2 "s2" ∧ ¬ AnswersSelections onlyS2 "s1" := by
  have uncancelled : ∀ id f, onlyS2 id (.error f) → f.isCancelled = false := by simp [onlyS2]
  constructor
  · refine (answersSelections_iff onlyS2 "s2" (uncancelled "s2")).2 fun s given => ?_
    obtain rfl := Except.ok.inj given
    rfl
  · intro hall
    have hs := (answersSelections_iff onlyS2 "s1" (uncancelled "s1")).1 hall _ rfl
    simp [sessionNamed] at hs

/-- Sources with an empty list, and with the session "s2" for whatever name. -/
def onlyS2Sources : Sources where
  lists _ := Feed.atOnce [.ok []]
  sessions _ := Feed.atOnce [.ok (sessionNamed "s2")]

/-- A store in which nothing is to come is left as it is by waiting. -/
theorem wait_idle {s : Store} (idle : s.bench.fetcher.agenda = []) (time : Nat) :
    (s.wait time).desk = s.desk ∧ (s.wait time).bench.fetcher.agenda = [] := by
  simp [Store.wait, Fetcher.wait, Agenda.take, idle]

/-- A store whose gateway returns another session than the one asked for tells that the
other session is selected, and however long one waits then, nothing that settles the
selection. -/
theorem selection_of_s1_unanswered :
    let s := (Store.start onlyS2Sources).dispatch onlyS2Sources [.select "s1"]
    s.desk.sent.map Prod.fst = [.loadCompleted, .selectionCompleted "s2"] ∧
    ∀ times : List Nat,
      ∀ l ∈ (times.foldl Store.wait s).desk.sent.map Prod.fst, settles "s1" l = false := by
  intro s
  have hsent : s.desk.sent.map Prod.fst = [.loadCompleted, .selectionCompleted "s2"] := by
    decide +kernel
  have hwait : ∀ times : List Nat, (times.foldl Store.wait s).desk = s.desk ∧
      (times.foldl Store.wait s).bench.fetcher.agenda = [] := by
    intro times
    induction times using List.reverseRecOn with
    | nil => exact ⟨rfl, by decide +kernel⟩
    | append_singleton times time ih =>
      rw [List.foldl_concat]
      exact ⟨(wait_idle ih.2 time).1.trans ih.1, (wait_idle ih.2 time).2⟩
  refine ⟨hsent, fun times l hl => ?_⟩
  rw [(hwait times).1, hsent] at hl
  simp only [List.mem_cons, List.not_mem_nil, or_false] at hl
  rcases hl with rfl | rfl <;> decide

end ChatGateway.Board.Live
