import Mathlib
import ChatGateway.Proofs.Board.Selection

/-!
# Selecting the same session again

While nothing but one session is selected, the gateway is asked for that session at most once.
Two states of the panel make another request needless: the session is waited for, or it is shown
and nothing is waited for (`Provided`).  Every input of such a stretch keeps one of the two, and
the only way from the first to the second is the answer to the fetch.  That a list which comes
meanwhile may name the session or drop it changes nothing, because the list is only looked at when
the session is neither shown nor waited for.
-/

set_option autoImplicit false

namespace ChatGateway.Board

/-- The number of the request if it is one for the session `id`. -/
def Fetch.requestFor (id : String) : Fetch → Option Nat
  | .list _ => none
  | .session request other => if other = id then some request else none

namespace Panel

/-- The requests for the session `id` that some inputs lead to, in order. -/
def requestsFor (id : String) (p : Panel) : List Input → List Nat
  | [] => []
  | i :: rest =>
    ((p.react i).fetch.bind (Fetch.requestFor id)).toList ++ (p.react i).panel.requestsFor id rest

/-- What counts as the answer for `id` among some inputs is a session of that name. -/
def AnswersName (p : Panel) (id : String) (inputs : List Input) : Prop :=
  ∀ earlier request given result later,
    inputs = earlier ++ .event (.answered request given result) :: later →
    (p.run earlier).executor.selection = some ⟨request, id⟩ → ∃ s, result = .ok s ∧ s.id = id

/-- The session `id` is shown and nothing is waited for. -/
structure Settled (p : Panel) (id : String) : Prop where
  shown : p.board.isSelected id = true
  idle : p.executor.selection = none

/-- The session `id` is waited for, or shown while nothing is waited for. -/
def Provided (p : Panel) (id : String) : Prop :=
  (∃ request, p.executor.selection = some ⟨request, id⟩) ∨ p.Settled id

variable {p : Panel} {id : String}

/-- Answers name the session exactly if the first input does, if it is an answer, and the others
do. -/
theorem answersName_cons {i : Input} {rest : List Input} :
    p.AnswersName id (i :: rest) ↔
      (∀ request given result, i = .event (.answered request given result) →
        p.executor.selection = some ⟨request, id⟩ → ∃ s, result = .ok s ∧ s.id = id) ∧
      (p.react i).panel.AnswersName id rest := by
  constructor
  · intro h
    refine ⟨?_, ?_⟩
    · rintro request given result rfl hwaits
      exact h [] request given result rest rfl hwaits
    · rintro earlier request given result later rfl hwaits
      exact h (i :: earlier) request given result later rfl hwaits
  · rintro ⟨hfirst, hrest⟩ earlier request given result later hsplit hwaits
    cases earlier with
    | nil =>
      obtain ⟨rfl, rfl⟩ := List.cons.inj hsplit
      exact hfirst request given result rfl hwaits
    | cons j earlier =>
      obtain ⟨rfl, rfl⟩ := List.cons.inj hsplit
      exact hrest earlier request given result later rfl hwaits

/-- A selection that leaves the one under way alone is one of the same session. -/
theorem eq_of_select {other : String} (calm : (Input.intent (.select other)).replaces id = false) :
    other = id := by
  simpa [Input.replaces] using calm

section step

variable {i : Input} {r : Reaction}

/-- What is shown stays, and nobody is asked for it. -/
theorem Settled.step (h : p.Settled id) (hstep : Step p i r) (calm : i.replaces id = false) :
    r.panel.Settled id ∧ r.panel.board.selected = p.board.selected ∧
      r.fetch.bind (Fetch.requestFor id) = none := by
  obtain ⟨hshown, hidle⟩ := h
  cases hstep with
  | shown => exact ⟨⟨hshown, rfl⟩, rfl, rfl⟩
  | underWay hidden underWay => simp [hidle] at underWay
  | known hidden =>
    obtain rfl := eq_of_select calm
    simp [hshown] at hidden
  | asked hidden =>
    obtain rfl := eq_of_select calm
    simp [hshown] at hidden
  | cleared => simp [Input.replaces] at calm
  | answered awaited => simp [Awaits, Executor.pending, hidle] at awaited
  | _ => exact ⟨⟨hshown, hidle⟩, rfl, rfl⟩

/-- What is selected again while it is shown is only announced. -/
theorem Settled.react_select (h : p.Settled id) :
    p.react (.intent (.select id)) =
      { panel := p, effects := [.label (.selectionCompleted id)] } := by
  obtain ⟨hshown, hidle⟩ := h
  have hstep := react_step p (.intent (.select id))
  generalize p.react (.intent (.select id)) = r at hstep
  cases hstep with
  | shown =>
    have hpanel : p.idle = p := by
      obtain ⟨board, selection, lastRequest⟩ := p
      simp only at hidle
      simp [Panel.idle, hidle]
    rw [hpanel, Executor.pending, hidle]
    rfl
  | underWay hidden => simp [hshown] at hidden
  | known hidden => simp [hshown] at hidden
  | asked hidden => simp [hshown] at hidden

/-- The answer for `id` is shown, and nothing is waited for then. -/
theorem settled_of_answered {request : Nat} (given : String) {s : Session}
    (waits : p.executor.selection = some ⟨request, id⟩) (name : s.id = id) :
    let q := (p.react (.event (.answered request given (.ok s)))).panel
    q.Settled id ∧ q.board.selected = some s := by
  have hstep := react_step p (.event (.answered request given (.ok s)))
  generalize p.react (.event (.answered request given (.ok s))) = r at hstep
  cases hstep with
  | answered => exact ⟨⟨by simp [answerEffects, apply, isSelected, name], rfl⟩, rfl⟩
  | late late => exact absurd ((awaits_iff p request).2 ⟨id, waits⟩) late

/-- Once a request is needless it stays so, and none is made. -/
theorem Provided.step (h : p.Provided id) (wf : p.WellFormed) (hstep : Step p i r)
    (calm : i.replaces id = false)
    (named : ∀ request given result, i = .event (.answered request given result) →
      p.executor.selection = some ⟨request, id⟩ → ∃ s, result = .ok s ∧ s.id = id) :
    r.panel.Provided id ∧ r.fetch.bind (Fetch.requestFor id) = none := by
  rcases h with ⟨request, hwaits⟩ | hsettled
  · have hhidden := wf.hidden _ hwaits
    cases hstep with
    | shown shown =>
      obtain rfl := eq_of_select calm
      simp [hhidden] at shown
    | underWay => exact ⟨.inl ⟨request, hwaits⟩, rfl⟩
    | known hidden other =>
      obtain rfl := eq_of_select calm
      simp [hwaits] at other
    | asked hidden other =>
      obtain rfl := eq_of_select calm
      simp [hwaits] at other
    | cleared => simp [Input.replaces] at calm
    | @answered request' given result awaited =>
      obtain rfl : request = request' := by simpa [Awaits, Executor.pending, hwaits] using awaited
      obtain ⟨s, rfl, hname⟩ := named request given result rfl hwaits
      refine ⟨.inr ⟨?_, rfl⟩, rfl⟩
      simp [answerEffects, apply, isSelected, hname]
    | _ => exact ⟨.inl ⟨request, hwaits⟩, rfl⟩
  · obtain ⟨hafter, -, hnone⟩ := hsettled.step hstep calm
    exact ⟨.inr hafter, hnone⟩

/-- After a request for `id` the session is waited for. -/
theorem Step.provided_of_request (hstep : Step p i r) {request : Nat}
    (asks : r.fetch.bind (Fetch.requestFor id) = some request) : r.panel.Provided id := by
  obtain ⟨fetch, hfetch, hrequest⟩ := Option.bind_eq_some_iff.1 asks
  cases fetch with
  | list force => cases hrequest
  | session n other =>
    by_cases hid : other = id
    · subst hid
      exact .inl ⟨n, (hstep.fetch_session hfetch).2.2⟩
    · simp [Fetch.requestFor, hid] at hrequest

end step

/-! ## A stretch of selections of one session -/

section stretch

variable {stretch : List Input}

/-- A session that is selected stays selected through a calm stretch. -/
theorem Settled.run (h : p.Settled id) (calm : ∀ i ∈ stretch, i.replaces id = false) :
    (p.run stretch).Settled id ∧ (p.run stretch).board.selected = p.board.selected := by
  induction stretch generalizing p with
  | nil => exact ⟨h, rfl⟩
  | cons i rest ih =>
    obtain ⟨hi, hrest⟩ := List.forall_mem_cons.1 calm
    obtain ⟨hafter, hsame, -⟩ := h.step (react_step p i) hi
    obtain ⟨hend, hselected⟩ := ih hafter hrest
    exact ⟨hend, hselected.trans hsame⟩

/-- A session that is provided for is not asked for again. -/
theorem Provided.requestsFor_eq_nil (h : p.Provided id) (wf : p.WellFormed)
    (calm : ∀ i ∈ stretch, i.replaces id = false) (named : p.AnswersName id stretch) :
    p.requestsFor id stretch = [] := by
  induction stretch generalizing p with
  | nil => rfl
  | cons i rest ih =>
    obtain ⟨hi, hrest⟩ := List.forall_mem_cons.1 calm
    obtain ⟨hnow, hlater⟩ := answersName_cons.1 named
    have hstep := react_step p i
    obtain ⟨hafter, hnone⟩ := h.step wf hstep hi hnow
    rw [requestsFor, hnone, ih hafter (wf.step hstep) hrest hlater]
    rfl

/-- Only the first selection that finds the session neither shown nor waited for nor in the list
asks for it. -/
theorem length_requestsFor_le (wf : p.WellFormed) (calm : ∀ i ∈ stretch, i.replaces id = false)
    (named : p.AnswersName id stretch) : (p.requestsFor id stretch).length ≤ 1 := by
  induction stretch generalizing p with
  | nil => simp [requestsFor]
  | cons i rest ih =>
    obtain ⟨-, hrest⟩ := List.forall_mem_cons.1 calm
    obtain ⟨-, hlater⟩ := answersName_cons.1 named
    have hstep := react_step p i
    rw [requestsFor]
    cases hasks : (p.react i).fetch.bind (Fetch.requestFor id) with
    | none => simpa using ih (wf.step hstep) hrest hlater
    | some request =>
      have hprovided := hstep.provided_of_request hasks
      rw [hprovided.requestsFor_eq_nil (wf.step hstep) hrest hlater]
      simp

end stretch

/-- Selecting the same session again.  After any inputs, in any stretch of inputs that select no
other session and clear nothing, and in which what counts as the answer for `id` is a session of
that name: the gateway is asked for `id` at most once; and from the moment the answer is handled,
at every point of the rest of the stretch, the answer is what the board shows as selected, and
selecting `id` changes nothing, asks for nothing, cancels nothing and only announces `id`. -/
theorem repeated_selection (b : Board) (inputs : List Input) (id : String) (stretch : List Input)
    (calm : ∀ i ∈ stretch, i.replaces id = false)
    (named : (run { board := b } inputs).AnswersName id stretch) :
    let p : Panel := run { board := b } inputs
    (p.requestsFor id stretch).length ≤ 1 ∧
    ∀ earlier request given s later,
      stretch = earlier ++ .event (.answered request given (.ok s)) :: later →
      (p.run earlier).executor.selection = some ⟨request, id⟩ →
      let q := ((p.run earlier).react (.event (.answered request given (.ok s)))).panel
      ∀ next rest, later = next ++ rest →
        (q.run next).board.selected = some s ∧
        (q.run next).react (.intent (.select id)) =
          { panel := q.run next, effects := [.label (.selectionCompleted id)] } := by
  intro p
  have wf : p.WellFormed := (wellFormed_of_idle rfl).run inputs
  refine ⟨length_requestsFor_le wf calm named, ?_⟩
  rintro earlier request given s later rfl hwaits q next rest rfl
  obtain ⟨s', hs, hname⟩ := named earlier request given (.ok s) (next ++ rest) rfl hwaits
  obtain rfl := Except.ok.inj hs
  obtain ⟨hsettled, hselected⟩ := settled_of_answered given hwaits hname
  have hcalm : ∀ i ∈ next, i.replaces id = false := by
    intro i hi
    exact calm i (by simp [hi])
  obtain ⟨hend, hsame⟩ := hsettled.run hcalm
  exact ⟨hsame.trans hselected, hend.react_select⟩

/-- A session is selected again and again, before and after a list has named it, while it is
fetched and when it is in no list any more; a late answer for another session comes in between. -/
def reselections : List Input :=
  [.intent .load, .intent (.select "s9"), .event (.listed (.ok [sessionNamed "s9"])),
    .intent (.select "s9"), .event (.answered 1 "s2" (.ok (sessionNamed "s2"))),
    .event (.answered 2 "s9" (.ok (sessionNamed "s9"))), .intent .refresh,
    .event (.listed (.ok [])), .intent (.select "s9")]

/-- The gateway is asked for the session once, and at the end selecting it only announces it. -/
theorem repeated_selection_reselections :
    let p : Panel := run {} [.intent (.select "s2")]
    (p.requestsFor "s9" reselections).length ≤ 1 ∧
    p.requestsFor "s9" reselections = [2] ∧
    (p.run reselections).board.selected = some (sessionNamed "s9") ∧
    ((p.run reselections).react (.intent (.select "s9"))).effects =
      [.label (.selectionCompleted "s9")] := by
  intro p
  have hcalm : ∀ i ∈ reselections, i.replaces "s9" = false := by decide
  have hnamed : p.AnswersName "s9" reselections := by
    unfold reselections
    simp only [answersName_cons]
    refine ⟨by simp, by simp, by simp, by simp, ?_, ?_, by simp, by simp, by simp, ?_⟩
    · rintro request given result ⟨⟩ hwaits
      exact absurd hwaits (by decide +kernel)
    · rintro request given result ⟨⟩ -
      exact ⟨_, rfl, rfl⟩
    · rintro earlier request given result later hsplit
      simp at hsplit
  obtain ⟨hone, hshown⟩ := repeated_selection {} [.intent (.select "s2")] "s9" reselections
    hcalm hnamed
  have hwaits : (p.run (reselections.take 5)).executor.selection = some ⟨2, "s9"⟩ := by
    decide +kernel
  have hend := hshown (reselections.take 5) 2 "s9" (sessionNamed "s9") (reselections.drop 6) rfl
    hwaits (reselections.drop 6) [] rfl
  exact ⟨hone, by decide +kernel, hend.1, congrArg Reaction.effects hend.2⟩

end Panel

end ChatGateway.Board
