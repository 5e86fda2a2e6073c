import Mathlib
import ChatGateway.Board.Fetcher

/-!
# A board and its executor

A panel is a board with the executor that works on it: intents see the board as it is, and
all effects are carried out on it.  Inputs reach a panel one at a time.  What an input leads
to is said once, by the rules of `Panel.Step`, and `react_step` is the only place where
`Executor.execute` and `Executor.handle` are opened.

From the rules come two equivalences about the session fetch that a selection waits for: it
goes on waiting unless the input replaces or answers it (`Step.selection_iff`), and its token
is cancelled when the input replaces it (`Step.cancelled_iff`).
-/

set_option autoImplicit false

namespace ChatGateway.Board

/-- What reaches a panel. -/
inductive Input
  | intent (i : Intent)
  | event (e : Event)

/-- Whether an input takes the place of a selection of `id`. -/
def Input.replaces (id : String) : Input → Bool
  | .intent .clearSelection => true
  | .intent (.select other) => other ≠ id
  | _ => false

/-- Whether an input is an answer to the session fetch `request`. -/
def Input.answers (request : Nat) : Input → Bool
  | .intent _ => false
  | .event e => Fetcher.answers request e

/-- The effects of an answer that counts. -/
def answerEffects (id : String) : Except Failure Session → List Effect
  | .ok s => selectedEffects s
  | .error f => if f.isCancelled then [] else failureEffects (sessionFailure id f)

/-- A board with its executor. -/
structure Panel where
  board : Board := {}
  executor : Executor := {}
deriving DecidableEq, Repr

namespace Panel

/-- What an input leads to. -/
structure Reaction where
  panel : Panel
  effects : List Effect := []
  fetch : Option Fetch := none
  cancelled : Option Nat := none
deriving DecidableEq, Repr

/-- What an input leads to on a panel. -/
def react (p : Panel) : Input → Reaction
  | .intent i =>
    let o := p.executor.execute p.board i
    ⟨⟨applyEffects p.board o.effects, o.executor⟩, o.effects, o.fetch, o.cancelled⟩
  | .event e =>
    let (effects, executor) := p.executor.handle e
    { panel := ⟨applyEffects p.board effects, executor⟩, effects := effects }

/-- The panel that waits for no session. -/
def idle (p : Panel) : Panel :=
  { p with executor := { p.executor with selection := none } }

/-- The panel after a change of its board. -/
def changed (p : Panel) (c : Change) : Panel :=
  { p with board := p.board.apply c }

/-- The panel that waits for the session `id` under the next number. -/
def ask (p : Panel) (id : String) : Panel :=
  let request := p.executor.lastRequest + 1
  { p with executor := ⟨some ⟨request, id⟩, request⟩ }

/-- Whether an answer to the session fetch `request` counts. -/
def Awaits (p : Panel) (request : Nat) : Prop :=
  p.executor.pending = some request

/-- A request is awaited exactly if it is the one of the selection under way. -/
theorem awaits_iff (p : Panel) (request : Nat) :
    p.Awaits request ↔ ∃ id, p.executor.selection = some ⟨request, id⟩ := by
  constructor
  · intro h
    obtain ⟨⟨r, id⟩, hσ, rfl⟩ := Option.map_eq_some_iff.1 h
    exact ⟨id, hσ⟩
  · rintro ⟨id, hσ⟩
    simp [Awaits, Executor.pending, hσ]

/-! ## What one input can do -/

/-- The rules of a panel: what an input leads to, case by case. -/
inductive Step (p : Panel) : Input → Reaction → Prop
  /-- The session is selected already. -/
  | shown {id : String} (shown : p.board.isSelected id = true) :
      Step p (.intent (.select id))
        { panel := p.idle
          effects := [.label (.selectionCompleted id)]
          cancelled := p.executor.pending }
  | underWay {id : String} (hidden : p.board.isSelected id = false)
      (underWay : p.executor.selection.map Selection.id = some id) :
      Step p (.intent (.select id)) { panel := p }
  /-- The session is in the list. -/
  | known {id : String} {s : Session} (hidden : p.board.isSelected id = false)
      (other : p.executor.selection.map Selection.id ≠ some id)
      (found : p.board.find? id = some s) :
      Step p (.intent (.select id))
        { panel := p.idle.changed (.selected s)
          effects := selectedEffects s
          cancelled := p.executor.pending }
  | asked {id : String} (hidden : p.board.isSelected id = false)
      (other : p.executor.selection.map Selection.id ≠ some id)
      (unknown : p.board.find? id = none) :
      Step p (.intent (.select id))
        { panel := p.ask id
          fetch := some (.session (p.executor.lastRequest + 1) id)
          cancelled := p.executor.pending }
  | cleared :
      Step p (.intent .clearSelection)
        { panel := p.idle.changed .selectionCleared
          effects := [.change .selectionCleared]
          cancelled := p.executor.pending }
  | load :
      Step p (.intent .load)
        { panel := p.changed .loadingStarted
          effects := [.change .loadingStarted]
          fetch := some (.list false) }
  | refresh :
      Step p (.intent .refresh)
        { panel := p.changed .loadingStarted
          effects := [.change .loadingStarted]
          fetch := some (.list true) }
  | errorsCleared :
      Step p (.intent .clearErrors)
        { panel := p.changed .errorsCleared
          effects := [.change .errorsCleared] }
  | listed {sessions : List Session} :
      Step p (.event (.listed (.ok sessions)))
        { panel := p.changed (.loaded sessions)
          effects := [.change (.loaded sessions)] }
  | notListed {f : Failure} (told : f.isCancelled = false) :
      Step p (.event (.listed (.error f)))
        { panel := p.changed (.loadFailed (listFailure f))
          effects := failureEffects (listFailure f) }
  | listCancelled {f : Failure} (silent : f.isCancelled = true) :
      Step p (.event (.listed (.error f))) { panel := p }
  /-- A list fetch is over and has brought nothing. -/
  | empty {lastOk : Bool} :
      Step p (.event (.finished false lastOk))
        { panel := p.changed (.loadFailed (listFailure .emptyResponse))
          effects := failureEffects (listFailure .emptyResponse) }
  | completed :
      Step p (.event (.finished true true))
        { panel := p
          effects := [.label .loadCompleted] }
  | ended : Step p (.event (.finished true false)) { panel := p }
  | answered {request : Nat} {id : String} {result : Except Failure Session}
      (awaited : p.Awaits request) :
      Step p (.event (.answered request id result))
        { panel := { p.idle with board := applyEffects p.board (answerEffects id result) }
          effects := answerEffects id result }
  /-- An answer that nobody waits for is dropped. -/
  | late {request : Nat} {id : String} {result : Except Failure Session}
      (late : ¬ p.Awaits request) :
      Step p (.event (.answered request id result)) { panel := p }

/-- No effects leave the board as it is. -/
@[simp]
theorem applyEffects_nil (b : Board) : applyEffects b [] = b := rfl

/-- A label leaves the board as it is. -/
@[simp]
theorem applyEffects_label (b : Board) (l : Label) : applyEffects b [.label l] = b := rfl

/-- Of the effects of a selection only the change counts for the board. -/
@[simp]
theorem applyEffects_selectedEffects (b : Board) (s : Session) :
    applyEffects b (selectedEffects s) = b.apply (.selected s) := rfl

/-- Of the effects of a failure only the change counts for the board. -/
@[simp]
theorem applyEffects_failureEffects (b : Board) (text : String) :
    applyEffects b (failureEffects text) = b.apply (.loadFailed text) := rfl

/-- Every input follows the rules. -/
theorem react_step (p : Panel) (i : Input) : Step p i (p.react i) := by
  match i with
  | .intent (.select id) =>
    cases hshown : p.board.isSelected id with
    | true => simpa [react, Executor.execute, Executor.select, hshown, idle] using Step.shown hshown
    | false =>
      by_cases hway : p.executor.selection.map Selection.id = some id
      · simpa [react, Executor.execute, Executor.select, hshown, hway] using
          Step.underWay hshown hway
      · cases hfound : p.board.find? id with
        | some s =>
          simpa [react, Executor.execute, Executor.select, hshown, hway, hfound, idle,
            changed] using Step.known hshown hway hfound
        | none =>
          simpa [react, Executor.execute, Executor.select, hshown, hway, hfound, ask] using
            Step.asked hshown hway hfound
  | .intent .clearSelection => exact .cleared
  | .intent .load => exact .load
  | .intent .refresh => exact .refresh
  | .intent .clearErrors => exact .errorsCleared
  | .event (.listed (.ok sessions)) => exact .listed
  | .event (.listed (.error f)) =>
    cases hf : f.isCancelled with
    | true => simpa [react, Executor.handle, hf] using Step.listCancelled (p := p) hf
    | false => simpa [react, Executor.handle, hf, changed] using Step.notListed (p := p) hf
  | .event (.finished false lastOk) => exact .empty
  | .event (.finished true true) => exact .completed
  | .event (.finished true false) => exact .ended
  | .event (.answered request id result) =>
    by_cases h : p.Awaits request
    · have hpending : p.executor.pending = some request := h
      have hreact : p.react (.event (.answered request id result)) =
          { panel := { p.idle with board := applyEffects p.board (answerEffects id result) }
            effects := answerEffects id result } := by
        cases result <;> simp [react, Executor.handle, hpending, idle, answerEffects]
      rw [hreact]
      exact .answered h
    · have hpending : p.executor.pending ≠ some request := h
      simpa [react, Executor.handle, hpending] using Step.late h

/-! ## The session that is waited for -/

/-- What holds of a panel after every run. -/
structure WellFormed (p : Panel) : Prop where
  request_le : ∀ σ, p.executor.selection = some σ → σ.request ≤ p.executor.lastRequest
  /-- A session that is waited for is not the selected one. -/
  hidden : ∀ σ, p.executor.selection = some σ → p.board.isSelected σ.id = false

/-- A panel that selects nothing is well formed. -/
theorem wellFormed_of_idle {p : Panel} (idle : p.executor.selection = none) : WellFormed p where
  request_le := by simp [idle]
  hidden := by simp [idle]

section step

variable {p : Panel} {i : Input} {r : Reaction}

/-- Every step keeps a panel well-formed. -/
theorem WellFormed.step (h : WellFormed p) (hstep : Step p i r) : WellFormed r.panel := by
  cases hstep with
  | shown => exact wellFormed_of_idle rfl
  | known => exact wellFormed_of_idle rfl
  | cleared => exact wellFormed_of_idle rfl
  | answered => exact wellFormed_of_idle rfl
  | @asked id hidden other unknown =>
    refine ⟨?_, ?_⟩
    · rintro σ hσ
      obtain rfl := Option.some.inj hσ
      exact Nat.le_refl _
    · rintro σ hσ
      obtain rfl := Option.some.inj hσ
      exact hidden
  | _ => exact ⟨h.request_le, h.hidden⟩

/-- The numbers of requests only grow. -/
theorem Step.lastRequest_le (hstep : Step p i r) :
    p.executor.lastRequest ≤ r.panel.executor.lastRequest := by
  cases hstep with
  | asked => exact Nat.le_succ _
  | _ => exact Nat.le_refl _

/-- A session is asked for by a selection of it, under a number that was not given out
before. -/
theorem Step.fetch_session (hstep : Step p i r) {request : Nat} {id : String}
    (asks : r.fetch = some (.session request id)) :
    i = .intent (.select id) ∧ request = p.executor.lastRequest + 1 ∧
      r.panel.executor.selection = some ⟨request, id⟩ := by
  cases hstep with
  | @asked id' =>
    obtain ⟨rfl, rfl⟩ : p.executor.lastRequest + 1 = request ∧ id' = id := by simpa using asks
    exact ⟨rfl, rfl, rfl⟩
  | load => simp at asks
  | refresh => simp at asks
  | _ => cases asks

/-- A selection of the session that is shown replaces the one under way. -/
theorem replaces_of_shown (h : WellFormed p) {id : String} (shown : p.board.isSelected id = true)
    {σ : Selection} (hσ : p.executor.selection = some σ) :
    (Input.intent (.select id)).replaces σ.id = true := by
  have hne : id ≠ σ.id := by
    rintro rfl
    simp [h.hidden σ hσ] at shown
  simp [Input.replaces, hne]

/-- A selection of another session replaces the one under way. -/
theorem replaces_of_other {id : String} (other : p.executor.selection.map Selection.id ≠ some id)
    {σ : Selection} (hσ : p.executor.selection = some σ) :
    (Input.intent (.select id)).replaces σ.id = true := by
  have hne : id ≠ σ.id := by
    rintro rfl
    simp [hσ] at other
  simp [Input.replaces, hne]

/-- If nothing is waited for after an input, then it replaces or answers what was waited for
before. -/
theorem selection_iff_of_gone {σ : Selection} (idle : r.panel.executor.selection = none)
    (nothing : r.fetch = none)
    (gone : p.executor.selection = some σ → i.replaces σ.id = true ∨ i.answers σ.request = true) :
    r.panel.executor.selection = some σ ↔
      (p.executor.selection = some σ ∧ i.replaces σ.id = false ∧ i.answers σ.request = false) ∨
        r.fetch = some (.session σ.request σ.id) := by
  rw [idle, nothing]
  constructor
  · intro hσ
    cases hσ
  · rintro (⟨hσ, hreplaces, hanswers⟩ | hnew)
    · rcases gone hσ with h | h
      · simp [hreplaces] at h
      · simp [hanswers] at h
    · cases hnew

/-- If what is waited for stays, then the input neither replaces nor answers it. -/
theorem selection_iff_of_kept {σ : Selection}
    (kept : r.panel.executor.selection = p.executor.selection)
    (nothing : ∀ request id, r.fetch ≠ some (.session request id))
    (stays : p.executor.selection = some σ → i.replaces σ.id = false ∧ i.answers σ.request = false) :
    r.panel.executor.selection = some σ ↔
      (p.executor.selection = some σ ∧ i.replaces σ.id = false ∧ i.answers σ.request = false) ∨
        r.fetch = some (.session σ.request σ.id) := by
  rw [kept]
  constructor
  · intro hσ
    exact .inl ⟨hσ, stays hσ⟩
  · rintro (⟨hσ, -⟩ | hnew)
    · exact hσ
    · exact absurd hnew (nothing _ _)

/-- A session goes on being waited for unless the input replaces its selection or answers
its fetch; besides, the input may start a fetch for it. -/
theorem Step.selection_iff (hstep : Step p i r) (h : WellFormed p) (σ : Selection) :
    r.panel.executor.selection = some σ ↔
      (p.executor.selection = some σ ∧ i.replaces σ.id = false ∧ i.answers σ.request = false) ∨
        r.fetch = some (.session σ.request σ.id) := by
  cases hstep with
  | shown shown =>
    exact selection_iff_of_gone rfl rfl fun hσ => .inl (replaces_of_shown h shown hσ)
  | @underWay id hidden underWay =>
    refine selection_iff_of_kept rfl (by simp) fun hσ => ⟨?_, rfl⟩
    have heq : σ.id = id := by simpa [hσ] using underWay
    simp [Input.replaces, heq]
  | known hidden other found =>
    exact selection_iff_of_gone rfl rfl fun hσ => .inl (replaces_of_other other hσ)
  | @asked id hidden other unknown =>
    constructor
    · intro hσ
      obtain rfl := Option.some.inj hσ
      exact .inr rfl
    · rintro (⟨hσ, hreplaces, -⟩ | hnew)
      · simp [replaces_of_other other hσ] at hreplaces
      · obtain ⟨hrequest, hid⟩ : p.executor.lastRequest + 1 = σ.request ∧ id = σ.id := by
          simpa using hnew
        exact congrArg some (congrArg₂ Selection.mk hrequest hid)
  | cleared => exact selection_iff_of_gone rfl rfl fun _ => .inl rfl
  | @answered request id result awaited =>
    refine selection_iff_of_gone rfl rfl fun hσ => .inr ?_
    have hrequest : σ.request = request := by simpa [Awaits, Executor.pending, hσ] using awaited
    simp [Input.answers, Fetcher.answers, hrequest]
  | @late request id result late =>
    refine selection_iff_of_kept rfl (by simp) fun hσ => ⟨rfl, ?_⟩
    have hne : request ≠ σ.request := by
      rintro rfl
      exact late ((p.awaits_iff _).2 ⟨σ.id, hσ⟩)
    simp [Input.answers, Fetcher.answers, hne]
  | _ => exact selection_iff_of_kept rfl (by simp) fun _ => ⟨rfl, rfl⟩

/-- The token of a fetch is cancelled by what replaces the selection that waits for it. -/
theorem Step.cancelled_iff (hstep : Step p i r) (h : WellFormed p) (request : Nat) :
    r.cancelled = some request ↔
      ∃ id, p.executor.selection = some ⟨request, id⟩ ∧ i.replaces id = true := by
  have hall : (∀ id, p.executor.selection = some ⟨request, id⟩ → i.replaces id = true) →
      (p.executor.pending = some request ↔
        ∃ id, p.executor.selection = some ⟨request, id⟩ ∧ i.replaces id = true) := by
    intro hreplaces
    rw [← Awaits, awaits_iff]
    exact exists_congr fun id => ⟨fun hσ => ⟨hσ, hreplaces id hσ⟩, And.left⟩
  cases hstep with
  | shown shown => exact hall fun id hσ => replaces_of_shown h shown hσ
  | known hidden other => exact hall fun id hσ => replaces_of_other other hσ
  | asked hidden other => exact hall fun id hσ => replaces_of_other other hσ
  | cleared => exact hall fun _ _ => rfl
  | @underWay id hidden underWay =>
    have heq : ∀ id', p.executor.selection = some ⟨request, id'⟩ → id = id' := by
      intro id' hσ
      simpa [hσ, eq_comm] using underWay
    simpa [Input.replaces] using heq
  | _ => simp [Input.replaces]

end step

end Panel

/-- A session of which only the name matters. -/
def sessionNamed (id : String) : Session :=
  ⟨id, id, .connected, ⟨0, 0⟩, ⟨0, 0⟩⟩

end ChatGateway.Board
