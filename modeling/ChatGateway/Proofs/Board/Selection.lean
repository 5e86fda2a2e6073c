import Mathlib
import ChatGateway.Proofs.Board.Panel
import ChatGateway.Proofs.History

/-!
# The latest selection wins

Inputs reach a panel in any order, answers to session fetches late, out of order or more
than once.  An answer counts exactly as long as nothing has replaced the selection that its
fetch was started for and no answer to the fetch has been handled before.  So the board
shows what was decided last: by clearing the selection, by a selection from the list, or by
an answer with a session that counted.

The two facts about a whole run, `run_selection` and `mem_cancelledIn_iff`, follow one fetch
from its start: from there on it is waited for until the first input that replaces or
answers it, and a replacing input cancels its token if it comes first.
-/

set_option autoImplicit false

namespace ChatGateway.Board.Panel

/-- The panel after some inputs. -/
def run (p : Panel) (inputs : List Input) : Panel :=
  inputs.foldl (fun p i => (p.react i).panel) p

/-- The session fetches whose tokens some inputs cancel, in order. -/
def cancelledIn (p : Panel) : List Input → List Nat
  | [] => []
  | i :: rest => (p.react i).cancelled.toList ++ (p.react i).panel.cancelledIn rest

/-- What an input decides about the selected session, if it decides anything: clearing it,
taking it from the list, or taking it from an answer that counts. -/
def decides (p : Panel) : Input → Option (Option Session)
  | .intent .clearSelection => some none
  | .intent (.select id) =>
    if p.board.isSelected id = true ∨ p.executor.selection.map Selection.id = some id then none
    else (p.board.find? id).map some
  | .event (.answered request _ (.ok s)) =>
    if p.executor.pending = some request then some (some s) else none
  | _ => none

/-- What some inputs decide about the selected session, in order. -/
def decisions (p : Panel) : List Input → List (Option Session)
  | [] => []
  | i :: rest => (p.decides i).toList ++ (p.react i).panel.decisions rest

/-- After the inputs `before`, selecting `id` starts the session fetch `request`. -/
def Starts (p : Panel) (before : List Input) (request : Nat) (id : String) : Prop :=
  ((p.run before).react (.intent (.select id))).fetch = some (.session request id)

section runs

variable (p : Panel)

/-- Without inputs nothing happens. -/
@[simp]
theorem run_nil : p.run [] = p := rfl

/-- A run starts with its first input. -/
@[simp]
theorem run_cons (i : Input) (rest : List Input) : p.run (i :: rest) = (p.react i).panel.run rest :=
  rfl

/-- A run ends with its last input. -/
theorem run_concat (inputs : List Input) (i : Input) :
    p.run (inputs ++ [i]) = ((p.run inputs).react i).panel := by
  simp [run]

/-- The last input cancels last. -/
theorem cancelledIn_concat (inputs : List Input) (i : Input) :
    p.cancelledIn (inputs ++ [i]) =
      p.cancelledIn inputs ++ ((p.run inputs).react i).cancelled.toList := by
  induction inputs generalizing p with
  | nil => simp [cancelledIn]
  | cons j rest ih => simp [cancelledIn, ih]

/-- The last input decides last. -/
theorem decisions_concat (inputs : List Input) (i : Input) :
    p.decisions (inputs ++ [i]) = p.decisions inputs ++ ((p.run inputs).decides i).toList := by
  induction inputs generalizing p with
  | nil => simp [decisions]
  | cons j rest ih => simp [decisions, ih]

end runs

variable {p : Panel}

/-- Every run keeps a panel well-formed. -/
theorem WellFormed.run (h : WellFormed p) (inputs : List Input) : WellFormed (p.run inputs) := by
  induction inputs generalizing p with
  | nil => exact h
  | cons i rest ih => exact ih (h.step (react_step p i))

/-- In a run the numbers of requests only grow. -/
theorem lastRequest_le_run (p : Panel) (inputs : List Input) :
    p.executor.lastRequest ≤ (p.run inputs).executor.lastRequest := by
  induction inputs generalizing p with
  | nil => exact Nat.le_refl _
  | cons i rest ih => exact Nat.le_trans (react_step p i).lastRequest_le (ih _)

/-! ## Following one fetch -/

section waiting

variable {σ : Selection}

/-- From a panel that waits for `σ`, the fetch of `σ` is waited for, and for the same
session, as long as no input replaces or answers it. -/
theorem run_selection (h : WellFormed p) (waiting : p.executor.selection = some σ)
    (inputs : List Input) (τ : Selection) :
    ((p.run inputs).executor.selection = some τ ∧ τ.request = σ.request) ↔
      τ = σ ∧ ∀ i ∈ inputs, i.replaces σ.id = false ∧ i.answers σ.request = false := by
  -- from the end of the run; a fetch that is started there has another number
  induction inputs using List.reverseRecOn with
  | nil =>
    rw [run_nil, waiting]
    constructor
    · rintro ⟨hτ, -⟩
      exact ⟨(Option.some.inj hτ).symm, by simp⟩
    · rintro ⟨rfl, -⟩
      exact ⟨rfl, rfl⟩
  | append_singleton inputs i ih =>
    have hstep := react_step (p.run inputs) i
    have hold : σ.request ≤ (p.run inputs).executor.lastRequest :=
      Nat.le_trans (h.request_le σ waiting) (lastRequest_le_run p inputs)
    have hnew : ((p.run inputs).react i).fetch = some (.session τ.request τ.id) →
        τ.request ≠ σ.request := by
      intro hfetch
      have := (hstep.fetch_session hfetch).2.1
      omega
    rw [run_concat, hstep.selection_iff (h.run inputs)]
    simp only [List.mem_append, List.mem_singleton, or_imp, forall_and, forall_eq] at ih ⊢
    constructor
    · rintro ⟨⟨hτ, hreplaces, hanswers⟩ | hfetch, hrequest⟩
      · obtain ⟨rfl, hcalm⟩ := ih.1 ⟨hτ, hrequest⟩
        exact ⟨rfl, ⟨hcalm.1, hreplaces⟩, hcalm.2, hanswers⟩
      · exact absurd hrequest (hnew hfetch)
    · rintro ⟨rfl, ⟨hreplaces, hreplace⟩, hanswers, hanswer⟩
      have hτ := (ih.2 ⟨rfl, hreplaces, hanswers⟩).1
      exact ⟨.inl ⟨hτ, hreplace, hanswer⟩, rfl⟩

/-- An answer to the fetch of `σ` counts as long as no input has replaced or answered it. -/
theorem awaits_run_iff (h : WellFormed p) (waiting : p.executor.selection = some σ)
    (inputs : List Input) :
    (p.run inputs).Awaits σ.request ↔
      ∀ i ∈ inputs, i.replaces σ.id = false ∧ i.answers σ.request = false := by
  rw [awaits_iff]
  constructor
  · rintro ⟨id, hτ⟩
    exact ((run_selection h waiting inputs _).1 ⟨hτ, rfl⟩).2
  · intro hcalm
    exact ⟨σ.id, ((run_selection h waiting inputs σ).2 ⟨rfl, hcalm⟩).1⟩

/-- The token of the fetch of `σ` is cancelled by the first input that replaces the
selection, if no answer has come before. -/
theorem mem_cancelledIn_iff (h : WellFormed p) (waiting : p.executor.selection = some σ)
    (inputs : List Input) :
    σ.request ∈ p.cancelledIn inputs ↔
      Once (fun earlier i => i.replaces σ.id = true ∧ ∀ j ∈ earlier, j.answers σ.request = false)
        inputs := by
  induction inputs using List.reverseRecOn with
  | nil => simp [cancelledIn, not_once_nil]
  | append_singleton inputs i ih =>
    have hcancelled := (react_step (p.run inputs) i).cancelled_iff (h.run inputs) σ.request
    rw [cancelledIn_concat, once_concat, List.mem_append, Option.mem_toList, hcancelled, ih]
    constructor
    · rintro (honce | ⟨id, hτ, hreplaces⟩)
      · exact .inl honce
      · obtain ⟨hσ, hcalm⟩ := (run_selection h waiting inputs _).1 ⟨hτ, rfl⟩
        obtain rfl : id = σ.id := congrArg Selection.id hσ
        exact .inr ⟨hreplaces, fun j hj => (hcalm j hj).2⟩
    · rintro (honce | ⟨hreplaces, hanswers⟩)
      · exact .inl honce
      · by_cases hcalm : ∀ j ∈ inputs, j.replaces σ.id = false
        · have hτ := ((run_selection h waiting inputs σ).2
            ⟨rfl, fun j hj => ⟨hcalm j hj, hanswers j hj⟩⟩).1
          exact .inr ⟨σ.id, hτ, hreplaces⟩
        · -- an input before this one has replaced the selection already
          obtain ⟨j, hj, hjreplaces⟩ : ∃ j ∈ inputs, j.replaces σ.id = true := by
            simpa using hcalm
          obtain ⟨before, after, rfl⟩ := List.append_of_mem hj
          refine .inl ⟨before, j, after, rfl, hjreplaces, fun k hk => ?_⟩
          exact hanswers k (List.mem_append_left _ hk)

end waiting

/-- What is waited for has been asked for. -/
theorem exists_starts (idle : p.executor.selection = none) {inputs : List Input} {σ : Selection}
    (h : (p.run inputs).executor.selection = some σ) :
    ∃ before between, inputs = before ++ .intent (.select σ.id) :: between ∧
      p.Starts before σ.request σ.id := by
  induction inputs using List.reverseRecOn with
  | nil => simp [idle] at h
  | append_singleton inputs i ih =>
    have hstep := react_step (p.run inputs) i
    rw [run_concat, hstep.selection_iff ((wellFormed_of_idle idle).run inputs)] at h
    rcases h with ⟨hσ, -⟩ | hfetch
    · obtain ⟨before, between, rfl, hstarts⟩ := ih hσ
      exact ⟨before, between ++ [i], by simp, hstarts⟩
    · obtain ⟨rfl, -⟩ := hstep.fetch_session hfetch
      exact ⟨inputs, [], rfl, hfetch⟩

/-- An answer that is waited for has its effects and is waited for no longer; any other is
dropped. -/
theorem react_answered (q : Panel) (request : Nat) (id : String) (result : Except Failure Session) :
    let r := q.react (.event (.answered request id result))
    (q.Awaits request →
      r.effects = answerEffects id result ∧ r.panel.executor.selection = none) ∧
    (¬ q.Awaits request → r.effects = [] ∧ r.panel = q) := by
  have hstep := react_step q (.event (.answered request id result))
  generalize q.react (.event (.answered request id result)) = r at hstep
  cases hstep with
  | answered awaited => exact ⟨fun _ => ⟨rfl, rfl⟩, fun late => absurd awaited late⟩
  | late late => exact ⟨fun awaited => absurd awaited late, fun _ => ⟨rfl, rfl⟩⟩

/-! ## What the board shows as selected -/

/-- An input changes the selected session exactly by what it decides. -/
theorem Step.selected {i : Input} {r : Reaction} (hstep : Step p i r) :
    r.panel.board.selected = (p.decides i).getD p.board.selected := by
  cases hstep with
  | shown shown => simp [decides, shown, idle]
  | underWay hidden underWay => simp [decides, hidden, underWay]
  | known hidden other found => simp [decides, hidden, other, found, changed, apply]
  | asked hidden other unknown => simp [decides, hidden, other, unknown, ask]
  | @answered request id result awaited =>
    have hpending : p.executor.pending = some request := awaited
    cases result with
    | ok s => simp [decides, hpending, answerEffects, apply]
    | error f =>
      cases hf : f.isCancelled <;> simp [decides, answerEffects, hf, apply]
  | @late request id result late =>
    have hpending : p.executor.pending ≠ some request := late
    cases result <;> simp [decides, hpending]
  | _ => rfl

/-- The board shows what was decided last. -/
theorem selected_run (p : Panel) (inputs : List Input) :
    (p.run inputs).board.selected = (p.decisions inputs).getLast?.getD p.board.selected := by
  induction inputs using List.reverseRecOn with
  | nil => rfl
  | append_singleton inputs i ih =>
    rw [run_concat, (react_step _ i).selected, decisions_concat, ih]
    cases (p.run inputs).decides i <;> simp

/-- The latest selection wins.  On a board whose executor starts afresh, for any inputs: an
answer to the fetch that a selection of `id` has started counts exactly if since then no
input has cleared the selection or selected another session, and no answer to the fetch has
come; the token of the fetch is cancelled exactly if such an input came before an answer; no
other answer counts.  An answer that counts has its effects and is waited for no longer; any
other has no effects at all.  The board shows what was decided last, and a failed fetch
leaves the selected session as it was. -/
theorem latest_selection (b : Board) :
    let p : Panel := { board := b }
    (∀ before request id, p.Starts before request id →
      let q := p.run (before ++ [.intent (.select id)])
      ∀ between,
        ((q.run between).Awaits request ↔
          ∀ i ∈ between, i.replaces id = false ∧ i.answers request = false) ∧
        (request ∈ q.cancelledIn between ↔
          Once (fun earlier i => i.replaces id = true ∧ ∀ j ∈ earlier, j.answers request = false)
            between)) ∧
    (∀ inputs request, (p.run inputs).Awaits request →
      ∃ before id between, inputs = before ++ .intent (.select id) :: between ∧
        p.Starts before request id) ∧
    (∀ inputs request id result,
      let q := p.run inputs
      let r := q.react (.event (.answered request id result))
      (q.Awaits request →
        r.effects = answerEffects id result ∧ r.panel.executor.selection = none) ∧
      (¬ q.Awaits request → r.effects = [] ∧ r.panel = q)) ∧
    (∀ inputs,
      (p.run inputs).board.selected = (p.decisions inputs).getLast?.getD b.selected) ∧
    (∀ inputs request id f,
      ((p.run inputs).react (.event (.answered request id (.error f)))).panel.board.selected =
        (p.run inputs).board.selected) := by
  intro p
  have wf : WellFormed p := wellFormed_of_idle rfl
  refine ⟨?_, ?_, ?_, selected_run p, ?_⟩
  · intro before request id starts q between
    have waiting : q.executor.selection = some ⟨request, id⟩ := by
      have := ((react_step _ _).fetch_session starts).2.2
      rwa [← run_concat] at this
    have hq : WellFormed q := wf.run _
    exact ⟨awaits_run_iff hq waiting between, mem_cancelledIn_iff hq waiting between⟩
  · intro inputs request hawaits
    obtain ⟨id, hσ⟩ := (awaits_iff _ _).1 hawaits
    obtain ⟨before, between, rfl, hstarts⟩ := exists_starts rfl hσ
    exact ⟨before, id, between, rfl, hstarts⟩
  · intro inputs request id result
    exact react_answered _ request id result
  · intro inputs request id f
    exact (react_step _ _).selected

/-- A selection, and another that takes its place before its answer comes. -/
def replacedSelection : List Input :=
  [.intent (.select "s1"), .intent (.select "s2")]

/-- The late answer to a replaced selection is dropped, its token has been cancelled, and the
answer to the latest selection is shown. -/
theorem latest_selection_lateAnswer :
    let p : Panel := {}
    let q := p.run replacedSelection
    let late : Input := .event (.answered 1 "s1" (.ok (sessionNamed "s1")))
    let latest : Input := .event (.answered 2 "s2" (.ok (sessionNamed "s2")))
    (q.react late).effects = [] ∧
    1 ∈ (p.run [.intent (.select "s1")]).cancelledIn [.intent (.select "s2")] ∧
    (p.run (replacedSelection ++ [late, latest])).board.selected = some (sessionNamed "s2") := by
  intro p q late latest
  obtain ⟨hfetch, -, hanswer, hselected, -⟩ := latest_selection {}
  have hfirst := hfetch [] 1 "s1" rfl [.intent (.select "s2")]
  have hreplaces : (Input.intent (.select "s2")).replaces "s1" = true := by decide
  refine ⟨?_, ?_, ?_⟩
  · have hlate : ¬ q.Awaits 1 := by
      rw [show q = (p.run [.intent (.select "s1")]).run [.intent (.select "s2")] from rfl]
      intro hawaits
      have hcalm := (hfirst.1.1 hawaits _ List.mem_cons_self).1
      simp [hreplaces] at hcalm
    exact ((hanswer replacedSelection 1 "s1" _).2 hlate).1
  · exact hfirst.2.2 ⟨[], _, [], rfl, hreplaces, by simp⟩
  · have hdecided : p.decisions (replacedSelection ++ [late, latest]) =
        [some (sessionNamed "s2")] := by decide +kernel
    rw [hselected, hdecided]
    rfl

end ChatGateway.Board.Panel
