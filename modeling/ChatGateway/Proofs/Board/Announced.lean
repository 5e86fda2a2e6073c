import Mathlib
import ChatGateway.Proofs.Board.Overtaken
import ChatGateway.Proofs.Board.RefreshLabel

/-!
# What labels announce

Labels come from several places: a session that is selected already, one that is in the list,
one that was fetched, and the failures of lists and sessions.  Wherever a label comes from, the
board that is published when it is sent already shows what the label says.

This is a fact about one input (`Panel.Step.announces`).  Over a run it needs that the published
board is the store's own at every turn, because a label that comes without a change speaks of
the board that was published before (`Store.labels_announce`).
-/

set_option autoImplicit false

namespace ChatGateway.Board

/-- What a label says of the board `shown`, when the board was `before` the input that it is
about.  A failure has taken neither the list nor the selection away. -/
def Label.Announces (before shown : Board) : Label → Prop
  | .loadCompleted => shown = before
  | .selectionCompleted id => shown.isSelected id = true
  | .errorOccurred text =>
    shown.error = some text ∧ shown.loading = false ∧ shown.sessions = before.sessions ∧
      shown.selected = before.selected

section effects

variable {b : Board} {l : Label}

/-- The label of a selection announces what the selection did. -/
theorem announces_of_selected {s : Session} (hl : l ∈ labels (selectedEffects s)) :
    l.Announces b (b.apply (.selected s)) := by
  obtain rfl : l = .selectionCompleted s.id := List.mem_singleton.1 hl
  simp [Label.Announces, apply, isSelected]

/-- The label of a failure announces what the failure did. -/
theorem announces_of_failure {text : String} (hl : l ∈ labels (failureEffects text)) :
    l.Announces b (b.apply (.loadFailed text)) := by
  obtain rfl : l = .errorOccurred text := List.mem_singleton.1 hl
  exact ⟨rfl, rfl, rfl, rfl⟩

/-- The labels of an answer about a session announce what the answer did. -/
theorem announces_of_answer {id : String} {result : Except Failure Session}
    (hl : l ∈ labels (answerEffects id result)) :
    l.Announces b (applyEffects b (answerEffects id result)) := by
  cases result with
  | ok s => exact announces_of_selected hl
  | error f =>
    cases hf : f.isCancelled with
    | true => simp [answerEffects, hf, labels] at hl
    | false =>
      simp only [answerEffects, hf, Bool.false_eq_true, ↓reduceIte] at hl ⊢
      exact announces_of_failure hl

end effects

namespace Panel

variable {p : Panel} {i : Input} {r : Reaction}

/-- After an input the board shows what the labels of the input say. -/
theorem Step.announces (h : Step p i r) {l : Label} (hl : l ∈ labels r.effects) :
    l.Announces p.board r.panel.board := by
  cases h with
  | @shown id shown =>
    obtain rfl : l = .selectionCompleted id := List.mem_singleton.1 hl
    exact shown
  | known => exact announces_of_selected hl
  | notListed => exact announces_of_failure hl
  | empty => exact announces_of_failure hl
  | answered => exact announces_of_answer hl
  | completed =>
    obtain rfl : l = .loadCompleted := List.mem_singleton.1 hl
    rfl
  | _ => cases hl

/-- To start a fetch changes neither the list nor the selection. -/
theorem Step.kept_of_fetch (h : Step p i r) (asks : r.fetch ≠ none) :
    r.panel.board.sessions = p.board.sessions ∧ r.panel.board.selected = p.board.selected := by
  cases h with
  | asked => exact ⟨rfl, rfl⟩
  | load => exact ⟨rfl, rfl⟩
  | refresh => exact ⟨rfl, rfl⟩
  | _ => exact absurd rfl asks

end Panel

namespace Store

variable (sources : Sources)

/-- The labels of one arrival are sent with the board that it leaves, which shows what they
say. -/
theorem announces_of_sent {before : List Arrival} {a : Arrival} {l : Label} {shown : Board}
    (hsent : (l, shown) ∈ sentSince sources before [a]) :
    shown = (after sources (before ++ [a])).desk.published ∧
      l.Announces (after sources before).desk.published shown := by
  have hnone : sentSince sources before [] = [] := by simp [sentSince]
  rw [← List.nil_append [a], sentSince_concat, hnone, List.nil_append, List.append_nil] at hsent
  obtain ⟨l', hl', heq⟩ := List.mem_map.1 hsent
  obtain ⟨rfl, rfl⟩ := Prod.mk.inj heq
  have hboard : (after sources (before ++ [a])).desk.published =
      ((after sources before).panel.react a.input).panel.board := by
    rw [published_after, after_concat, ← panel_take sources]
    rfl
  refine ⟨rfl, ?_⟩
  rw [List.nil_append, hboard, published_after]
  exact (Panel.react_step _ _).announces hl'

/-- In every run of a store the published board is the store's own, and each label was sent when
the board that was published showed what it says.  An operation that fails has changed neither
the list nor the selection when it was started, either. -/
theorem labels_announce (arrivals : List Arrival) :
    (after sources arrivals).desk.published = (after sources arrivals).desk.board ∧
    (∀ l shown, (l, shown) ∈ (after sources arrivals).desk.sent →
      ∃ early a late, arrivals = early ++ a :: late ∧
        shown = (after sources (early ++ [a])).desk.published ∧
        l.Announces (after sources early).desk.published shown) ∧
    (∀ a : Arrival, ((after sources arrivals).panel.react a.input).fetch ≠ none →
      (after sources (arrivals ++ [a])).desk.published.sessions =
        (after sources arrivals).desk.published.sessions ∧
      (after sources (arrivals ++ [a])).desk.published.selected =
        (after sources arrivals).desk.published.selected) := by
  refine ⟨published_after sources arrivals, ?_, ?_⟩
  · induction arrivals using List.reverseRecOn with
    | nil =>
      intro l shown hsent
      cases hsent
    | append_singleton arrivals a ih =>
      intro l shown hsent
      rw [← sent_append, List.mem_append] at hsent
      rcases hsent with hold | hnew
      · obtain ⟨early, b, late, rfl, hshown, hsays⟩ := ih l shown hold
        exact ⟨early, b, late ++ [a], by simp, hshown, hsays⟩
      · obtain ⟨hshown, hsays⟩ := announces_of_sent sources hnew
        exact ⟨arrivals, a, [], rfl, hshown, hsays⟩
  · intro a asks
    have hkept := (Panel.react_step (after sources arrivals).panel a.input).kept_of_fetch asks
    rw [← panel_take sources, ← after_concat] at hkept
    rw [published_after, published_after]
    exact hkept

/-- A load that brings a list and then fails, and a selection that is answered with a session of
another name. -/
def failureThenOther : List Arrival :=
  [.intent .load, .brought 0 (.listed (.ok [sessionNamed "s1"])),
    .brought 0 (.listed (.error (.network "offline"))), .intent (.select "s2"),
    .answered 1 "s2" (.ok (sessionNamed "s3"))]

/-- The failure is told with the list that was there, and the selection under the name of the
session that is selected. -/
theorem labels_announce_failureThenOther :
    (after slowFirst failureThenOther).desk.sent.map Prod.fst =
      [.errorOccurred (listFailure (.network "offline")), .selectionCompleted "s3"] ∧
    (∀ l shown, (l, shown) ∈ (after slowFirst failureThenOther).desk.sent →
      ∃ early a late, failureThenOther = early ++ a :: late ∧
        shown = (after slowFirst (early ++ [a])).desk.published ∧
        l.Announces (after slowFirst early).desk.published shown) ∧
    (after slowFirst (failureThenOther.take 4)).desk.published.sessions =
      (after slowFirst (failureThenOther.take 3)).desk.published.sessions := by
  have hasks : ((after slowFirst (failureThenOther.take 3)).panel.react
      (.intent (.select "s2"))).fetch ≠ none := by
    decide +kernel
  refine ⟨by decide +kernel, (labels_announce slowFirst failureThenOther).2.1, ?_⟩
  exact ((labels_announce slowFirst (failureThenOther.take 3)).2.2 (.intent (.select "s2")) hasks).1

end Store

end ChatGateway.Board
