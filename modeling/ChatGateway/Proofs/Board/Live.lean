import Mathlib
import ChatGateway.Proofs.Board.Selection

/-!
# A board among its fetches

A panel runs here with the session fetches that it has started.  Each fetch is a task with a
token; it takes the first result of its source, or a failure if there is none, and puts it
on the channel of events.  What list fetches bring may be put on the channel at any time.
Intents and the first event of the channel are carried out in any order.

What the gateway answers is not fixed: it is any relation between a session's name and a
result.  The invariant `Waiting` says that an answer is pending for the session that is
waited for: its fetch still runs under a token that is not cancelled, or its answer is on
the channel.
-/

set_option autoImplicit false

namespace ChatGateway.Board

/-- The labels among some effects. -/
def labels : List Effect → List Label
  | [] => []
  | .change _ :: es => labels es
  | .label l :: es => l :: labels es

/-- Whether an event is the result of a session fetch. -/
def Event.isAnswer : Event → Bool
  | .answered _ _ _ => true
  | _ => false

/-- An answer to a request is about some session. -/
theorem Event.eq_answered {request : Nat} {e : Event}
    (h : Fetcher.answers request e = true) : ∃ id result, e = .answered request id result := by
  cases e with
  | answered r id result =>
    obtain rfl : r = request := by simpa [Fetcher.answers] using h
    exact ⟨id, result, rfl⟩
  | _ => cases h

/-- The session fetch that the gateway is asked for, if it is asked for one. -/
def Fetch.session? : Fetch → Option (Nat × String)
  | .list _ => none
  | .session request id => some (request, id)

/-- A panel with its session fetches and the channel of events. -/
structure Live where
  panel : Panel := {}
  /-- The session fetches whose tokens are cancelled. -/
  cancelled : List Nat := []
  /-- The session fetches that are running. -/
  fetches : List (Nat × String) := []
  /-- What has been brought and not been handled. -/
  events : List Event := []
  /-- The labels so far. -/
  labels : List Label := []

namespace Live

/-- Carries an input out. -/
def take (l : Live) (i : Input) : Live :=
  let r := l.panel.react i
  { l with
    panel := r.panel
    cancelled := l.cancelled ++ r.cancelled.toList
    fetches := l.fetches ++ (r.fetch.bind Fetch.session?).toList
    labels := l.labels ++ Board.labels r.effects }

/-- A session fetch is over. -/
def stop (l : Live) (request : Nat) : Live :=
  { l with fetches := l.fetches.filter fun task => task.1 ≠ request }

/-- An event is put on the channel. -/
def push (l : Live) (e : Event) : Live :=
  { l with events := l.events ++ [e] }

/-- What the gateway may answer when it is asked for a session by its name. -/
abbrev Answers := String → Except Failure Session → Prop

/-- What can happen next, with the intent that it carries out. -/
inductive Step (answers : Answers) (l : Live) : Option Intent → Live → Prop
  | intent (i : Intent) : Step answers l (some i) (l.take (.intent i))
  /-- A list fetch brings something. -/
  | listed {e : Event} (aside : e.isAnswer = false) : Step answers l none (l.push e)
  | brought {request : Nat} {id : String} {result : Except Failure Session}
      (running : (request, id) ∈ l.fetches) (given : answers id result) :
      Step answers l none ((l.stop request).push (.answered request id result))
  /-- The source of a session fetch ends without a result. -/
  | ended {request : Nat} {id : String} (running : (request, id) ∈ l.fetches) :
      Step answers l none
        ((l.stop request).push (.answered request id (.error .emptyResponse)))
  /-- A session fetch whose token is cancelled stops in silence. -/
  | stopped {request : Nat} {id : String} (running : (request, id) ∈ l.fetches)
      (stopped : request ∈ l.cancelled) : Step answers l none (l.stop request)
  | handled {e : Event} {rest : List Event} (first : l.events = e :: rest) :
      Step answers l none ({ l with events := rest }.take (.event e))

section frame

variable (l : Live)

/-- The panel reacts to what is taken in. -/
@[simp]
theorem take_panel (i : Input) : (l.take i).panel = (l.panel.react i).panel := rfl

/-- Taking something in leaves the events that wait. -/
@[simp]
theorem take_events (i : Input) : (l.take i).events = l.events := rfl

/-- The labels of a reaction come after the labels before. -/
@[simp]
theorem take_labels (i : Input) :
    (l.take i).labels = l.labels ++ Board.labels (l.panel.react i).effects := rfl

/-- A request is cancelled when it was so before or the reaction cancels it. -/
@[simp]
theorem mem_take_cancelled (i : Input) (request : Nat) :
    request ∈ (l.take i).cancelled ↔
      request ∈ l.cancelled ∨ (l.panel.react i).cancelled = some request := by
  simp [take]

/-- A fetch is under way when it was so before or the reaction asks for it. -/
@[simp]
theorem mem_take_fetches (i : Input) (request : Nat) (id : String) :
    (request, id) ∈ (l.take i).fetches ↔
      (request, id) ∈ l.fetches ∨ (l.panel.react i).fetch = some (.session request id) := by
  rcases h : (l.panel.react i).fetch with _ | (_ | _) <;> simp [take, h, Fetch.session?, eq_comm]

/-- A fetch that stops is under way no more; the others are. -/
@[simp]
theorem mem_stop_fetches (request : Nat) (task : Nat × String) :
    task ∈ (l.stop request).fetches ↔ task ∈ l.fetches ∧ task.1 ≠ request := by
  simp [stop]

/-- A fetch that stops leaves the events that wait. -/
@[simp]
theorem stop_events (request : Nat) : (l.stop request).events = l.events := rfl

/-- An event that comes waits behind the others. -/
@[simp]
theorem push_events (e : Event) : (l.push e).events = l.events ++ [e] := rfl

end frame

/-! ## Pending answers -/

/-- A fetch for the session `id` has been started under the number `request`, and is running
or has brought its answer. -/
def UnderWay (l : Live) (request : Nat) (id : String) : Prop :=
  (request, id) ∈ l.fetches ∨ ∃ result, .answered request id result ∈ l.events

/-- Whether the answer of a fetch is still to come. -/
def Pending (l : Live) (request : Nat) (id : String) : Prop :=
  ((request, id) ∈ l.fetches ∧ request ∉ l.cancelled) ∨
    ∃ result, .answered request id result ∈ l.events

/-- An answer is pending for the session that is waited for. -/
structure Waiting (answers : Answers) (l : Live) : Prop where
  wellFormed : l.panel.WellFormed
  pending : ∀ σ, l.panel.executor.selection = some σ → l.Pending σ.request σ.id
  /-- Fetches have their numbers from the panel. -/
  numbered : ∀ request id, l.UnderWay request id → request ≤ l.panel.executor.lastRequest
  cancelled_le : ∀ request ∈ l.cancelled, request ≤ l.panel.executor.lastRequest
  /-- The fetch that is waited for is for the session that is waited for. -/
  agree : ∀ σ, l.panel.executor.selection = some σ → ∀ id, l.UnderWay σ.request id → id = σ.id
  given : ∀ request id result, .answered request id result ∈ l.events →
    answers id result ∨ result = .error .emptyResponse

namespace Waiting

variable {answers : Answers} {l : Live}

/-- At first no request waits for an answer. -/
theorem start (b : Board) : Waiting answers { panel := { board := b } } where
  wellFormed := Panel.wellFormed_of_idle rfl
  pending := by simp
  numbered := by simp [UnderWay]
  cancelled_le := by simp
  agree := by simp
  given := by simp

/-- What leaves the panel and the tokens alone, brings nothing under a number of its own and
keeps the answer pending, keeps the invariant. -/
theorem of_panel (h : Waiting answers l) {l' : Live} (panel : l'.panel = l.panel)
    (cancelled : l'.cancelled = l.cancelled)
    (underWay : ∀ request id, l'.UnderWay request id → l.UnderWay request id)
    (pending : ∀ σ, l.panel.executor.selection = some σ → l'.Pending σ.request σ.id)
    (given : ∀ request id result, .answered request id result ∈ l'.events →
      answers id result ∨ result = .error .emptyResponse) : Waiting answers l' where
  wellFormed := panel ▸ h.wellFormed
  pending := panel ▸ pending
  numbered := fun request id hway => panel ▸ h.numbered request id (underWay request id hway)
  cancelled_le := panel ▸ cancelled ▸ h.cancelled_le
  agree := fun σ hσ id hway => h.agree σ (panel ▸ hσ) id (underWay _ id hway)
  given := given

section take

variable (i : Input) {events : List Event}

/-- A fetch is under way after an input if it was before, or if the input starts it. -/
theorem underWay_take (old : ∀ e ∈ events, e ∈ l.events) {request : Nat} {id : String}
    (hway : ({ l with events := events }.take i).UnderWay request id) :
    l.UnderWay request id ∨ (l.panel.react i).fetch = some (.session request id) := by
  rcases hway with hfetch | ⟨result, he⟩
  · rw [mem_take_fetches] at hfetch
    exact hfetch.imp_left .inl
  · exact .inl (.inr ⟨result, old _ he⟩)

/-- After an input the answer is pending for what is waited for then. -/
theorem pending_take (h : Waiting answers l) (kept : ∀ e ∈ l.events, e ∈ events ∨ i = .event e)
    {σ : Selection} (hσ : (l.panel.react i).panel.executor.selection = some σ) :
    ({ l with events := events }.take i).Pending σ.request σ.id := by
  have hstep := Panel.react_step l.panel i
  have hcancelled := hstep.cancelled_iff h.wellFormed σ.request
  rcases (hstep.selection_iff h.wellFormed σ).1 hσ with ⟨hold, hreplaces, hanswers⟩ | hfetch
  · rcases h.pending σ hold with ⟨hrunning, hnot⟩ | ⟨result, he⟩
    · left
      refine ⟨(mem_take_fetches ..).2 (.inl hrunning), ?_⟩
      rw [mem_take_cancelled, hcancelled]
      rintro (hmem | ⟨id, hσ', hreplaces'⟩)
      · exact hnot hmem
      · have hid : σ.id = id := congrArg Selection.id (Option.some.inj (hold.symm.trans hσ'))
        simp [← hid, hreplaces] at hreplaces'
    · rcases kept _ he with he | rfl
      · exact .inr ⟨result, he⟩
      · simp [Input.answers, Fetcher.answers] at hanswers
  · -- the fetch is new, so nothing can have cancelled its token
    have hnew := (hstep.fetch_session hfetch).2.1
    left
    refine ⟨(mem_take_fetches ..).2 (.inr hfetch), ?_⟩
    rw [mem_take_cancelled, hcancelled]
    rintro (hmem | ⟨id, hσ', -⟩)
    · have hle := h.cancelled_le σ.request hmem
      omega
    · have hle := h.wellFormed.request_le ⟨σ.request, id⟩ hσ'
      simp only at hle
      omega

/-- After an input the fetch that is waited for is for the session that is waited for. -/
theorem agree_take (h : Waiting answers l) (old : ∀ e ∈ events, e ∈ l.events) {σ : Selection}
    (hσ : (l.panel.react i).panel.executor.selection = some σ) {id : String}
    (hway : ({ l with events := events }.take i).UnderWay σ.request id) : id = σ.id := by
  have hstep := Panel.react_step l.panel i
  rcases (hstep.selection_iff h.wellFormed σ).1 hσ with ⟨hold, -⟩ | hasked
  · rcases underWay_take i old hway with hway | hfetch
    · exact h.agree σ hold id hway
    · have hnew := (hstep.fetch_session hfetch).2.1
      have hle := h.wellFormed.request_le σ hold
      omega
  · rcases underWay_take i old hway with hway | hfetch
    · have hnew := (hstep.fetch_session hasked).2.1
      have hle := h.numbered _ _ hway
      omega
    · simpa [hasked, eq_comm] using hfetch

/-- Carrying an input out keeps the answer pending, if nothing but the input itself is taken
off the channel. -/
theorem take (h : Waiting answers l) (old : ∀ e ∈ events, e ∈ l.events)
    (kept : ∀ e ∈ l.events, e ∈ events ∨ i = .event e) :
    Waiting answers ({ l with events := events }.take i) := by
  have hstep := Panel.react_step l.panel i
  have hle := hstep.lastRequest_le
  have hwf := h.wellFormed.step hstep
  refine ⟨hwf, fun σ hσ => h.pending_take i kept hσ, ?_, ?_,
    fun σ hσ id hway => h.agree_take i old hσ hway, ?_⟩
  · intro request id hway
    rcases underWay_take i old hway with hold | hfetch
    · exact Nat.le_trans (h.numbered request id hold) hle
    · exact hwf.request_le _ (hstep.fetch_session hfetch).2.2
  · intro request hmem
    rw [mem_take_cancelled, hstep.cancelled_iff h.wellFormed] at hmem
    rcases hmem with hmem | ⟨id, hσ, -⟩
    · exact Nat.le_trans (h.cancelled_le request hmem) hle
    · exact Nat.le_trans (h.wellFormed.request_le _ hσ) hle
  · exact fun request id result he => h.given request id result (old _ he)

end take

/-- A fetch that is over hands its result on. -/
theorem finish (h : Waiting answers l) {request : Nat} {id : String}
    {result : Except Failure Session} (running : (request, id) ∈ l.fetches)
    (given : answers id result ∨ result = .error .emptyResponse) :
    Waiting answers ((l.stop request).push (.answered request id result)) := by
  have hevents : ∀ e, e ∈ ((l.stop request).push (.answered request id result)).events ↔
      e ∈ l.events ∨ e = .answered request id result := by simp
  refine h.of_panel rfl rfl ?_ ?_ ?_
  · rintro request' id' (hfetch | ⟨result', he⟩)
    · exact .inl ((mem_stop_fetches ..).1 hfetch).1
    · rcases (hevents _).1 he with he | heq
      · exact .inr ⟨result', he⟩
      · obtain ⟨rfl, rfl, -⟩ := Event.answered.inj heq
        exact .inl running
  · intro σ hσ
    rcases h.pending σ hσ with ⟨hrunning, hnot⟩ | ⟨result', he⟩
    · by_cases hsame : σ.request = request
      · have hid : id = σ.id := h.agree σ hσ id (.inl (hsame ▸ running))
        exact .inr ⟨result, (hevents _).2 (.inr (by rw [hsame, hid]))⟩
      · exact .inl ⟨(mem_stop_fetches ..).2 ⟨hrunning, hsame⟩, hnot⟩
    · exact .inr ⟨result', (hevents _).2 (.inl he)⟩
  · intro request' id' result' he
    rcases (hevents _).1 he with he | heq
    · exact h.given request' id' result' he
    · obtain ⟨-, rfl, rfl⟩ := Event.answered.inj heq
      exact given

/-- Every step keeps the answer pending. -/
theorem step (h : Waiting answers l) {i : Option Intent} {l' : Live} (hstep : Step answers l i l') :
    Waiting answers l' := by
  cases hstep with
  | intent i => exact h.take (.intent i) (fun _ he => he) (fun _ he => .inl he)
  | @listed e aside =>
    have hevents : ∀ request id result, .answered request id result ∈ (l.push e).events →
        .answered request id result ∈ l.events := by
      intro request id result he
      rcases List.mem_append.1 he with he | he
      · exact he
      · obtain rfl := List.mem_singleton.1 he
        cases aside
    refine h.of_panel rfl rfl ?_ ?_ ?_
    · rintro request id (hfetch | ⟨result, he⟩)
      · exact .inl hfetch
      · exact .inr ⟨result, hevents _ _ _ he⟩
    · intro σ hσ
      exact (h.pending σ hσ).imp_right fun ⟨result, he⟩ => ⟨result, List.mem_append_left _ he⟩
    · exact fun request id result he => h.given _ _ _ (hevents _ _ _ he)
  | brought running given => exact h.finish running (.inl given)
  | ended running => exact h.finish running (.inr rfl)
  | @stopped request id running stopped =>
    refine h.of_panel rfl rfl ?_ ?_ h.given
    · rintro request' id' (hfetch | hevent)
      · exact .inl ((mem_stop_fetches ..).1 hfetch).1
      · exact .inr hevent
    · intro σ hσ
      rcases h.pending σ hσ with ⟨hrunning, hnot⟩ | hevent
      · have hne : σ.request ≠ request := by
          rintro rfl
          exact hnot stopped
        exact .inl ⟨(mem_stop_fetches ..).2 ⟨hrunning, hne⟩, hnot⟩
      · exact .inr hevent
  | @handled e rest first =>
    refine h.take (.event e) (fun e' he' => ?_) (fun e' he' => ?_)
    · exact first ▸ List.mem_cons_of_mem e he'
    · rw [first, List.mem_cons] at he'
      rcases he' with rfl | he'
      · exact .inr rfl
      · exact .inl he'

end Waiting

end Live

end ChatGateway.Board
