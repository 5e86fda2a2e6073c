import Mathlib
import ChatGateway.Board.Store
import ChatGateway.Proofs.Board.Live
import ChatGateway.Proofs.Agenda

/-!
# A store follows one order of the fetches

A store knows in advance what its fetches will bring and when, and keeps that on an agenda.
Whatever is done to it can be done by a board among its fetches whose gateway may answer the
same: an answer on the agenda belongs to a fetch that is running, no fetch has two answers
there, and letting time pass is letting the fetches bring what is due, one after the other,
and handling each as it comes.
-/

set_option autoImplicit false

namespace ChatGateway.Board

/-- What the sources may answer when they are asked for a session. -/
def Sources.answers (sources : Sources) : Live.Answers := fun id result =>
  ∃ item rest, sources.sessions id = item :: rest ∧ item.result = some result

namespace Desk

variable (d : Desk) (es : List Effect)

/-- The board of a desk gets the changes among the effects. -/
theorem applyAll_board : (d.applyAll es).board = applyEffects d.board es := by
  induction es generalizing d with
  | nil => rfl
  | cons e es ih =>
    have hrest := ih (d.apply e)
    cases e <;> exact hrest

/-- A desk sends the labels among the effects, behind those before. -/
theorem applyAll_sent :
    (d.applyAll es).sent.map Prod.fst = d.sent.map Prod.fst ++ labels es := by
  induction es generalizing d with
  | nil => simp [applyAll, labels]
  | cons e es ih =>
    have hrest := ih (d.apply e)
    cases e with
    | change c => exact hrest
    | label l => exact hrest.trans (by simp [apply, labels])

end Desk

/-- Two events are not answers to the same session fetch. -/
def Event.Apart (e f : Event) : Prop :=
  ∀ request, Fetcher.answers request e = true → Fetcher.answers request f = false

/-- Of two events that are apart neither is about the other. -/
theorem Event.Apart.symm {e f : Event} (h : e.Apart f) : f.Apart e := by
  intro request hf
  by_contra he
  have hapart := h request (by simpa using he)
  simp [hf] at hapart

/-- Whether an event may come of a fetch of the gateway. -/
def Fetch.MayBring (answers : Live.Answers) (fetch : Fetch) (e : Event) : Prop :=
  e.isAnswer = false ∨ ∃ request id result, fetch = .session request id ∧
    e = .answered request id result ∧ (answers id result ∨ result = .error .emptyResponse)

/-- An answer comes of the fetch with its number. -/
theorem Fetch.MayBring.asks {answers : Live.Answers} {fetch : Fetch} {e : Event} {request : Nat}
    (h : fetch.MayBring answers e) (hrequest : Fetcher.answers request e = true) :
    ∃ id, fetch = .session request id := by
  obtain ⟨id, result, rfl⟩ := Event.eq_answered hrequest
  rcases h with haside | ⟨request', id', result', rfl, heq, -⟩
  · cases haside
  · obtain ⟨rfl, -, -⟩ := Event.answered.inj heq
    exact ⟨id', rfl⟩

section fetcher

variable (sources : Sources)

/-- What a list fetch brings is no answer about a session. -/
theorem listEvents_aside (now : Nat) (feed : Feed (Except Failure (List Session))) {d : Due Event}
    (h : d ∈ listEvents now feed) : d.what.isAnswer = false := by
  rw [listEvents, List.mem_append] at h
  rcases h with h | h
  · obtain ⟨r, -, rfl⟩ := List.mem_map.1 h
    rfl
  · cases hend : feed.endTime now with
    | none => simp [hend] at h
    | some time =>
      obtain rfl : d = _ := by simpa [hend] using h
      rfl

/-- A session fetch brings the first result of its source, or the failure that says that
there is none. -/
theorem sessionEvents_spec (now request : Nat) (id : String) :
    sessionEvents now request id (sources.sessions id) = [] ∨
      ∃ time result, sessionEvents now request id (sources.sessions id) =
        [⟨time, .answered request id result⟩] ∧
        (sources.answers id result ∨ result = .error .emptyResponse) := by
  cases hfeed : sources.sessions id with
  | nil => exact .inr ⟨now, _, rfl, .inr rfl⟩
  | cons item rest =>
    cases hitem : item.result with
    | none => exact .inl (by simp [sessionEvents, hitem])
    | some result =>
      exact .inr ⟨now + item.delay, result, by simp [sessionEvents, hitem],
        .inl ⟨item, rest, hfeed, hitem⟩⟩

/-- A fetch puts on the agenda what it may bring, with at most one answer. -/
theorem Fetcher.start_spec (f : Fetcher) (fetch : Fetch) :
    ∃ new : List (Due Event), (f.start sources fetch).agenda.Perm (f.agenda ++ new) ∧
      (∀ d ∈ new, fetch.MayBring sources.answers d.what) ∧
      new.Pairwise fun d e => d.what.Apart e.what := by
  cases hstopped : f.stopped with
  | true =>
    refine ⟨[], ?_, by simp, .nil⟩
    cases fetch <;> simp [start, hstopped, Agenda.insertAll]
  | false =>
    cases fetch with
    | list force =>
      have haside : ∀ d ∈ listEvents f.now (sources.lists f.lists), d.what.isAnswer = false :=
        fun d => listEvents_aside _ _
      refine ⟨listEvents f.now (sources.lists f.lists), ?_, fun d hd => .inl (haside d hd), ?_⟩
      · simpa [start, hstopped] using Agenda.insertAll_perm _ _
      · refine List.pairwise_of_forall_mem_list fun d hd e _ request hrequest => ?_
        obtain ⟨id, result, hd'⟩ := Event.eq_answered hrequest
        have hnot := haside d hd
        simp [hd', Event.isAnswer] at hnot
    | session request id =>
      have hperm : (f.start sources (.session request id)).agenda.Perm
          (f.agenda ++ sessionEvents f.now request id (sources.sessions id)) := by
        simpa [start, hstopped] using Agenda.insertAll_perm _ _
      refine ⟨_, hperm, ?_⟩
      rcases sessionEvents_spec sources f.now request id with hnone | ⟨time, result, hone, hgiven⟩
      · simp [hnone]
      · rw [hone]
        refine ⟨fun d hd => ?_, List.pairwise_singleton _ _⟩
        obtain rfl := List.mem_singleton.1 hd
        exact .inr ⟨request, id, result, rfl, rfl, hgiven⟩

/-- What is no longer wanted is cancelled before what is asked for is started. -/
theorem Bench.execute_fetcher (bench : Bench) (b : Board) (i : Intent) :
    (bench.execute sources b i).2.2.fetcher =
      let o := bench.executor.execute b i
      let f := o.cancelled.elim bench.fetcher bench.fetcher.cancel
      o.fetch.elim f (f.start sources) := by
  unfold Bench.execute
  generalize bench.executor.execute b i = o
  obtain ⟨executor, effects, fetch, cancelled⟩ := o
  cases cancelled <;> cases fetch <;> rfl

end fetcher

namespace Store

/-- The board of a store with its executor. -/
def panel (s : Store) : Panel :=
  ⟨s.desk.board, s.bench.executor⟩

/-- The labels that a store has sent. -/
def told (s : Store) : List Label :=
  s.desk.sent.map Prod.fst

/-- What is still to come on the agenda of a store. -/
def coming (s : Store) : List Event :=
  s.bench.fetcher.agenda.map Due.what

variable (sources : Sources) (s : Store)

/-- The panel of a store reacts to an intent. -/
theorem panel_intend (i : Intent) :
    (s.intend sources i).panel = (s.panel.react (.intent i)).panel := by
  simp [panel, intend, Bench.execute, Panel.react, Desk.applyAll_board]

/-- The labels of the reaction to an intent are told last. -/
theorem told_intend (i : Intent) :
    (s.intend sources i).told = s.told ++ labels (s.panel.react (.intent i)).effects :=
  s.desk.applyAll_sent _

/-- The panel of a store reacts to an event. -/
theorem panel_handle (e : Event) : (s.handle e).panel = (s.panel.react (.event e)).panel := by
  simp [panel, handle, Bench.handle, Panel.react, Desk.applyAll_board]

/-- The labels of the reaction to an event are told last. -/
theorem told_handle (e : Event) :
    (s.handle e).told = s.told ++ labels (s.panel.react (.event e)).effects :=
  s.desk.applyAll_sent _

/-- Handling an event leaves what is to come. -/
theorem coming_handle (e : Event) : (s.handle e).coming = s.coming := rfl

/-- An intent takes answers off the agenda and puts on it what its fetch may bring. -/
theorem coming_intend (i : Intent) :
    ∃ kept new : List Event, (s.intend sources i).coming.Perm (kept ++ new) ∧
      kept.Sublist s.coming ∧ new.Pairwise Event.Apart ∧
      ∀ e ∈ new, ∃ fetch, (s.panel.react (.intent i)).fetch = some fetch ∧
        fetch.MayBring sources.answers e := by
  let o := s.bench.executor.execute s.desk.board i
  let f := o.cancelled.elim s.bench.fetcher s.bench.fetcher.cancel
  have hcoming : (s.intend sources i).coming =
      (o.fetch.elim f (f.start sources)).agenda.map Due.what :=
    congrArg (fun f => f.agenda.map Due.what) (s.bench.execute_fetcher sources s.desk.board i)
  have hkept : (f.agenda.map Due.what).Sublist s.coming := by
    cases hcancelled : o.cancelled with
    | none => simp [f, hcancelled, coming]
    | some request =>
      simp only [f, hcancelled]
      exact List.filter_sublist.map _
  cases hfetch : o.fetch with
  | none =>
    refine ⟨f.agenda.map Due.what, [], ?_, hkept, .nil, by simp⟩
    rw [hcoming, hfetch, List.append_nil]
    rfl
  | some fetch =>
    obtain ⟨new, hperm, hbring, hapart⟩ := f.start_spec sources fetch
    refine ⟨f.agenda.map Due.what, new.map Due.what, ?_, hkept, List.pairwise_map.2 hapart, ?_⟩
    · rw [hcoming, hfetch, ← List.map_append]
      exact hperm.map Due.what
    · intro e he
      obtain ⟨d, hd, rfl⟩ := List.mem_map.1 he
      exact ⟨fetch, hfetch, hbring d hd⟩

end Store

namespace Live

/-- Something on the agenda can be brought. -/
def Offers (answers : Answers) (l : Live) (e : Event) : Prop :=
  e.isAnswer = false ∨ ∃ request id result, e = .answered request id result ∧
    (request, id) ∈ l.fetches ∧ (answers id result ∨ result = .error .emptyResponse)

/-- Steps of whatever kind. -/
abbrev Reaches (answers : Answers) : Live → Live → Prop :=
  Relation.ReflTransGen fun l l' => ∃ i, Step answers l i l'

/-- A board among its fetches is where a store is that has `coming` before it. -/
structure Follows (sources : Sources) (s : Store) (coming : List Event) (l : Live) : Prop where
  panel : l.panel = s.panel
  labels : l.labels = s.told
  read : l.events = []
  waiting : Waiting sources.answers l
  offers : ∀ e ∈ coming, l.Offers sources.answers e
  apart : coming.Pairwise Event.Apart

variable {sources : Sources} {s : Store} {l : Live}

/-- What is offered is still offered if no fetch has gone. -/
theorem Offers.mono {answers : Answers} {l l' : Live} {e : Event} (h : l.Offers answers e)
    (kept : ∀ request id, (request, id) ∈ l.fetches → Fetcher.answers request e = true →
      (request, id) ∈ l'.fetches) : l'.Offers answers e := by
  rcases h with haside | ⟨request, id, result, rfl, hrunning, hgiven⟩
  · exact .inl haside
  · exact .inr ⟨request, id, result, rfl, kept request id hrunning (by simp [Fetcher.answers]),
      hgiven⟩

/-- A request that may be answered has been asked. -/
theorem Offers.number_le {answers : Answers} {e : Event} {request : Nat} (h : l.Offers answers e)
    (waiting : Waiting answers l) (hrequest : Fetcher.answers request e = true) :
    request ≤ l.panel.executor.lastRequest := by
  obtain ⟨id, result, rfl⟩ := Event.eq_answered hrequest
  rcases h with haside | ⟨request', id', result', heq, hrunning, -⟩
  · cases haside
  · obtain ⟨rfl, -, -⟩ := Event.answered.inj heq
    exact waiting.numbered _ _ (.inl hrunning)

/-- An intent of a store is one of the board. -/
theorem Follows.intend (h : Follows sources s s.coming l) (i : Intent) :
    Follows sources (s.intend sources i) (s.intend sources i).coming (l.take (.intent i)) := by
  obtain ⟨kept, new, hperm, hkept, hnew, hbring⟩ := s.coming_intend sources i
  have hstep := Panel.react_step s.panel (.intent i)
  -- an answer that comes of the fetch is under a number that was not given out before
  have hcross : ∀ e ∈ kept, ∀ e' ∈ new, e.Apart e' := by
    intro e he e' he' request hrequest
    by_contra hrequest'
    obtain ⟨fetch, hfetch, hmay⟩ := hbring e' he'
    obtain ⟨id, rfl⟩ := hmay.asks (by simpa using hrequest')
    have hnew := (hstep.fetch_session hfetch).2.1
    have hle := (h.offers e (hkept.subset he)).number_le h.waiting hrequest
    rw [h.panel] at hle
    omega
  refine ⟨?_, ?_, ?_, ?_, ?_, ?_⟩
  · rw [take_panel, h.panel, Store.panel_intend]
  · rw [take_labels, h.panel, h.labels, Store.told_intend]
  · rw [take_events, h.read]
  · exact h.waiting.step (.intent i)
  · intro e he
    rcases List.mem_append.1 (hperm.subset he) with he | he
    · refine (h.offers e (hkept.subset he)).mono fun request id hrunning _ => ?_
      exact (mem_take_fetches ..).2 (.inl hrunning)
    · obtain ⟨fetch, hfetch, haside | ⟨request, id, result, rfl, rfl, hgiven⟩⟩ := hbring e he
      · exact .inl haside
      · refine .inr ⟨request, id, result, rfl, (mem_take_fetches ..).2 (.inr ?_), hgiven⟩
        rw [h.panel, hfetch]
  · refine (hperm.pairwise_iff Event.Apart.symm).2 ?_
    exact List.pairwise_append.2 ⟨h.apart.sublist hkept, hnew, hcross⟩

/-- What comes first is brought and handled. -/
theorem Follows.handle {e : Event} {coming : List Event} (h : Follows sources s (e :: coming) l) :
    ∃ l', Reaches sources.answers l l' ∧ Follows sources (s.handle e) coming l' := by
  obtain ⟨hoffer, hoffers⟩ := List.forall_mem_cons.1 h.offers
  obtain ⟨hfirst, hapart⟩ := List.pairwise_cons.1 h.apart
  -- the fetch that brings the event may end, all others go on
  obtain ⟨l₁, hbrought, hpanel, hlabels, hevents, hfetches⟩ : ∃ l₁, Step sources.answers l none l₁ ∧
      l₁.panel = l.panel ∧ l₁.labels = l.labels ∧ l₁.events = [e] ∧
      ∀ request id, (request, id) ∈ l.fetches → Fetcher.answers request e = false →
        (request, id) ∈ l₁.fetches := by
    rcases hoffer with haside | ⟨request, id, result, rfl, hrunning, hgiven⟩
    · exact ⟨l.push e, .listed haside, rfl, rfl, by simp [h.read], fun _ _ hmem _ => hmem⟩
    · refine ⟨(l.stop request).push (.answered request id result), ?_, rfl, rfl,
        by simp [h.read], ?_⟩
      · rcases hgiven with hgiven | rfl
        · exact .brought hrunning hgiven
        · exact .ended hrunning
      · intro request' id' hmem hother
        have hne : request' ≠ request := by
          rintro rfl
          simp [Fetcher.answers] at hother
        exact (mem_stop_fetches ..).2 ⟨hmem, hne⟩
  have hhandled : Step sources.answers l₁ none ({ l₁ with events := [] }.take (.event e)) :=
    .handled hevents
  refine ⟨_, .tail (.single ⟨none, hbrought⟩) ⟨none, hhandled⟩, ?_, ?_, ?_, ?_, ?_, hapart⟩
  · rw [take_panel, hpanel, h.panel, Store.panel_handle]
  · rw [take_labels, hpanel, hlabels, h.panel, h.labels, Store.told_handle]
  · rfl
  · exact (h.waiting.step hbrought).step hhandled
  · intro e' he'
    refine (hoffers e' he').mono fun request id hrunning hrequest => ?_
    have hother : Fetcher.answers request e = false := by
      by_contra hsame
      have := hfirst e' he' request (by simpa using hsame)
      simp [hrequest] at this
    exact (mem_take_fetches ..).2 (.inl (hfetches request id hrunning hother))

/-- What is due is brought and handled in order. -/
theorem Follows.handleAll {due rest : List Event} (h : Follows sources s (due ++ rest) l) :
    ∃ l', Reaches sources.answers l l' ∧ Follows sources (due.foldl Store.handle s) rest l' := by
  induction due generalizing s l with
  | nil => exact ⟨l, .refl, h⟩
  | cons e due ih =>
    obtain ⟨l₁, hfirst, h₁⟩ := h.handle
    obtain ⟨l', hrest, h'⟩ := ih h₁
    exact ⟨l', hfirst.trans hrest, h'⟩

end Live

/-! ## What is done to a store -/

/-- What a store can become. -/
inductive Store.Reached (sources : Sources) : Store → Prop
  | start : Reached sources (Store.start sources)
  | dispatched {s : Store} (h : Reached sources s) (is : List Intent) :
      Reached sources (s.dispatch sources is)
  | waited {s : Store} (h : Reached sources s) (time : Nat) : Reached sources (s.wait time)
  | closed {s : Store} (h : Reached sources s) : Reached sources s.close

namespace Live

variable {sources : Sources} {s : Store} {l : Live}

/-- Letting time pass is letting the fetches bring what is due. -/
theorem Follows.wait (h : Follows sources s s.coming l) (time : Nat) :
    ∃ l', Reaches sources.answers l l' ∧
      Follows sources (s.wait time) (s.wait time).coming l' := by
  let limit := s.bench.fetcher.now + time
  let due := (s.bench.fetcher.agenda.takeWhile fun d => d.time ≤ limit).map Due.what
  let rest := s.bench.fetcher.agenda.dropWhile fun d => d.time ≤ limit
  let fetcher : Fetcher := { s.bench.fetcher with now := limit, agenda := rest }
  let s₁ : Store := { s with bench := { s.bench with fetcher := fetcher } }
  have hsplit : s.coming = due ++ rest.map Due.what := by
    rw [← List.map_append, List.takeWhile_append_dropWhile]
    rfl
  have hcoming : (due.foldl Store.handle s₁).coming = rest.map Due.what := by
    generalize due = es
    induction es using List.reverseRecOn with
    | nil => rfl
    | append_singleton es e ih => rw [List.foldl_concat, Store.coming_handle, ih]
  have h₁ : Follows sources s₁ (due ++ rest.map Due.what) l :=
    ⟨h.panel, h.labels, h.read, h.waiting, hsplit ▸ h.offers, hsplit ▸ h.apart⟩
  obtain ⟨l', hreach, hfollows⟩ := h₁.handleAll
  exact ⟨l', hreach, hcoming.symm ▸ hfollows⟩

/-- Intents are carried out in order. -/
theorem Follows.intends (h : Follows sources s s.coming l) (is : List Intent) :
    ∃ l', Reaches sources.answers l l' ∧
      Follows sources (is.foldl (Store.intend sources) s)
        (is.foldl (Store.intend sources) s).coming l' := by
  induction is generalizing s l with
  | nil => exact ⟨l, .refl, h⟩
  | cons i is ih =>
    obtain ⟨l', hreach, hfollows⟩ := ih (h.intend i)
    exact ⟨l', .head ⟨some i, .intent i⟩ hreach, hfollows⟩

/-- Whatever a store becomes, a board among its fetches reaches the same board and executor,
has told the same labels, and has the same before it. -/
theorem exists_follows (h : Store.Reached sources s) :
    ∃ l, Reaches sources.answers {} l ∧ Follows sources s s.coming l := by
  induction h with
  | start =>
    have hempty : Follows sources {} (Store.coming {}) {} :=
      ⟨rfl, rfl, rfl, Waiting.start {}, by simp [Store.coming], .nil⟩
    exact ⟨_, .single ⟨some .load, .intent .load⟩, hempty.intend .load⟩
  | @dispatched s _ is ih =>
    obtain ⟨l, hreach, hfollows⟩ := ih
    cases hclosed : s.closed with
    | true =>
      have hsame : s.dispatch sources is = s := by simp [Store.dispatch, hclosed]
      exact ⟨l, hreach, hsame.symm ▸ hfollows⟩
    | false =>
      have hopen : s.dispatch sources is = (is.foldl (Store.intend sources) s).wait 0 := by
        simp [Store.dispatch, hclosed]
      obtain ⟨l₁, hreach₁, h₁⟩ := hfollows.intends is
      obtain ⟨l₂, hreach₂, h₂⟩ := h₁.wait 0
      exact ⟨l₂, (hreach.trans hreach₁).trans hreach₂, hopen.symm ▸ h₂⟩
  | waited _ time ih =>
    obtain ⟨l, hreach, hfollows⟩ := ih
    obtain ⟨l', hreach', hfollows'⟩ := hfollows.wait time
    exact ⟨l', hreach.trans hreach', hfollows'⟩
  | closed _ ih =>
    obtain ⟨l, hreach, hfollows⟩ := ih
    exact ⟨l, hreach, hfollows.panel, hfollows.labels, hfollows.read, hfollows.waiting,
      by simp [Store.coming, Store.close, Bench.stop, Fetcher.stop], .nil⟩

end Live

end ChatGateway.Board
