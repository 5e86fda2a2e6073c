import Mathlib
import ChatGateway.Proofs.Chat.Runtime
import ChatGateway.Proofs.Agenda

/-!
# A timetable is one order of the tasks

A live chat knows in advance what its sources will give and when, and keeps that on an
agenda.  Whatever is done to it can be done by a runtime whose sources may give the same:
an entry of the agenda is something that a task can still do, the entries of one operation
stand in the order in which its task does them, and nothing stands after the last of them.
Letting time pass is letting the tasks do what is due and then reading both channels in the
order of the agenda.
-/

set_option autoImplicit false

namespace ChatGateway

/-- Whether one action may come before another: it does not end the operation that brings
the other. -/
def Action.MayPrecede (a b : Action) : Prop :=
  ∀ op : Operation, op.endedBy a = true → op.brings b = false

/-- An action that ends an operation brings something of it. -/
theorem Operation.brings_of_endedBy {op : Operation} {a : Action} (h : op.endedBy a = true) :
    op.brings a = true := by
  cases a with
  | chunk stream c =>
    rw [endedBy, Bool.and_eq_true] at h
    exact h.2
  | _ => exact h

/-- An action comes of one operation at most. -/
theorem Operation.eq_of_brings {op op' : Operation} {a : Action} (h : op.brings a = true)
    (h' : op'.brings a = true) : op = op' := by
  cases op <;> cases op' <;> cases a <;> simp_all [brings]

/-! ## What a reply passes on over time -/

/-- A reply goes on after what it passes on unless that is terminal. -/
theorem Reply.pass_goesOn {item : Option (Except Failure Chunk)} {c : Chunk}
    (h : (Reply.pass item).1 = some c) : (Reply.pass item).2 = !c.isTerminal := by
  match item with
  | none =>
    obtain rfl := Option.some.inj h
    rfl
  | some (.ok c') =>
    obtain rfl := Option.some.inj h
    rfl
  | some (.error f) =>
    cases hf : f.isCancelled with
    | true => simp [pass, hf] at h
    | false =>
      obtain rfl : Chunk.failed f.describe = c := by simpa [pass, hf] using h
      rfl

/-- A reply that passes nothing on does not go on. -/
theorem Reply.pass_silent {item : Option (Except Failure Chunk)}
    (h : (Reply.pass item).1 = none) : (Reply.pass item).2 = false := by
  match item with
  | none => cases h
  | some (.ok c) => cases h
  | some (.error f) => rfl

/-- Whether a reply passes a chunk on for an item of its source, or for its end. -/
def Reply.CanPass (source : Reply.Source) (c : Chunk) : Prop :=
  ∃ item, (Reply.pass item).1 = some c ∧ ∀ x, item = some x → ∃ i ∈ source, i.result = some x

/-- What a source can pass on it can also pass on after one more item. -/
theorem Reply.CanPass.later {source : Reply.Source} {c : Chunk} (h : CanPass source c)
    (i : FeedItem (Except Failure Chunk)) : CanPass (i :: source) c := by
  obtain ⟨item, hitem, hgiven⟩ := h
  refine ⟨item, hitem, fun x hx => ?_⟩
  obtain ⟨j, hj, hresult⟩ := hgiven x hx
  exact ⟨j, List.mem_cons_of_mem i hj, hresult⟩

/-- A reply passes on what its items give, in the order of time, and nothing after a
terminal chunk. -/
theorem Reply.delivered_timed (start : Nat) (source : Reply.Source) :
    (∀ d ∈ delivered (source.endTime start) (source.timed start),
      start ≤ d.time ∧ CanPass source d.what) ∧
    (delivered (source.endTime start) (source.timed start)).Pairwise fun d e =>
      d.time ≤ e.time ∧ d.what.isTerminal = false := by
  induction source generalizing start with
  | nil =>
    have hnil : delivered (Feed.endTime start ([] : Reply.Source))
        (Feed.timed start ([] : Reply.Source)) = [⟨start, .finished⟩] :=
      delivered_nil (some start)
    rw [hnil]
    refine ⟨?_, List.pairwise_singleton _ _⟩
    intro d hd
    obtain rfl := List.mem_singleton.1 hd
    exact ⟨le_rfl, none, rfl, by simp⟩
  | cons item rest ih =>
    obtain ⟨delay, result⟩ := item
    cases result with
    | none => simp [Feed.timed, Feed.endTime, delivered]
    | some x =>
      obtain ⟨hmem, hpair⟩ := ih (start + delay)
      have hcons : delivered (Feed.endTime start (⟨delay, some x⟩ :: rest))
          (Feed.timed start (⟨delay, some x⟩ :: rest)) =
            ((pass (some x)).1.map fun c => (⟨start + delay, c⟩ : Due Chunk)).toList ++
              if (pass (some x)).2 then
                delivered (Feed.endTime (start + delay) rest) (Feed.timed (start + delay) rest)
              else [] :=
        delivered_cons _ _ _ _
      have hlater : ∀ d ∈ delivered (Feed.endTime (start + delay) rest)
          (Feed.timed (start + delay) rest),
            start ≤ d.time ∧ CanPass (⟨delay, some x⟩ :: rest) d.what := by
        intro d hd
        obtain ⟨htime, hpass⟩ := hmem d hd
        exact ⟨by omega, hpass.later _⟩
      rw [hcons]
      cases hpass : (pass (some x)).1 with
      | none => simp [pass_silent hpass]
      | some c =>
        have hfirst : start ≤ start + delay ∧ CanPass (⟨delay, some x⟩ :: rest) c := by
          refine ⟨by omega, some x, hpass, fun y hy => ?_⟩
          exact ⟨⟨delay, some x⟩, List.mem_cons_self, hy⟩
        cases hterm : c.isTerminal with
        | true =>
          simp only [pass_goesOn hpass, hterm, Bool.not_true, Bool.false_eq_true, ↓reduceIte,
            Option.map_some, Option.toList_some, List.append_nil, List.mem_singleton,
            forall_eq]
          exact ⟨hfirst, List.pairwise_singleton _ _⟩
        | false =>
          simp only [pass_goesOn hpass, hterm, Bool.not_false, ↓reduceIte, Option.map_some,
            Option.toList_some, List.singleton_append]
          refine ⟨List.forall_mem_cons.2 ⟨hfirst, hlater⟩, List.pairwise_cons.2 ⟨?_, hpair⟩⟩
          intro d hd
          exact ⟨(hmem d hd).1, hterm⟩

/-! ## What a live chat can become -/

/-- What a new live chat can become: actions are applied at once or queued, time passes, and
the user is told what there is to tell. -/
inductive LiveChat.Reached (sources : Chat.Sources) (model : String) (thread : Option String)
    (preferences : Option File) : LiveChat → Prop
  | start : Reached sources model thread preferences
      { conversation := .start model thread, preferences := preferences }
  | applied {c : LiveChat} (h : Reached sources model thread preferences c) (a : Action) :
      Reached sources model thread preferences (c.apply sources a)
  | queued {c : LiveChat} (h : Reached sources model thread preferences c)
      (actions : List Action) :
      Reached sources model thread preferences (c.enqueue actions)
  | waited {c : LiveChat} (h : Reached sources model thread preferences c) (time : Nat) :
      Reached sources model thread preferences (c.wait sources time)
  | told {c : LiveChat} (h : Reached sources model thread preferences c) :
      Reached sources model thread preferences
        { c with conversation := c.conversation.takeNotices.2 }

/-- An action that is applied leaves the queue alone. -/
@[simp]
theorem LiveChat.apply_queue (sources : Chat.Sources) (c : LiveChat) (a : Action) :
    (c.apply sources a).queue = c.queue := by
  rcases h : (c.conversation.apply a).command with _ | (_ | _ | _) <;>
    simp [apply, h, execute]

/-- Actions that are applied leave the queue alone. -/
theorem LiveChat.foldl_apply_queue (sources : Chat.Sources) (actions : List Action)
    (c : LiveChat) : (actions.foldl (apply sources) c).queue = c.queue := by
  induction actions generalizing c with
  | nil => rfl
  | cons a actions ih => rw [List.foldl_cons, ih, apply_queue]

/-- Nothing waits in the queue after time has passed. -/
theorem LiveChat.wait_queue (sources : Chat.Sources) (c : LiveChat) (time : Nat) :
    (c.wait sources time).queue = [] := by
  rw [wait, foldl_apply_queue]
  exact foldl_apply_queue sources c.queue { c with queue := [] }

/-! ## The relation -/

/-- Sources that give nothing but what `gives` allows, whatever is asked and whether or not
the reply has been cancelled. -/
def Chat.Sources.Obey (sources : Chat.Sources) (gives : Runtime.Gives) : Prop :=
  ∀ n, ∀ i ∈ sources.replies n, ∀ x, i.result = some x → ∀ request token, gives request token x

namespace Runtime

/-- Whether a task can bring an action next. -/
def Offers (gives : Gives) (r : Runtime) : Action → Prop
  | .chunk stream c =>
    ∃ request item, (stream, request) ∈ r.replies ∧ (Reply.pass item).1 = some c ∧
      ∀ x, item = some x → ∀ token, gives request token x
  | .threadLoaded request thread _ => (request, thread) ∈ r.loads
  | .threadFailed request thread _ => (request, thread) ∈ r.loads
  | _ => False

/-- A runtime whose tasks can do what stands on the agenda of a live chat, in that order. -/
structure Follows (gives : Gives) (c : LiveChat) (r : Runtime) : Prop where
  conversation : r.conversation = c.conversation
  preferences : r.preferences = c.preferences
  offers : ∀ d ∈ c.agenda, r.Offers gives d.what
  ordered : c.agenda.Pairwise fun d e => d.what.MayPrecede e.what
  inOrder : Agenda.InOrder c.agenda
  numbered : ∀ d ∈ c.agenda, ∀ op : Operation, op.brings d.what = true →
    c.conversation.Numbered op

variable {gives : Gives} {r r' : Runtime} {c : LiveChat}

/-- What tasks offer they offer as long as they run. -/
theorem Offers.mono {a : Action} (h : r.Offers gives a)
    (hreplies : ∀ task ∈ r.replies, task ∈ r'.replies)
    (hloads : ∀ task ∈ r.loads, task ∈ r'.loads) : r'.Offers gives a := by
  cases a with
  | chunk stream c =>
    obtain ⟨request, item, hmem, hitem⟩ := h
    exact ⟨request, item, hreplies _ hmem, hitem⟩
  | threadLoaded request thread messages => exact hloads _ h
  | threadFailed request thread failure => exact hloads _ h
  | _ => exact h

/-! ## Applying an action -/

/-- Entries that an operation with a new number brings can be put on the agenda once a task
can do them. -/
theorem Follows.insertAll (h : Follows gives c r) {op : Operation} {ds : List (Due Action)}
    (hnew : ∀ d ∈ c.agenda, op.brings d.what = false) (hop : c.conversation.Numbered op)
    (hbrings : ∀ d ∈ ds, op.brings d.what = true) (hoffers : ∀ d ∈ ds, r.Offers gives d.what)
    (hds : ds.Pairwise fun d e => d.time ≤ e.time ∧ d.what.MayPrecede e.what) :
    Follows gives { c with agenda := c.agenda.insertAll ds } r := by
  refine ⟨h.conversation, h.preferences, ?_, ?_, Agenda.inOrder_insertAll h.inOrder ds, ?_⟩
  · intro d hd
    rcases Agenda.mem_insertAll hd with hd | hd
    · exact h.offers d hd
    · exact hoffers d hd
  · refine Agenda.pairwise_insertAll h.inOrder h.ordered hds ?_ ?_
    · intro e he d hd _ op' hends
      by_contra hb
      obtain rfl := Operation.eq_of_brings (hbrings d hd) (Bool.not_eq_false _ ▸ hb)
      have := Operation.brings_of_endedBy hends
      rw [hnew e he] at this
      cases this
    · intro e he d hd _ op' hends
      obtain rfl := Operation.eq_of_brings (hbrings d hd) (Operation.brings_of_endedBy hends)
      exact hnew e he
  · intro d hd op' hbring
    rcases Agenda.mem_insertAll hd with hd | hd
    · exact h.numbered d hd op' hbring
    · obtain rfl := Operation.eq_of_brings (hbrings d hd) hbring
      exact hop

/-- What is left of the agenda after an action can still be done after it. -/
theorem Follows.kept (h : Follows gives c r) (a : Action) {c' : LiveChat}
    (hconv : c'.conversation = (c.conversation.apply a).conversation)
    (hpref : (r.apply a).preferences = c'.preferences)
    (hagenda : c'.agenda.Sublist c.agenda) : Follows gives c' (r.apply a) := by
  refine ⟨?_, hpref, ?_, h.ordered.sublist hagenda, List.Pairwise.sublist hagenda h.inOrder, ?_⟩
  · rw [apply_conversation, h.conversation, hconv]
  · intro d hd
    exact (h.offers d (hagenda.subset hd)).mono (fun _ => mem_replies_apply r a)
      (fun _ => mem_loads_apply r a)
  · intro d hd op hop
    rw [hconv]
    exact (Conversation.apply_step c.conversation a).numbered
      (h.numbered d (hagenda.subset hd) op hop)

/-- What comes of a reply is what its task can do, in its order. -/
theorem replyActions_spec {sources : Chat.Sources} (obey : sources.Obey gives)
    (now stream n : Nat) {request : ChatRequest} (running : (stream, request) ∈ r.replies) :
    (∀ d ∈ Chat.replyActions now stream (sources.replies n),
      (Operation.stream stream).brings d.what = true ∧ r.Offers gives d.what) ∧
    (Chat.replyActions now stream (sources.replies n)).Pairwise fun d e =>
      d.time ≤ e.time ∧ d.what.MayPrecede e.what := by
  obtain ⟨hmem, hpair⟩ := Reply.delivered_timed now (sources.replies n)
  simp only [Chat.replyActions, Reply.envelopes, List.map_map, List.mem_map, Function.comp,
    List.pairwise_map]
  refine ⟨?_, hpair.imp ?_⟩
  · rintro _ ⟨d, hd, rfl⟩
    obtain ⟨-, item, hitem, hgiven⟩ := hmem d hd
    refine ⟨by simp [Operation.brings], request, item, running, hitem, ?_⟩
    intro x hx token
    obtain ⟨i, hi, hresult⟩ := hgiven x hx
    exact obey n i hi x hresult request token
  · rintro d e ⟨htime, hterm⟩
    refine ⟨htime, fun op hends => ?_⟩
    simp [Operation.endedBy, hterm] at hends

/-- What comes of a load is what its task can do. -/
theorem loadActions_spec (now request : Nat) {thread : String}
    (feed : Feed (Except Failure (List ThreadMessage))) (running : (request, thread) ∈ r.loads) :
    (∀ d ∈ Chat.loadActions now request thread feed,
      (Operation.load request).brings d.what = true ∧ r.Offers gives d.what) ∧
    (Chat.loadActions now request thread feed).Pairwise fun d e =>
      d.time ≤ e.time ∧ d.what.MayPrecede e.what := by
  have hone : ∀ result : Except Failure (List ThreadMessage),
      (Operation.load request).brings (.ofLoad request thread result) = true ∧
        r.Offers gives (.ofLoad request thread result) := by
    intro result
    cases result with
    | ok messages => exact ⟨by simp [Action.ofLoad, Operation.brings], running⟩
    | error f => exact ⟨by simp [Action.ofLoad, Operation.brings], running⟩
  unfold Chat.loadActions
  split
  · exact ⟨by simpa using hone _, List.pairwise_singleton _ _⟩
  · split
    · simp
    · exact ⟨by simpa using hone _, List.pairwise_singleton _ _⟩

/-- The agenda of a live chat without what an action cancels. -/
def remaining (c : LiveChat) (a : Action) : Agenda Action :=
  c.agenda.drop fun b => (c.conversation.apply a).cancelled.any fun op => op.brings b

/-- What remains on the agenda of a live chat was on it before. -/
theorem remaining_sublist (c : LiveChat) (a : Action) : (remaining c a).Sublist c.agenda :=
  List.filter_sublist

/-- An action that starts an operation puts what its task can do on the agenda. -/
theorem Follows.opened (h : Follows gives c r) {a : Action} {command : Command} {op : Operation}
    (hc : (c.conversation.apply a).command = some command) (hopens : command.opens = some op)
    {ds : List (Due Action)}
    (hmem : ∀ d ∈ ds, op.brings d.what = true ∧ (r.apply a).Offers gives d.what)
    (hds : ds.Pairwise fun d e => d.time ≤ e.time ∧ d.what.MayPrecede e.what) :
    Follows gives
      { c with
        conversation := (c.conversation.apply a).conversation
        agenda := (remaining c a).insertAll ds } (r.apply a) := by
  have hfresh := (Conversation.apply_step c.conversation a).numbered_opens
    (show (c.conversation.apply a).command.bind Command.opens = some op by rw [hc]; exact hopens)
  have hpref : (r.apply a).preferences = c.preferences := by
    have hr : (r.conversation.apply a).command = some command := by rw [h.conversation, hc]
    cases command with
    | remember thread => cases hopens
    | _ => simp [Runtime.apply, hr, execute, h.preferences]
  have hkept : Follows gives
      { c with
        conversation := (c.conversation.apply a).conversation
        agenda := remaining c a } (r.apply a) :=
    h.kept a rfl hpref (remaining_sublist c a)
  -- what is kept on the agenda comes of operations with numbers given out before
  have hnew : ∀ d ∈ remaining c a, op.brings d.what = false := by
    intro d hd
    by_contra hb
    exact hfresh.1 (h.numbered d ((remaining_sublist c a).subset hd) op (by simpa using hb))
  exact hkept.insertAll hnew hfresh.2 (fun d hd => (hmem d hd).1) (fun d hd => (hmem d hd).2) hds

/-- Applying an action to a live chat is applying it to the runtime. -/
theorem Follows.apply (h : Follows gives c r) {sources : Chat.Sources}
    (obey : sources.Obey gives) (a : Action) :
    Follows gives (c.apply sources a) (r.apply a) := by
  cases hc : (c.conversation.apply a).command with
  | none =>
    have hr : (r.conversation.apply a).command = none := by rw [h.conversation, hc]
    simp only [LiveChat.apply, hc]
    exact h.kept a rfl (by simp [Runtime.apply, hr, h.preferences]) (remaining_sublist c a)
  | some command =>
    have hr : (r.conversation.apply a).command = some command := by rw [h.conversation, hc]
    simp only [LiveChat.apply, hc]
    cases command with
    | remember thread =>
      exact h.kept a rfl
        (by simp [Runtime.apply, hr, execute, LiveChat.execute, h.preferences])
        (remaining_sublist c a)
    | openStream stream request =>
      have hrunning : (stream, request) ∈ (r.apply a).replies := by
        simp [Runtime.apply, hr, execute]
      obtain ⟨hmem, hpair⟩ := replyActions_spec obey c.now stream c.replies hrunning
      have hopen := h.opened hc rfl hmem hpair
      exact ⟨hopen.conversation, hopen.preferences, hopen.offers, hopen.ordered, hopen.inOrder,
        hopen.numbered⟩
    | loadThread request thread =>
      have hrunning : (request, thread) ∈ (r.apply a).loads := by
        simp [Runtime.apply, hr, execute]
      obtain ⟨hmem, hpair⟩ :=
        @loadActions_spec gives (r.apply a) c.now request thread (sources.threads thread) hrunning
      have hopen := h.opened hc rfl hmem hpair
      exact ⟨hopen.conversation, hopen.preferences, hopen.offers, hopen.ordered, hopen.inOrder,
        hopen.numbered⟩

/-! ## Letting tasks do what is due -/

/-- What a reply puts on its channel to bring an action. -/
def envelope? : Action → Option Reply.Envelope
  | .chunk stream c => some ⟨stream, c⟩
  | _ => none

/-- What a load puts on the channel of actions. -/
def outcome? : Action → Option Action
  | .threadLoaded request thread messages => some (.threadLoaded request thread messages)
  | .threadFailed request thread failure => some (.threadFailed request thread failure)
  | _ => none

/-- What other tasks can do stays possible when the task of an operation is over. -/
theorem Offers.of_over {b : Action} (h : r.Offers gives b) {op : Operation}
    (hother : op.brings b = false)
    (hreplies : ∀ task ∈ r.replies, op ≠ .stream task.1 → task ∈ r'.replies)
    (hloads : ∀ task ∈ r.loads, op ≠ .load task.1 → task ∈ r'.loads) : r'.Offers gives b := by
  cases b with
  | chunk stream c =>
    obtain ⟨request, item, hmem, hitem⟩ := h
    refine ⟨request, item, hreplies _ hmem ?_, hitem⟩
    rintro rfl
    simp [Operation.brings] at hother
  | threadLoaded request thread messages =>
    refine hloads _ h ?_
    rintro rfl
    simp [Operation.brings] at hother
  | threadFailed request thread failure =>
    refine hloads _ h ?_
    rintro rfl
    simp [Operation.brings] at hother
  | _ => exact h

/-- What other tasks offer they offer after a reply was forwarded too. -/
theorem Offers.forward {b : Action} (h : r.Offers gives b) {stream : Nat}
    {item : Option (Except Failure Chunk)} {c : Chunk} (hitem : (Reply.pass item).1 = some c)
    (hother : c.isTerminal = true → (Operation.stream stream).brings b = false) :
    (r.forward stream item).Offers gives b := by
  have hgoes := Reply.pass_goesOn hitem
  cases hterm : c.isTerminal with
  | false =>
    refine h.mono (fun task htask => ?_) (fun task htask => ?_)
    · rw [forward_replies, hgoes, hterm]
      exact htask
    · rw [forward_loads]
      exact htask
  | true =>
    refine h.of_over (hother hterm) (fun task htask hne => ?_) (fun task htask _ => ?_)
    · rw [forward_replies, hgoes, hterm]
      exact List.mem_filter.2 ⟨htask, decide_eq_true fun heq => hne (by rw [heq])⟩
    · rw [forward_loads]
      exact htask

/-- What other tasks offer they offer after a load is over too. -/
theorem Offers.finishLoad {b : Action} (h : r.Offers gives b) {request : Nat}
    (hother : (Operation.load request).brings b = false) (thread : String)
    (result : Except Failure (List ThreadMessage)) :
    (r.finishLoad request thread result).Offers gives b := by
  refine h.of_over hother (fun task htask _ => htask) (fun task htask hne => ?_)
  exact List.mem_filter.2 ⟨htask, decide_eq_true fun heq => hne (by rw [heq])⟩

/-- The task of the first entry of the agenda does it. -/
theorem Follows.step_first {d : Due Action} {rest : Agenda Action}
    (h : Follows gives { c with agenda := d :: rest } r) :
    ∃ r', Step gives r r' ∧ r'.chunks = r.chunks ++ (envelope? d.what).toList ∧
      r'.actions = r.actions ++ (outcome? d.what).toList ∧
      Follows gives { c with agenda := rest } r' := by
  obtain ⟨hfirst, hrest⟩ := List.pairwise_cons.1 h.ordered
  have hinOrder := (List.pairwise_cons.1 h.inOrder).2
  have hnumbered := fun e he => h.numbered e (List.mem_cons_of_mem d he)
  have hoffers : ∀ e ∈ rest, r.Offers gives e.what := fun e he =>
    h.offers e (List.mem_cons_of_mem d he)
  have hoffer := h.offers d List.mem_cons_self
  obtain ⟨time, a⟩ := d
  have hload : ∀ (request : Nat) (thread : String) (result : Except Failure (List ThreadMessage)),
      a = .ofLoad request thread result →
        Follows gives { c with agenda := rest } (r.finishLoad request thread result) := by
    rintro request thread result rfl
    have hends : (Operation.load request).endedBy (.ofLoad request thread result) = true := by
      cases result <;> simp [Action.ofLoad, Operation.endedBy, Operation.brings]
    refine ⟨h.conversation, h.preferences, fun e he => ?_, hrest, hinOrder, hnumbered⟩
    exact (hoffers e he).finishLoad (hfirst e he _ hends) thread result
  cases a with
  | chunk stream ch =>
    obtain ⟨request, item, hrunning, hitem, hgiven⟩ := hoffer
    refine ⟨r.forward stream item, ?_, ?_, ?_, ?_⟩
    · cases item with
      | none => exact .replyEnd hrunning
      | some x => exact .replyItem hrunning (hgiven x rfl _)
    · rw [forward_chunks, hitem]
      rfl
    · simp [outcome?]
    · refine ⟨?_, ?_, fun e he => ?_, hrest, hinOrder, hnumbered⟩
      · rw [forward_conversation]
        exact h.conversation
      · rw [forward_preferences]
        exact h.preferences
      · refine (hoffers e he).forward hitem fun hterm => hfirst e he _ ?_
        simp [Operation.endedBy, Operation.brings, hterm]
  | threadLoaded request thread messages =>
    exact ⟨_, .loadEnd hoffer (some (.ok messages)), by simp [finishLoad, envelope?], rfl,
      hload request thread (.ok messages) rfl⟩
  | threadFailed request thread failure =>
    exact ⟨_, .loadEnd hoffer (some (.error failure)), by simp [finishLoad, envelope?], rfl,
      hload request thread (.error failure) rfl⟩
  | _ => exact hoffer.elim

/-- The tasks do what is first on the agenda, and leave it on their channels. -/
theorem Follows.reaches_due {due rest : Agenda Action}
    (h : Follows gives { c with agenda := due ++ rest } r) :
    ∃ r', Reaches gives r r' ∧
      r'.chunks = r.chunks ++ (due.map Due.what).filterMap envelope? ∧
      r'.actions = r.actions ++ (due.map Due.what).filterMap outcome? ∧
      Follows gives { c with agenda := rest } r' := by
  induction due generalizing r with
  | nil => exact ⟨r, .refl, by simp, by simp, h⟩
  | cons d due ih =>
    obtain ⟨r₁, hstep, hchunks, hactions, h₁⟩ := h.step_first
    obtain ⟨r₂, hreach, hchunks', hactions', h₂⟩ := ih h₁
    refine ⟨r₂, .head hstep hreach, ?_, ?_, h₂⟩
    · rw [hchunks', hchunks, List.append_assoc, List.map_cons, List.filterMap_cons]
      cases envelope? d.what <;> rfl
    · rw [hactions', hactions, List.append_assoc, List.map_cons, List.filterMap_cons]
      cases outcome? d.what <;> rfl

/-! ## Reading the channels -/

/-- Popping the channels does not touch the tasks. -/
theorem Follows.popped (h : Follows gives c r) (chunks : List Reply.Envelope)
    (actions : List Action) :
    Follows gives c { r with chunks := chunks, actions := actions } :=
  ⟨h.conversation, h.preferences, fun d hd => (h.offers d hd).mono (fun _ => id) (fun _ => id),
    h.ordered, h.inOrder, h.numbered⟩

/-- Queued actions are read one by one. -/
theorem Follows.reaches_queue (h : Follows gives c r) {sources : Chat.Sources}
    (obey : sources.Obey gives) {queue : List Action} (hactions : r.actions = queue)
    (hchunks : r.chunks = []) :
    ∃ r', Reaches gives r r' ∧ r'.actions = [] ∧ r'.chunks = [] ∧
      Follows gives (queue.foldl (LiveChat.apply sources) c) r' := by
  induction queue generalizing c r with
  | nil => exact ⟨r, .refl, hactions, hchunks, h⟩
  | cons a queue ih =>
    have happly := (h.popped r.chunks queue).apply obey a
    obtain ⟨r', hreach, hdone⟩ := ih happly (by simp) (by simpa using hchunks)
    exact ⟨r', .head (.readAction hactions) hreach, hdone⟩

/-- What a task can bring goes through its channel. -/
theorem Offers.channel {a : Action} (h : r.Offers gives a) :
    (∃ stream ch, a = .chunk stream ch) ∨ (envelope? a = none ∧ outcome? a = some a) := by
  cases a with
  | chunk stream ch => exact .inl ⟨stream, ch, rfl⟩
  | threadLoaded request thread messages => exact .inr ⟨rfl, rfl⟩
  | threadFailed request thread failure => exact .inr ⟨rfl, rfl⟩
  | _ => exact h.elim

/-- What tasks have left on their channels is read in the order of the agenda. -/
theorem Follows.reaches_read (h : Follows gives c r) {sources : Chat.Sources}
    (obey : sources.Obey gives) {ts : List Action}
    (hchannel : ∀ a ∈ ts, (∃ stream ch, a = .chunk stream ch) ∨
      (envelope? a = none ∧ outcome? a = some a))
    (hchunks : r.chunks = ts.filterMap envelope?)
    (hactions : r.actions = ts.filterMap outcome?) :
    ∃ r', Reaches gives r r' ∧ r'.actions = [] ∧ r'.chunks = [] ∧
      Follows gives (ts.foldl (LiveChat.apply sources) c) r' := by
  induction ts generalizing c r with
  | nil => exact ⟨r, .refl, hactions, hchunks, h⟩
  | cons a ts ih =>
    obtain ⟨hfirst, hrest⟩ := List.forall_mem_cons.1 hchannel
    rcases hfirst with ⟨stream, ch, rfl⟩ | ⟨hnone, hsome⟩
    · have happly := (h.popped (ts.filterMap envelope?) r.actions).apply obey (.chunk stream ch)
      have hread : r.chunks = ⟨stream, ch⟩ :: ts.filterMap envelope? := hchunks
      rw [List.filterMap_cons_none (show outcome? (.chunk stream ch) = none from rfl)] at hactions
      obtain ⟨r', hreach, hdone⟩ := ih happly hrest (by simp) (by simpa using hactions)
      exact ⟨r', .head (.readChunk hread) hreach, hdone⟩
    · have happly := (h.popped r.chunks (ts.filterMap outcome?)).apply obey a
      rw [List.filterMap_cons_none hnone] at hchunks
      rw [List.filterMap_cons_some hsome] at hactions
      obtain ⟨r', hreach, hdone⟩ := ih happly hrest (by simpa using hchunks) (by simp)
      exact ⟨r', .head (.readAction hactions) hreach, hdone⟩

/-! ## What is done to a live chat -/

/-- Following a live chat is following one with the same conversation, preferences and
agenda. -/
theorem Follows.of_eq (h : Follows gives c r) {c' : LiveChat}
    (hconversation : c'.conversation = c.conversation)
    (hpreferences : c'.preferences = c.preferences) (hagenda : c'.agenda = c.agenda) :
    Follows gives c' r where
  conversation := by rw [hconversation, h.conversation]
  preferences := by rw [hpreferences, h.preferences]
  offers := by rw [hagenda]; exact h.offers
  ordered := by rw [hagenda]; exact h.ordered
  inOrder := by rw [hagenda]; exact h.inOrder
  numbered := by rw [hagenda, hconversation]; exact h.numbered

/-- Letting time pass is reading the queue, letting the tasks do what is due and reading
what they leave on the channels. -/
theorem Follows.wait (h : Follows gives c r) {sources : Chat.Sources}
    (obey : sources.Obey gives) (hactions : r.actions = c.queue) (hchunks : r.chunks = [])
    (time : Nat) :
    ∃ r', Reaches gives r r' ∧ r'.actions = [] ∧ r'.chunks = [] ∧
      Follows gives (c.wait sources time) r' := by
  have hstart : Follows gives { c with queue := [] } r := h.of_eq rfl rfl rfl
  obtain ⟨r₁, hreach₁, hactions₁, hchunks₁, h₁⟩ := hstart.reaches_queue obey hactions hchunks
  rw [← LiveChat.handleQueue] at h₁
  rw [LiveChat.wait]
  generalize c.handleQueue sources = c₁ at h₁ ⊢
  let limit := c₁.now + time
  let due := c₁.agenda.takeWhile fun d => d.time ≤ limit
  let rest := c₁.agenda.dropWhile fun d => d.time ≤ limit
  have hsplit : c₁.agenda = due ++ rest := List.takeWhile_append_dropWhile.symm
  -- the tasks do what is due before anything of it is read
  have hdue : Follows gives { c₁ with agenda := due ++ rest } r₁ := h₁.of_eq rfl rfl hsplit.symm
  obtain ⟨r₂, hreach₂, hchunks₂, hactions₂, h₂⟩ := hdue.reaches_due
  have hchannel : ∀ a ∈ due.map Due.what, (∃ stream ch, a = .chunk stream ch) ∨
      (envelope? a = none ∧ outcome? a = some a) := by
    intro a ha
    obtain ⟨d, hd, rfl⟩ := List.mem_map.1 ha
    exact (hdue.offers d (List.mem_append_left rest hd)).channel
  have hlater : Follows gives { c₁ with agenda := rest, now := limit } r₂ :=
    h₂.of_eq rfl rfl rfl
  rw [hchunks₁, List.nil_append] at hchunks₂
  rw [hactions₁, List.nil_append] at hactions₂
  obtain ⟨r₃, hreach₃, hactions₃, hchunks₃, h₃⟩ :=
    hlater.reaches_read obey hchannel hchunks₂ hactions₂
  exact ⟨r₃, (hreach₁.trans hreach₂).trans hreach₃, hactions₃, hchunks₃, h₃⟩

/-- The user is told the notices of a live chat. -/
theorem Follows.told (h : Follows gives c r) :
    Follows gives { c with conversation := c.conversation.takeNotices.2 }
      { r with conversation := r.conversation.takeNotices.2 } where
  conversation := by rw [h.conversation]
  preferences := h.preferences
  offers := fun d hd => (h.offers d hd).mono (fun _ => id) (fun _ => id)
  ordered := h.ordered
  inOrder := h.inOrder
  numbered := fun d hd op hop => by
    have hnum := h.numbered d hd op hop
    cases op <;> exact hnum

/-- Actions are put on their channel one by one. -/
theorem reaches_dispatched (gives : Gives) (r : Runtime) (actions : List Action) :
    Reaches gives r { r with actions := r.actions ++ actions } := by
  induction actions generalizing r with
  | nil => rw [List.append_nil]; exact .refl
  | cons a actions ih =>
    have hrest := ih { r with actions := r.actions ++ [a] }
    rw [List.append_assoc, List.singleton_append] at hrest
    exact .head (.dispatched a) hrest

/-- Whatever a live chat becomes, a runtime reaches the same conversation and preferences,
with the queue on its channel of actions and nothing on its channel of chunks. -/
theorem exists_follows {sources : Chat.Sources} (obey : sources.Obey gives) {model : String}
    {thread : Option String} {preferences : Option File}
    (h : LiveChat.Reached sources model thread preferences c) :
    ∃ r, Reaches gives (start model thread preferences) r ∧ Follows gives c r ∧
      r.actions = c.queue ∧ r.chunks = [] := by
  induction h with
  | start =>
    refine ⟨_, .refl, ⟨rfl, rfl, ?_, ?_, ?_, ?_⟩, rfl, rfl⟩ <;> simp [Agenda.InOrder]
  | applied _ a ih =>
    obtain ⟨r, hreach, hfollows, hactions, hchunks⟩ := ih
    refine ⟨r.apply a, hreach.tail (.applied a), hfollows.apply obey a, ?_, ?_⟩
    · rw [apply_actions, hactions, LiveChat.apply_queue]
    · rw [apply_chunks, hchunks]
  | queued _ actions ih =>
    obtain ⟨r, hreach, hfollows, hactions, hchunks⟩ := ih
    refine ⟨_, hreach.trans (reaches_dispatched gives r actions), ?_, ?_, hchunks⟩
    · exact (hfollows.popped r.chunks (r.actions ++ actions)).of_eq rfl rfl rfl
    · simp [hactions, LiveChat.enqueue]
  | waited _ time ih =>
    obtain ⟨r, hreach, hfollows, hactions, hchunks⟩ := ih
    obtain ⟨r', hreach', hactions', hchunks', hfollows'⟩ :=
      hfollows.wait obey hactions hchunks time
    exact ⟨r', hreach.trans hreach', hfollows', by rw [hactions', LiveChat.wait_queue], hchunks'⟩
  | told _ ih =>
    obtain ⟨r, hreach, hfollows, hactions, hchunks⟩ := ih
    exact ⟨_, hreach.tail .told, hfollows.told, hactions, hchunks⟩

end Runtime

end ChatGateway
