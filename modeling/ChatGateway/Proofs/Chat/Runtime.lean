import Mathlib
import ChatGateway.Proofs.Chat.Operations

/-!
# A conversation among its tasks

A live chat follows one timetable.  Here the same conversation runs among tasks that
advance in any order.  Each reply and each load is a task with a token that can be
cancelled.  Replies put their chunks on one channel; loads, and whoever else acts on the
conversation, put actions on another.  Either channel may be read first.

The rules of `Runtime.Step` say what can happen next.  What a source gives to a reply is
not fixed: it is any relation between a request, the state of the token and an item.  The
invariant is that an answer is pending for every current operation: its task still runs
under a token that is not cancelled, or its last word waits on a channel.
-/

set_option autoImplicit false

namespace ChatGateway

/-! ## One item of a reply -/

/-- What a reply passes on when its source gives an item or ends, and whether the reply
goes on after it. -/
def Reply.pass : Option (Except Failure Chunk) → Option Chunk × Bool
  | none => (some .finished, false)
  | some (.ok c) => (some c, !c.isTerminal)
  | some (.error f) => (if f.isCancelled then none else some (.failed f.describe), false)

/-- A reply whose source ends closes with what it passes on for the end. -/
theorem Reply.delivered_nil (closing : Option Nat) :
    Reply.delivered closing [] =
      closing.toList.flatMap fun time => ((Reply.pass none).1.map fun c => ⟨time, c⟩).toList := by
  cases closing <;> rfl

/-- The chunks of a reply are what it passes on item by item, as long as it goes on. -/
theorem Reply.delivered_cons (closing : Option Nat) (time : Nat) (item : Except Failure Chunk)
    (rest : List (Nat × Except Failure Chunk)) :
    Reply.delivered closing ((time, item) :: rest) =
      ((Reply.pass (some item)).1.map fun c => (⟨time, c⟩ : Due Chunk)).toList ++
        if (Reply.pass (some item)).2 then Reply.delivered closing rest else [] := by
  cases item with
  | ok c => cases h : c.isTerminal <;> simp [delivered, pass, h]
  | error f => cases h : f.isCancelled <;> simp [delivered, pass, h]

/-- A reply that does not go on has passed a terminal chunk on, unless its source told it
that it was cancelled. -/
theorem Reply.pass_terminal {item : Option (Except Failure Chunk)}
    (stops : (Reply.pass item).2 = false)
    (given : ∀ f, item = some (.error f) → f.isCancelled = false) :
    ∃ c, (Reply.pass item).1 = some c ∧ c.isTerminal = true := by
  match item with
  | none => exact ⟨.finished, rfl, rfl⟩
  | some (.ok c) => exact ⟨c, rfl, by simpa [pass] using stops⟩
  | some (.error f) => exact ⟨.failed f.describe, by simp [pass, given f rfl], rfl⟩

/-! ## Tasks and channels -/

/-- A conversation with its tasks and channels. -/
structure Runtime where
  conversation : Conversation
  /-- The operations whose tokens are cancelled. -/
  cancelled : List Operation := []
  /-- The replies that are being received, with what was asked. -/
  replies : List (Nat × ChatRequest) := []
  /-- The loads under way, with their threads. -/
  loads : List (Nat × String) := []
  /-- The channel of the replies. -/
  chunks : List Reply.Envelope := []
  /-- The channel of actions. -/
  actions : List Action := []
  /-- The file of preferences, if one is kept. -/
  preferences : Option File := none

namespace Runtime

/-- A new conversation without tasks. -/
def start (model : String) (thread : Option String) (preferences : Option File) : Runtime where
  conversation := .start model thread
  preferences := preferences

/-- Carries a command out. -/
def execute (r : Runtime) : Command → Runtime
  | .openStream stream request => { r with replies := r.replies ++ [(stream, request)] }
  | .loadThread request thread => { r with loads := r.loads ++ [(request, thread)] }
  | .remember thread =>
    { r with
      preferences := r.preferences.map fun f =>
        (Preferences.update none (fun p => { p with thread := thread }) f).2 }

/-- Applies an action and carries out the command that it leads to. -/
def apply (r : Runtime) (a : Action) : Runtime :=
  let o := r.conversation.apply a
  let r : Runtime :=
    { r with conversation := o.conversation, cancelled := r.cancelled ++ o.cancelled }
  match o.command with
  | none => r
  | some command => r.execute command

/-- The task of a reply is over. -/
def endReply (r : Runtime) (stream : Nat) : Runtime :=
  { r with replies := r.replies.filter fun task => task.1 ≠ stream }

/-- The task of a reply takes an item of its source, or its end, and passes it on. -/
def forward (r : Runtime) (stream : Nat) (item : Option (Except Failure Chunk)) : Runtime :=
  let (chunk, goesOn) := Reply.pass item
  let r : Runtime :=
    { r with chunks := r.chunks ++ (chunk.map fun c => ⟨stream, c⟩).toList }
  if goesOn then r else r.endReply stream

/-- The task of a load is over and hands its result on. -/
def finishLoad (r : Runtime) (request : Nat) (thread : String)
    (result : Except Failure (List ThreadMessage)) : Runtime :=
  { r with
    loads := r.loads.filter fun task => task.1 ≠ request
    actions := r.actions ++ [.ofLoad request thread result] }

/-- What sources may give to a reply that was asked for by a request, depending on whether
its token is cancelled. -/
abbrev Gives := ChatRequest → Bool → Except Failure Chunk → Prop

/-- What can happen next. -/
inductive Step (gives : Gives) (r : Runtime) : Runtime → Prop
  /-- An action is applied at once. -/
  | applied (a : Action) : Step gives r (r.apply a)
  /-- An action is put on its channel. -/
  | dispatched (a : Action) : Step gives r { r with actions := r.actions ++ [a] }
  /-- The user is told what there is to tell. -/
  | told : Step gives r { r with conversation := r.conversation.takeNotices.2 }
  | readChunk {e : Reply.Envelope} {rest : List Reply.Envelope} (first : r.chunks = e :: rest) :
      Step gives r ({ r with chunks := rest }.apply (.chunk e.stream e.chunk))
  | readAction {a : Action} {rest : List Action} (first : r.actions = a :: rest) :
      Step gives r ({ r with actions := rest }.apply a)
  | replyItem {stream : Nat} {request : ChatRequest} {item : Except Failure Chunk}
      (running : (stream, request) ∈ r.replies)
      (given : gives request (decide (.stream stream ∈ r.cancelled)) item) :
      Step gives r (r.forward stream (some item))
  | replyEnd {stream : Nat} {request : ChatRequest} (running : (stream, request) ∈ r.replies) :
      Step gives r (r.forward stream none)
  /-- A reply whose token is cancelled stops in silence. -/
  | replyStopped {stream : Nat} {request : ChatRequest}
      (running : (stream, request) ∈ r.replies) (stopped : .stream stream ∈ r.cancelled) :
      Step gives r (r.endReply stream)
  /-- A load has its result, or its source ends without one. -/
  | loadEnd {request : Nat} {thread : String} (running : (request, thread) ∈ r.loads)
      (result : Option (Except Failure (List ThreadMessage))) :
      Step gives r (r.finishLoad request thread (result.getD (.error .emptyResponse)))
  | loadStopped {request : Nat} {thread : String} (running : (request, thread) ∈ r.loads)
      (stopped : .load request ∈ r.cancelled) :
      Step gives r (r.finishLoad request thread (.error .cancelled))

/-- What can be reached from a runtime. -/
def Reaches (gives : Gives) : Runtime → Runtime → Prop :=
  Relation.ReflTransGen (Step gives)

/-! ## Pending answers -/

/-- Whether the task of an operation is running. -/
def Running (r : Runtime) : Operation → Prop
  | .stream k => ∃ request, (k, request) ∈ r.replies
  | .load q => ∃ thread, (q, thread) ∈ r.loads

/-- Whether the last word of an operation waits on its channel. -/
def Answered (r : Runtime) : Operation → Prop
  | .stream k => ∃ e ∈ r.chunks, e.stream = k ∧ e.chunk.isTerminal = true
  | .load q => ∃ a ∈ r.actions, (Operation.load q).brings a = true

/-- Whether an answer of an operation is still to come. -/
def Pending (r : Runtime) (op : Operation) : Prop :=
  (r.Running op ∧ op ∉ r.cancelled) ∨ r.Answered op

/-- An answer of every current operation is pending, and only numbers that were given out
are cancelled. -/
structure Answering (r : Runtime) : Prop where
  wellFormed : r.conversation.WellFormed
  pending : ∀ op ∈ r.conversation.current, r.Pending op
  numbered : ∀ op ∈ r.cancelled, r.conversation.Numbered op

/-! ### What the operations of a runtime change -/

section frame

variable (r : Runtime)

/-- A runtime applies an action to its conversation. -/
@[simp]
theorem apply_conversation (a : Action) :
    (r.apply a).conversation = (r.conversation.apply a).conversation := by
  rcases h : (r.conversation.apply a).command with _ | (_ | _ | _) <;> simp [apply, h, execute]

/-- What an action gives up is cancelled. -/
@[simp]
theorem apply_cancelled (a : Action) :
    (r.apply a).cancelled = r.cancelled ++ (r.conversation.apply a).cancelled := by
  rcases h : (r.conversation.apply a).command with _ | (_ | _ | _) <;> simp [apply, h, execute]

/-- Applying an action leaves the channel of chunks alone. -/
@[simp]
theorem apply_chunks (a : Action) : (r.apply a).chunks = r.chunks := by
  rcases h : (r.conversation.apply a).command with _ | (_ | _ | _) <;> simp [apply, h, execute]

/-- Applying an action leaves the channel of actions alone. -/
@[simp]
theorem apply_actions (a : Action) : (r.apply a).actions = r.actions := by
  rcases h : (r.conversation.apply a).command with _ | (_ | _ | _) <;> simp [apply, h, execute]

/-- Applying an action puts nothing on a channel. -/
theorem answered_apply (a : Action) (op : Operation) :
    (r.apply a).Answered op ↔ r.Answered op := by
  cases op <;> simp [Answered]

/-- Applying an action ends no reply. -/
theorem mem_replies_apply (a : Action) {task : Nat × ChatRequest} (h : task ∈ r.replies) :
    task ∈ (r.apply a).replies := by
  rcases hc : (r.conversation.apply a).command with _ | (_ | _ | _) <;>
    simp [apply, hc, execute, h]

/-- Applying an action ends no load. -/
theorem mem_loads_apply (a : Action) {task : Nat × String} (h : task ∈ r.loads) :
    task ∈ (r.apply a).loads := by
  rcases hc : (r.conversation.apply a).command with _ | (_ | _ | _) <;>
    simp [apply, hc, execute, h]

/-- Applying an action stops no task. -/
theorem Running.apply {op : Operation} (h : r.Running op) (a : Action) :
    (r.apply a).Running op := by
  cases op with
  | stream k =>
    obtain ⟨request, hmem⟩ := h
    exact ⟨request, mem_replies_apply r a hmem⟩
  | load q =>
    obtain ⟨thread, hmem⟩ := h
    exact ⟨thread, mem_loads_apply r a hmem⟩

/-- The operation that a command starts is running afterwards. -/
theorem running_opened {a : Action} {op : Operation}
    (h : (r.conversation.apply a).command.bind Command.opens = some op) :
    (r.apply a).Running op := by
  cases hc : (r.conversation.apply a).command with
  | none => simp [hc] at h
  | some command =>
    cases command with
    | openStream stream request =>
      obtain rfl : Operation.stream stream = op := by simpa [hc, Command.opens] using h
      exact ⟨request, by simp [Runtime.apply, hc, execute]⟩
    | loadThread request thread =>
      obtain rfl : Operation.load request = op := by simpa [hc, Command.opens] using h
      exact ⟨thread, by simp [Runtime.apply, hc, execute]⟩
    | remember thread => simp [hc, Command.opens] at h

variable (stream : Nat) (item : Option (Except Failure Chunk))

/-- The task of a reply leaves the conversation alone. -/
@[simp]
theorem forward_conversation : (r.forward stream item).conversation = r.conversation := by
  cases h : (Reply.pass item).2 <;> simp [forward, h, endReply]

/-- The task of a reply cancels nothing. -/
@[simp]
theorem forward_cancelled : (r.forward stream item).cancelled = r.cancelled := by
  cases h : (Reply.pass item).2 <;> simp [forward, h, endReply]

/-- The task of a reply leaves the file alone. -/
@[simp]
theorem forward_preferences : (r.forward stream item).preferences = r.preferences := by
  cases h : (Reply.pass item).2 <;> simp [forward, h, endReply]

/-- The task of a reply puts on the channel what the item is passed on as. -/
theorem forward_chunks :
    (r.forward stream item).chunks =
      r.chunks ++ ((Reply.pass item).1.map fun c => (⟨stream, c⟩ : Reply.Envelope)).toList := by
  cases h : (Reply.pass item).2 <;> simp [forward, h, endReply]

/-- The task of a reply goes on or ends, and others stay. -/
theorem forward_replies :
    (r.forward stream item).replies =
      if (Reply.pass item).2 then r.replies
      else r.replies.filter fun task => task.1 ≠ stream := by
  cases h : (Reply.pass item).2 <;> simp [forward, h, endReply]

/-- The task of a reply leaves the loads alone. -/
@[simp]
theorem forward_loads : (r.forward stream item).loads = r.loads := by
  cases h : (Reply.pass item).2 <;> simp [forward, h, endReply]

/-- The task of a reply leaves the channel of actions alone. -/
@[simp]
theorem forward_actions : (r.forward stream item).actions = r.actions := by
  cases h : (Reply.pass item).2 <;> simp [forward, h, endReply]

end frame

/-! ### The invariant -/

/-- A new runtime has no answer to wait for. -/
theorem answering_start (model : String) (thread : Option String) (preferences : Option File) :
    Answering (start model thread preferences) where
  wellFormed := Conversation.wellFormed_start model thread
  pending := by simp [start, Conversation.start, Conversation.current]
  numbered := by simp [start]

namespace Answering

variable {r : Runtime}

/-- An action keeps the answers pending that it is not itself.  The runtime it is applied
to may already be without it. -/
theorem apply {a : Action} (wellFormed : r.conversation.WellFormed)
    (pending : ∀ op ∈ r.conversation.current, r.Pending op ∨ op.endedBy a = true)
    (numbered : ∀ op ∈ r.cancelled, r.conversation.Numbered op) :
    Answering (r.apply a) := by
  have hstep := Conversation.apply_step r.conversation a
  refine ⟨?_, ?_, ?_⟩
  · rw [apply_conversation]
    exact wellFormed.step hstep
  · intro op hop
    rw [apply_conversation] at hop
    rcases hstep.current_after wellFormed hop with ⟨hcur, hkept, hends⟩ | ⟨hopens, hnew⟩
    · rcases pending op hcur with (⟨hrun, hnot⟩ | hans) | hend
      · refine .inl ⟨hrun.apply r a, ?_⟩
        simp [hnot, hkept]
      · exact .inr ((answered_apply r a op).2 hans)
      · rw [hends] at hend
        cases hend
    · -- a new number cannot be among those that are cancelled
      refine .inl ⟨running_opened r hopens, ?_⟩
      rw [apply_cancelled, List.mem_append]
      rintro (hc | hc)
      · exact hnew (numbered op hc)
      · exact hnew (wellFormed.numbered (hstep.cancelled_current hc))
  · intro op hop
    rw [apply_cancelled, List.mem_append] at hop
    rw [apply_conversation]
    rcases hop with hc | hc
    · exact hstep.numbered (numbered op hc)
    · exact hstep.numbered (wellFormed.numbered (hstep.cancelled_current hc))

/-- A runtime that differs only in its tasks and channels keeps the invariant when it keeps
what is pending. -/
theorem of_pending (h : Answering r) {r' : Runtime} (hconv : r'.conversation = r.conversation)
    (hcanc : r'.cancelled = r.cancelled)
    (keeps : ∀ op, r.Pending op → r'.Pending op) : Answering r' where
  wellFormed := hconv ▸ h.wellFormed
  pending := fun op hop => keeps op (h.pending op (hconv ▸ hop))
  numbered := fun op hop => hconv ▸ h.numbered op (hcanc ▸ hop)

/-- What a reply passes on keeps its answer pending: it goes on, or it has passed a
terminal chunk on. -/
theorem forward (h : Answering r) {stream : Nat} {item : Option (Except Failure Chunk)}
    (given : .stream stream ∉ r.cancelled →
      ∀ f, item = some (.error f) → f.isCancelled = false) :
    Answering (r.forward stream item) := by
  refine h.of_pending (forward_conversation ..) (forward_cancelled ..) ?_
  rintro (k | q) (⟨hrun, hnot⟩ | hans)
  · obtain ⟨request, hmem⟩ := hrun
    by_cases hk : k = stream
    · subst hk
      cases hgoes : (Reply.pass item).2 with
      | true =>
        refine .inl ⟨⟨request, ?_⟩, by simpa using hnot⟩
        simpa [forward_replies, hgoes] using hmem
      | false =>
        obtain ⟨c, hc, hterm⟩ := Reply.pass_terminal hgoes (given hnot)
        refine .inr ⟨⟨k, c⟩, ?_, rfl, hterm⟩
        simp [forward_chunks, hc]
    · refine .inl ⟨⟨request, ?_⟩, by simpa using hnot⟩
      rw [forward_replies]
      split
      · exact hmem
      · exact List.mem_filter.2 ⟨hmem, by simpa using hk⟩
  · obtain ⟨e, he, hk, hterm⟩ := hans
    exact .inr ⟨e, by simp [forward_chunks, he], hk, hterm⟩
  · exact .inl ⟨by simpa [Running] using hrun, by simpa using hnot⟩
  · exact .inr (by simpa [Answered] using hans)

/-- A reply that stops because it was cancelled is not current any more. -/
theorem endReply (h : Answering r) {stream : Nat} (stopped : .stream stream ∈ r.cancelled) :
    Answering (r.endReply stream) := by
  refine h.of_pending rfl rfl ?_
  rintro (k | q) (⟨hrun, hnot⟩ | hans)
  · obtain ⟨request, hmem⟩ := hrun
    have hk : k ≠ stream := by
      rintro rfl
      exact hnot stopped
    exact .inl ⟨⟨request, List.mem_filter.2 ⟨hmem, by simpa using hk⟩⟩, hnot⟩
  · exact .inr hans
  · exact .inl ⟨hrun, hnot⟩
  · exact .inr hans

/-- The result of a load, whatever it is, is an answer. -/
theorem finishLoad (h : Answering r) (request : Nat) (thread : String)
    (result : Except Failure (List ThreadMessage)) :
    Answering (r.finishLoad request thread result) := by
  refine h.of_pending rfl rfl ?_
  rintro (k | q) (⟨hrun, hnot⟩ | hans)
  · exact .inl ⟨hrun, hnot⟩
  · exact .inr hans
  · obtain ⟨name, hmem⟩ := hrun
    by_cases hq : q = request
    · subst hq
      refine .inr ⟨.ofLoad q thread result, by simp [Runtime.finishLoad], ?_⟩
      cases result <;> simp [Action.ofLoad, Operation.brings]
    · exact .inl ⟨⟨name, List.mem_filter.2 ⟨hmem, by simpa using hq⟩⟩, hnot⟩
  · obtain ⟨a, ha, hbrings⟩ := hans
    exact .inr ⟨a, List.mem_append_left _ ha, hbrings⟩

/-- Reading a chunk keeps the answers pending: the only one it takes off the channel is
applied. -/
theorem readChunk (h : Answering r) {e : Reply.Envelope} {rest : List Reply.Envelope}
    (first : r.chunks = e :: rest) :
    Answering ({ r with chunks := rest }.apply (.chunk e.stream e.chunk)) := by
  refine apply h.wellFormed ?_ h.numbered
  intro op hop
  rcases h.pending op hop with hrun | hans
  · exact .inl (.inl hrun)
  · cases op with
    | load q => exact .inl (.inr hans)
    | stream k =>
      obtain ⟨e', he', hk, hterm⟩ := hans
      rw [first, List.mem_cons] at he'
      rcases he' with rfl | hrest
      · exact .inr (by simp [Operation.endedBy, Operation.brings, hk, hterm])
      · exact .inl (.inr ⟨e', hrest, hk, hterm⟩)

/-- Reading an action keeps the answers pending. -/
theorem readAction (h : Answering r) {a : Action} {rest : List Action}
    (first : r.actions = a :: rest) : Answering ({ r with actions := rest }.apply a) := by
  refine apply h.wellFormed ?_ h.numbered
  intro op hop
  rcases h.pending op hop with hrun | hans
  · exact .inl (.inl hrun)
  · cases op with
    | stream k => exact .inl (.inr hans)
    | load q =>
      obtain ⟨a', ha', hbrings⟩ := hans
      rw [first, List.mem_cons] at ha'
      rcases ha' with rfl | hrest
      · right
        cases a' <;> simp_all [Operation.endedBy, Operation.brings]
      · exact .inl (.inr ⟨a', hrest, hbrings⟩)

/-- Every step keeps the answers pending, if no source says of itself that it was
cancelled. -/
theorem step {gives : Gives}
    (honest : ∀ request f, gives request false (.error f) → f.isCancelled = false)
    (h : Answering r) {r' : Runtime} (hstep : Step gives r r') : Answering r' := by
  cases hstep with
  | applied a => exact apply h.wellFormed (fun op hop => .inl (h.pending op hop)) h.numbered
  | dispatched a =>
    refine h.of_pending rfl rfl ?_
    rintro (k | q) (hrun | hans)
    · exact .inl hrun
    · exact .inr hans
    · exact .inl hrun
    · obtain ⟨b, hb, hbrings⟩ := hans
      exact .inr ⟨b, List.mem_append_left _ hb, hbrings⟩
  | told =>
    exact
      { wellFormed :=
          { streaming_iff := h.wellFormed.streaming_iff
            exclusive := h.wellFormed.exclusive
            task_idle := h.wellFormed.task_idle
            stream_le := h.wellFormed.stream_le
            load_le := h.wellFormed.load_le }
        pending := h.pending
        numbered := fun op hop => by cases op <;> exact h.numbered _ hop }
  | readChunk first => exact h.readChunk first
  | readAction first => exact h.readAction first
  | @replyItem stream request item running given =>
    refine h.forward fun hnot f hf => honest request f ?_
    obtain rfl := Option.some.inj hf
    simpa [hnot] using given
  | replyEnd running => exact h.forward (by simp)
  | replyStopped running stopped => exact h.endReply stopped
  | loadEnd running result => exact h.finishLoad _ _ _
  | loadStopped running stopped => exact h.finishLoad _ _ _

/-- Every runtime that is reached has its answers pending. -/
theorem reached {gives : Gives}
    (honest : ∀ request f, gives request false (.error f) → f.isCancelled = false)
    (h : Answering r) {r' : Runtime} (hr : Reaches gives r r') : Answering r' := by
  induction hr with
  | refl => exact h
  | tail _ hstep ih => exact ih.step honest hstep

end Answering

/-- Busy means that an answer is pending.  In every runtime that is reached from a new
conversation, by actions, tasks and reads in any order, a current reply either runs under a
token that is not cancelled or has its terminal chunk waiting, and a current load either
runs under such a token or has its outcome waiting.  So a busy runtime never has both
channels empty and no task. -/
theorem answer_pending {gives : Gives}
    (honest : ∀ request f, gives request false (.error f) → f.isCancelled = false)
    {model : String} {thread : Option String} {preferences : Option File} {r : Runtime}
    (reached : Reaches gives (start model thread preferences) r) :
    (∀ k, r.conversation.stream = some k →
      ((∃ request, (k, request) ∈ r.replies) ∧ .stream k ∉ r.cancelled) ∨
        ∃ e ∈ r.chunks, e.stream = k ∧ e.chunk.isTerminal = true) ∧
    (∀ q, r.conversation.load = some q →
      ((∃ name, (q, name) ∈ r.loads) ∧ .load q ∉ r.cancelled) ∨
        ∃ a ∈ r.actions, (Operation.load q).brings a = true) ∧
    ¬ (r.conversation.isBusy = true ∧ r.chunks = [] ∧ r.actions = [] ∧
        r.replies = [] ∧ r.loads = []) := by
  have h := (answering_start model thread preferences).reached honest reached
  have hstream : ∀ k, r.conversation.stream = some k → r.Pending (.stream k) := fun k hk =>
    h.pending _ ((Conversation.stream_mem_current _ k).2 hk)
  have hload : ∀ q, r.conversation.load = some q → r.Pending (.load q) := fun q hq =>
    h.pending _ ((Conversation.load_mem_current _ q).2 hq)
  refine ⟨hstream, hload, ?_⟩
  rintro ⟨hbusy, hchunks, hactions, hreplies, hloads⟩
  rcases h.wellFormed.isBusy_iff.1 hbusy with ⟨k, hk⟩ | ⟨q, hq⟩
  · rcases hstream k hk with ⟨⟨request, hmem⟩, _⟩ | ⟨e, he, _⟩
    · simp [hreplies] at hmem
    · simp [hchunks] at he
  · rcases hload q hq with ⟨⟨name, hmem⟩, _⟩ | ⟨a, ha, _⟩
    · simp [hloads] at hmem
    · simp [hactions] at ha

/-- A runtime whose reply is over and whose last chunk has not been read. -/
def unread : Runtime :=
  ((start "small" none none).apply (.submit "hi")).forward 1 (some (.ok .finished))

/-- The unread runtime is busy, no task of it runs, and its terminal chunk is waiting. -/
theorem answer_pending_unread :
    unread.conversation.stream = some 1 ∧ unread.replies = [] ∧
      ∃ e ∈ unread.chunks, e.stream = 1 ∧ e.chunk.isTerminal = true := by
  have hstream : unread.conversation.stream = some 1 := by decide +kernel
  have hreplies : unread.replies = [] := by decide +kernel
  have hreached : Reaches (fun _ token item => token = false → item ≠ .error .cancelled)
      (start "small" none none) unread := by
    have hrunning : (1, ⟨"small", [⟨"user", "hi"⟩], none⟩) ∈
        ((start "small" none none).apply (.submit "hi")).replies := by decide +kernel
    exact (Relation.ReflTransGen.single (.applied _)).tail
      (.replyItem hrunning fun _ => by simp)
  refine ⟨hstream, hreplies, ?_⟩
  have honest : ∀ (request : ChatRequest) (f : Failure),
      (false = false → (.error f : Except Failure Chunk) ≠ .error .cancelled) →
        f.isCancelled = false := by
    intro request f hf
    simpa [Failure.isCancelled] using hf rfl
  rcases (answer_pending honest hreached).1 1 hstream with ⟨⟨request, hmem⟩, _⟩ | h
  · simp [hreplies] at hmem
  · exact h

end Runtime

end ChatGateway
