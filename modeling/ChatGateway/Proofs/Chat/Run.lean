import Mathlib
import ChatGateway.Chat.Conversation
import ChatGateway.Proofs.Chat.Transcript

/-!
# Runs of a conversation

What one action can do is said once, by the rules of `Conversation.Step`, and
`apply_step` is the only place where the definition of `apply` is opened.  From the rules
come the invariants that every run keeps: a reply is written into a message exactly while
a stream is current, no stream is current while a thread is loaded, and numbers are never
given out twice.
-/

set_option autoImplicit false

namespace ChatGateway.Conversation

/-- The conversation after some actions. -/
def run (s : Conversation) (actions : List Action) : Conversation :=
  actions.foldl (fun s a => (s.apply a).conversation) s

/-- Without actions nothing happens. -/
@[simp]
theorem run_nil (s : Conversation) : s.run [] = s := rfl

/-- A run starts with its first action. -/
@[simp]
theorem run_cons (s : Conversation) (a : Action) (actions : List Action) :
    s.run (a :: actions) = (s.apply a).conversation.run actions := rfl

/-- Actions are applied one after another. -/
theorem run_append (s : Conversation) (before after : List Action) :
    s.run (before ++ after) = (s.run before).run after := by
  simp [run]

/-! ## What one action can do -/

/-- The conversation after its thread `request` has failed to load. -/
def failLoad (s : Conversation) (thread : String) (failure : Failure) : Conversation :=
  { s with
    load := none
    notices :=
      if failure.isCancelled then s.notices
      else s.notices ++ ["Failed to load thread " ++ thread ++ ": " ++ failure.describe] }

/-- The conversation after the messages of a thread have come. -/
def takeHistory (s : Conversation) (thread : String) (messages : List ThreadMessage) :
    Conversation :=
  { s with
    transcript := { messages := messages.filterMap ThreadMessage.toMessage? }
    thread := some thread
    load := none }

/-- The rules of a conversation: what an action leads to, case by case. -/
inductive Step (s : Conversation) : Action → Outcome → Prop
  /-- A blank message is ignored. -/
  | blank {content : String} (blank : Text.trim content = "") :
      Step s (.submit content) { conversation := s }
  | send {content : String} (given : Text.trim content ≠ "") :
      Step s (.submit content) (s.send (Text.trim content))
  /-- A chunk of a reply that is not current is dropped. -/
  | stale {stream : Nat} {c : Chunk}
      (stale : s.stream ≠ some stream ∨ s.transcript.streaming = none) :
      Step s (.chunk stream c) { conversation := s }
  | receive {stream : Nat} {id : String} {c : Chunk} (current : s.stream = some stream)
      (streaming : s.transcript.streaming = some id) :
      Step s (.chunk stream c) (s.receive id c)
  | cancel : Step s .cancel s.cancelStream
  | selectThread {thread : String} :
      Step s (.selectThread thread)
        { conversation :=
            { s.cancelAll.conversation with load := some (s.lastLoad + 1), lastLoad := s.lastLoad + 1 }
          command := some (.loadThread (s.lastLoad + 1) thread)
          cancelled := s.current }
  | loaded {request : Nat} {thread : String} {messages : List ThreadMessage}
      (current : s.load = some request) :
      Step s (.threadLoaded request thread messages)
        { conversation := s.takeHistory thread messages
          command := some (.remember (some thread)) }
  /-- The messages of a thread that is no longer wanted are dropped. -/
  | lateLoad {request : Nat} {thread : String} {messages : List ThreadMessage}
      (late : s.load ≠ some request) :
      Step s (.threadLoaded request thread messages) { conversation := s }
  | failed {request : Nat} {thread : String} {failure : Failure}
      (current : s.load = some request) :
      Step s (.threadFailed request thread failure)
        { conversation := s.failLoad thread failure }
  /-- The failure of a thread that is no longer wanted is dropped. -/
  | lateFailure {request : Nat} {thread : String} {failure : Failure}
      (late : s.load ≠ some request) :
      Step s (.threadFailed request thread failure) { conversation := s }
  | newThread :
      Step s .newThread
        { conversation := { s.cancelAll.conversation with transcript := {}, thread := none }
          command := some (.remember none)
          cancelled := s.current }

/-- Every action follows the rules. -/
theorem apply_step (s : Conversation) (a : Action) : Step s a (s.apply a) := by
  cases a with
  | submit content =>
    by_cases h : Text.trim content = ""
    · simpa [apply, h] using Step.blank (s := s) h
    · simpa [apply, h] using Step.send (s := s) h
  | chunk stream c =>
    cases hid : s.transcript.streaming with
    | none => simpa [apply, hid] using @Step.stale s stream c (.inr hid)
    | some id =>
      by_cases h : s.stream = some stream
      · simpa [apply, hid, h] using Step.receive (c := c) h hid
      · simpa [apply, hid, h] using Step.stale (c := c) (.inl h)
  | cancel => exact .cancel
  | selectThread thread => exact .selectThread
  | threadLoaded request thread messages =>
    by_cases h : s.load = some request
    · simpa [apply, h, takeHistory] using @Step.loaded s request thread messages h
    · simpa [apply, h] using @Step.lateLoad s request thread messages h
  | threadFailed request thread failure =>
    by_cases h : s.load = some request
    · simpa [apply, h, failLoad] using @Step.failed s request thread failure h
    · simpa [apply, h] using @Step.lateFailure s request thread failure h
  | newThread => exact .newThread

/-- One more action at the end of a run. -/
theorem run_concat (s : Conversation) (actions : List Action) (a : Action) :
    s.run (actions ++ [a]) = ((s.run actions).apply a).conversation := by
  rw [run_append, run_cons, run_nil]

/-! ## Receiving a chunk -/

section receive

variable (s : Conversation) (id : String) (c : Chunk)

/-- The conversation after a chunk: the thread that the chunk names, if any, is taken
over, and a terminal chunk leaves no reply current. -/
theorem receive_conversation :
    (s.receive id c).conversation =
      { s with
        transcript := (s.transcript.reduce id c).transcript
        thread := (s.transcript.reduce id c).thread.or s.thread
        stream := if c.isTerminal then none else s.stream
        notices := s.notices ++ (s.transcript.reduce id c).notice.toList } := by
  cases hr : (s.transcript.reduce id c).thread with
  | none => simp [receive, hr]
  | some thread =>
    by_cases h : s.thread = some thread
    · simp [receive, hr, h]
    · simp [receive, hr, h]

/-- A chunk cancels nothing. -/
@[simp]
theorem receive_cancelled : (s.receive id c).cancelled = [] := by
  cases hr : (s.transcript.reduce id c).thread with
  | none => simp [receive, hr]
  | some thread =>
    by_cases h : s.thread = some thread
    · simp [receive, hr, h]
    · simp [receive, hr, h]

/-- A chunk is folded into the transcript. -/
@[simp]
theorem receive_transcript :
    (s.receive id c).conversation.transcript = (s.transcript.reduce id c).transcript := by
  rw [receive_conversation]

/-- A terminal chunk ends the reply. -/
@[simp]
theorem receive_stream :
    (s.receive id c).conversation.stream = if c.isTerminal then none else s.stream := by
  rw [receive_conversation]

/-- A chunk leaves the load alone. -/
@[simp]
theorem receive_load : (s.receive id c).conversation.load = s.load := by
  rw [receive_conversation]

/-- A chunk starts no reply. -/
@[simp]
theorem receive_lastStream : (s.receive id c).conversation.lastStream = s.lastStream := by
  rw [receive_conversation]

/-- A chunk starts no load. -/
@[simp]
theorem receive_lastLoad : (s.receive id c).conversation.lastLoad = s.lastLoad := by
  rw [receive_conversation]

/-- A chunk gives out no name. -/
@[simp]
theorem receive_lastLocal : (s.receive id c).conversation.lastLocal = s.lastLocal := by
  rw [receive_conversation]

end receive

/-! ## The slots of a conversation -/

/-- What holds of the slots of a conversation after every run. -/
structure WellFormed (s : Conversation) : Prop where
  /-- A reply is current exactly while a message receives one. -/
  streaming_iff : s.transcript.streaming.isSome = true ↔ s.stream.isSome = true
  /-- No reply is current while a thread is loaded. -/
  exclusive : s.stream = none ∨ s.load = none
  /-- There is no task without a reply. -/
  task_idle : s.stream = none → s.transcript.task = none
  stream_le : ∀ k, s.stream = some k → k ≤ s.lastStream
  load_le : ∀ r, s.load = some r → r ≤ s.lastLoad

/-- A new conversation is well formed. -/
theorem wellFormed_start (model : String) (thread : Option String) :
    WellFormed (start model thread) where
  streaming_iff := by simp [start]
  exclusive := .inl rfl
  task_idle := fun _ => rfl
  stream_le := by simp [start]
  load_le := by simp [start]

namespace WellFormed

variable {s : Conversation}

/-- The message that receives the reply, when there is a current one. -/
theorem streaming_of_stream (h : WellFormed s) {k : Nat} (hk : s.stream = some k) :
    ∃ id, s.transcript.streaming = some id := by
  have hs : s.transcript.streaming.isSome = true := h.streaming_iff.2 (by rw [hk]; rfl)
  exact Option.isSome_iff_exists.1 hs

/-- Nothing is loaded while a reply is current. -/
theorem load_of_stream (h : WellFormed s) {k : Nat} (hk : s.stream = some k) :
    s.load = none := by
  rcases h.exclusive with hs | hl
  · rw [hk] at hs
    cases hs
  · exact hl

/-- A conversation is busy exactly while one of its slots is taken. -/
theorem isBusy_iff (h : WellFormed s) :
    s.isBusy = true ↔ (∃ k, s.stream = some k) ∨ ∃ r, s.load = some r := by
  rw [isBusy, isLoading, Transcript.isStreaming, Bool.or_eq_true, h.streaming_iff,
    Option.isSome_iff_exists, Option.isSome_iff_exists]

/-- Stopping the reply and the load leaves both slots free. -/
theorem idle (s' : Conversation) (hstream : s'.stream = none) (hload : s'.load = none)
    (hstreaming : s'.transcript.streaming = none) (htask : s'.transcript.task = none) :
    WellFormed s' where
  streaming_iff := by simp [hstream, hstreaming]
  exclusive := .inl hstream
  task_idle := fun _ => htask
  stream_le := by simp [hstream]
  load_le := by simp [hload]

/-- Every step keeps the slots in order. -/
theorem step (h : WellFormed s) {a : Action} {o : Outcome} (hstep : Step s a o) :
    WellFormed o.conversation := by
  cases hstep with
  | blank => exact h
  | stale => exact h
  | lateLoad => exact h
  | lateFailure => exact h
  | send =>
    exact
      { streaming_iff := by simp [send]
        exclusive := .inr rfl
        task_idle := fun _ => rfl
        stream_le := by simp [send]
        load_le := by simp [send] }
  | @receive stream id c current streaming =>
    have hload := h.load_of_stream current
    cases hc : c.isTerminal with
    | true =>
      refine idle _ (by simp [hc]) (by simp [hload]) (by simp [hc]) ?_
      simpa using Transcript.reduce_task_of_isTerminal s.transcript id c hc
    | false =>
      exact
        { streaming_iff := by simp [hc, current, streaming]
          exclusive := .inr (by simp [hload])
          task_idle := by simp [hc, current]
          stream_le := by simpa [hc] using h.stream_le
          load_le := by simp [hload] }
  | cancel =>
    exact
      { streaming_iff := by simp [cancelStream, Transcript.idle]
        exclusive := .inl rfl
        task_idle := fun _ => rfl
        stream_le := by simp [cancelStream]
        load_le := h.load_le }
  | selectThread =>
    exact
      { streaming_iff := by simp [cancelAll, Transcript.idle]
        exclusive := .inl rfl
        task_idle := fun _ => rfl
        stream_le := by simp [cancelAll]
        load_le := by simp }
  | loaded current =>
    -- the thread took the slot of the load, so no reply was current
    have hstream : s.stream = none := by
      rcases h.exclusive with hs | hl
      · exact hs
      · rw [current] at hl
        cases hl
    exact idle _ hstream rfl rfl rfl
  | failed current =>
    exact
      { streaming_iff := h.streaming_iff
        exclusive := .inr rfl
        task_idle := h.task_idle
        stream_le := h.stream_le
        load_le := by simp [failLoad] }
  | newThread => exact idle _ rfl rfl rfl rfl

/-- Every run keeps the slots in order. -/
theorem run (h : WellFormed s) (actions : List Action) : WellFormed (s.run actions) := by
  induction actions generalizing s with
  | nil => exact h
  | cons a rest ih => exact ih (h.step (apply_step s a))

end WellFormed

end ChatGateway.Conversation
