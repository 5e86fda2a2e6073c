import Mathlib
import ChatGateway.Proofs.Chat.Silence
import ChatGateway.Proofs.Chat.Tokens

/-!
# A load that fails

Opening a stored thread stops the reply and waits for the messages of the thread.  While the
conversation waits, what is late or idle leaves no trace (`Awaiting.apply_eq`), however much of
it comes (`Awaiting.undisturbed`).  So when the load fails, the messages shown, the thread and the
model are those from before it was asked for (`failed_load_restores`).
-/

set_option autoImplicit false

namespace ChatGateway

/-- Whether an action has nothing to do for a conversation that waits for the load `request`:
it stops a reply, sends a blank message, or brings something from another operation. -/
def Action.isIdle (request : Nat) : Action → Bool
  | .cancel => true
  | .submit content => Text.trim content = ""
  | .chunk _ _ => true
  | .threadLoaded other _ _ => other ≠ request
  | .threadFailed other _ _ => other ≠ request
  | .selectThread _ => false
  | .newThread => false

namespace Conversation

/-- A load is under way and no reply is. -/
structure Awaiting (s : Conversation) (request : Nat) : Prop where
  load : s.load = some request
  stream : s.stream = none
  idle : s.transcript.idle = s.transcript

namespace Awaiting

variable {s : Conversation} {request : Nat}

/-- A thread that was selected is waited for, and nothing else is. -/
theorem selectThread (s : Conversation) (thread : String) :
    Awaiting (s.apply (.selectThread thread)).conversation (s.lastLoad + 1) where
  load := rfl
  stream := rfl
  idle := rfl

/-- What is idle is answered by nothing and changes nothing. -/
theorem apply_eq (h : Awaiting s request) {a : Action} (idle : a.isIdle request = true) :
    s.apply a = { conversation := s } := by
  have hstream : ∀ k, .stream k ∉ s.current := by
    intro k
    simp [h.stream]
  have hload : ∀ other, other ≠ request → .load other ∉ s.current := by
    intro other hne
    simpa [h.load] using hne.symm
  cases a with
  | cancel =>
    have hsame : { s with stream := none, transcript := s.transcript.idle } = s := by
      rw [h.idle, ← h.stream]
    simp [apply, cancelStream, hsame, h.stream]
  | submit content =>
    have hblank : Text.trim content = "" := by simpa [Action.isIdle] using idle
    simp [apply, hblank]
  | chunk stream c => exact apply_of_not_current (hstream stream) (by simp [Operation.brings])
  | threadLoaded other thread messages | threadFailed other thread failure =>
    have hne : other ≠ request := by simpa [Action.isIdle] using idle
    exact apply_of_not_current (hload other hne) (by simp [Operation.brings])
  | selectThread thread => cases idle
  | newThread => cases idle

/-- However much of what is idle comes: every action of it is answered by nothing. -/
theorem undisturbed (h : Awaiting s request) {late : List Action}
    (idle : ∀ a ∈ late, a.isIdle request = true) :
    s.after (late.map .act) = s ∧ s.cancelledIn (late.map .act) = [] ∧
      s.record (late.map .act) = late.map fun a => (.act a, { conversation := s }) := by
  induction late with
  | nil => exact ⟨rfl, rfl, rfl⟩
  | cons a late ih =>
    obtain ⟨hafter, hcancelled, hrecord⟩ := ih fun b hb => idle b (List.mem_cons_of_mem a hb)
    have htake : s.take (.act a) = { conversation := s } := by
      simp [Conversation.take, h.apply_eq (idle a List.mem_cons_self)]
    rw [List.map_cons, List.map_cons, after_cons, cancelledIn, record, htake]
    exact ⟨hafter, hcancelled, congrArg _ hrecord⟩

/-- The failure that is waited for ends the waiting. -/
theorem take_failed (h : Awaiting s request) (thread : String) (failure : Failure) :
    s.take (.act (.threadFailed request thread failure)) =
      { conversation := s.failLoad thread failure } := by
  simp [Conversation.take, apply, h.load, failLoad]

end Awaiting

/-- Opening a stored thread, whatever is idle, and the failure of the load. -/
def failedLoad (request : Nat) (thread : String) (late : List Action) (named : String)
    (failure : Failure) : List Turn :=
  .act (.selectThread thread) ::
    (late.map .act ++ [.act (.threadFailed request named failure)])

section failedLoad

variable {s : Conversation} {request : Nat} {late : List Action}
  (issued : request = s.lastLoad + 1) (idle : ∀ a ∈ late, a.isIdle request = true)
  (thread named : String) (failure : Failure)

include issued idle

/-- A load that fails after some late actions leaves what it leaves without them. -/
theorem after_failedLoad :
    s.after (failedLoad request thread late named failure) =
      (s.apply (.selectThread thread)).conversation.failLoad named failure := by
  subst issued
  have hwait := Awaiting.selectThread s thread
  show (s.apply (.selectThread thread)).conversation.after _ = _
  rw [after_append, (hwait.undisturbed idle).1, after_cons, after_nil, hwait.take_failed]

/-- Only the operations that the selection replaces are cancelled. -/
theorem cancelledIn_failedLoad :
    s.cancelledIn (failedLoad request thread late named failure) = s.current := by
  subst issued
  have hwait := Awaiting.selectThread s thread
  obtain ⟨hafter, hcancelled, -⟩ := hwait.undisturbed idle
  show s.current ++ (s.apply (.selectThread thread)).conversation.cancelledIn _ = _
  rw [cancelledIn_append, hafter, hcancelled, cancelledIn, hwait.take_failed]
  simp [cancelledIn]

/-- After the thread has been asked for, nothing else is. -/
theorem command_failedLoad :
    ∀ e ∈ (s.record (failedLoad request thread late named failure)).tail, e.2.command = none := by
  subst issued
  have hwait := Awaiting.selectThread s thread
  obtain ⟨hafter, -, hrecord⟩ := hwait.undisturbed idle
  intro e he
  change e ∈ (s.apply (.selectThread thread)).conversation.record _ at he
  rw [record_append, hafter, hrecord, record, hwait.take_failed, List.mem_append] at he
  rcases he with he | he
  · obtain ⟨a, -, rfl⟩ := List.mem_map.1 he
    rfl
  · obtain rfl := List.mem_singleton.1 he
    rfl

end failedLoad

/-- A load that fails restores the view.  After any turns of a new conversation a stored thread
is asked for; late and idle actions follow, and then the load fails, under whatever name of the
thread and for whatever reason.  The messages, the thread and the model are those from before,
no reply is received and nothing is under way.  The user has one more notice to be told, or none
if the load was cancelled; the load itself is not given up, and nothing was asked for besides
it. -/
theorem failed_load_restores {model : String} {first : Option String} {history : List Turn}
    {thread : String} {request : Nat}
    (issued : (((start model first).after history).apply (.selectThread thread)).command =
      some (.loadThread request thread))
    {late : List Action} (idle : ∀ a ∈ late, a.isIdle request = true) (named : String)
    (failure : Failure) :
    let s := (start model first).after history
    let turns := failedLoad request thread late named failure
    let c := s.after turns
    c.transcript.messages = s.transcript.messages ∧ c.thread = s.thread ∧ c.model = s.model ∧
    c.transcript.streaming = none ∧ c.transcript.task = none ∧ c.isBusy = false ∧
    c.notices = s.notices ++
      (if failure = .cancelled then []
        else ["Failed to load thread " ++ named ++ ": " ++ failure.describe]) ∧
    .load request ∉ (start model first).cancelledIn (history ++ turns) ∧
    ∀ e ∈ (s.record turns).tail, e.2.command = none := by
  intro s turns c
  have hwf : WellFormed s := (wellFormed_start model first).after history
  have hrequest : request = s.lastLoad + 1 := by
    have hcommand : some (Command.loadThread (s.lastLoad + 1) thread) =
        some (.loadThread request thread) := issued
    simpa using hcommand.symm
  have hafter : c = (s.apply (.selectThread thread)).conversation.failLoad named failure :=
    after_failedLoad hrequest idle thread named failure
  clear_value c
  subst hafter
  refine ⟨rfl, rfl, rfl, rfl, rfl, rfl, ?_, ?_,
    command_failedLoad hrequest idle thread named failure⟩
  · -- the notices are kept while the thread is asked for
    have hnotices : (s.apply (.selectThread thread)).conversation.notices = s.notices := rfl
    by_cases h : failure = .cancelled <;> simp [failLoad, Failure.isCancelled, h, hnotices]
  · -- the number is new, so neither an earlier turn nor this one can have given it up
    have hnew : ¬ s.Numbered (.load request) := by
      rw [hrequest]
      exact Nat.not_succ_le_self _
    rw [cancelledIn_append, List.mem_append, not_or, cancelledIn_failedLoad hrequest idle]
    exact ⟨fun hmem => hnew (numbered_of_cancelledIn (wellFormed_start model first) hmem),
      fun hmem => hnew (hwf.numbered hmem)⟩

/-- A reply has failed, and the next one is under way. -/
def replyUnderWay : List Turn :=
  [.act (.submit "hi"), .act (.chunk 1 (.error none)), .act (.submit "again"),
    .act (.chunk 2 (.delta "Par"))]

/-- What comes late of that reply and of another load, a second stop and a blank message. -/
def lateAndIdle : List Action :=
  [.chunk 2 (.delta "tial"), .cancel, .submit "  ", .chunk 2 (.error none), .threadLoaded 7 "u" []]

/-- The reply that was under way is given up, and its end in time or late changes nothing. -/
theorem failed_load_restores_replyUnderWay :
    let s := (start "m" none).after replyUnderWay
    let c := s.after (failedLoad 1 "t" lateAndIdle "t" (.unknown "not found"))
    (s.apply (.selectThread "t")).command = some (.loadThread 1 "t") ∧
    (∀ a ∈ lateAndIdle, a.isIdle 1 = true) ∧
    c.transcript.messages = s.transcript.messages ∧
    c.notices = [unknownReplyError, "Failed to load thread t: not found"] := by
  intro s c
  have issued : (s.apply (.selectThread "t")).command = some (.loadThread 1 "t") := by
    decide +kernel
  have idle : ∀ a ∈ lateAndIdle, a.isIdle 1 = true := by decide +kernel
  obtain ⟨hmessages, -, -, -, -, -, hnotices, -⟩ :=
    failed_load_restores issued idle "t" (.unknown "not found")
  exact ⟨issued, idle, hmessages, hnotices.trans (by decide +kernel)⟩

end Conversation

end ChatGateway
