import Mathlib
import ChatGateway.Proofs.Chat.Tokens

/-!
# What the user is told

The user is told of failures: of an error that a reply ends with, and of a load that fails
without having been cancelled.  An operation that is not current has nothing to tell.  Each
turn either hands out what is queued or adds what its action owes (`take_notices_eq`), so over
any turns what has been told and what is still queued are together what was owed, in order
(`notices_delivered`).
-/

set_option autoImplicit false

namespace ChatGateway

/-- The words for an error that a reply ends with: its own as they are, unless it has none or only
blanks. -/
def wordsOfError (message : Option String) : String :=
  (message.filter fun text => text.toList.any fun c => !Text.isBlank c).getD
    "Something went wrong while generating a response."

/-- What an action says has failed, and the words for it. -/
def Action.complaint : Action → Option (Operation × String)
  | .chunk stream (.error message) => some (.stream stream, wordsOfError message)
  | .threadFailed request thread failure =>
    if failure = .cancelled then none
    else some (.load request, "Failed to load thread " ++ thread ++ ": " ++ failure.describe)
  | _ => none

/-- What a turn says has failed. -/
def Turn.complaint : Turn → Option (Operation × String)
  | .act a => a.complaint
  | .tell => none

namespace Conversation

/-- What the user is owed for a turn: its complaint, if the operation is current. -/
def dueAt (s : Conversation) (t : Turn) : Option (Operation × String) :=
  t.complaint.filter fun e => e.1 ∈ s.current

/-- What the user is owed for some turns, in order. -/
def owed (s : Conversation) : List Turn → List (Operation × String)
  | [] => []
  | t :: rest => (s.dueAt t).toList ++ (s.take t).conversation.owed rest

/-- What the user is told in some turns, in order. -/
def toldIn (s : Conversation) : List Turn → List String
  | [] => []
  | t :: rest => (s.take t).told ++ (s.take t).conversation.toldIn rest

/-! ## Complaints -/

/-- The transcript has these words for an error. -/
theorem errorNotice_eq (message : Option String) :
    Transcript.errorNotice message = wordsOfError message := by
  cases message with
  | none => rfl
  | some text =>
    have hblank : (text.toList.any fun c => !Text.isBlank c) = !Text.isBlankText text :=
      List.not_all_eq_any_not.symm
    rw [Transcript.errorNotice, wordsOfError, Option.filter_some, hblank]
    cases Text.isBlankText text <;> rfl

/-- A complaint is about an error that a reply ends with, or about a load that failed. -/
theorem complaint_cases {a : Action} {e : Operation × String} (h : a.complaint = some e) :
    (∃ stream message, a = .chunk stream (.error message) ∧
      e = (.stream stream, wordsOfError message)) ∨
    (∃ request thread failure, a = .threadFailed request thread failure ∧ failure ≠ .cancelled ∧
      e = (.load request, "Failed to load thread " ++ thread ++ ": " ++ failure.describe)) := by
  unfold Action.complaint at h
  split at h
  · rename_i stream message
    exact .inl ⟨stream, message, rfl, (Option.some.inj h).symm⟩
  · rename_i request thread failure
    split at h
    · cases h
    · rename_i hne
      exact .inr ⟨request, thread, failure, rfl, hne, (Option.some.inj h).symm⟩
  · cases h

/-- The words of a complaint are never blank. -/
theorem complaint_not_blank {t : Turn} {e : Operation × String} (h : t.complaint = some e) :
    Text.isBlankText e.2 = false := by
  cases t with
  | tell => cases h
  | act a =>
    rcases complaint_cases h with ⟨stream, message, -, rfl⟩ | ⟨request, thread, failure, -, -, rfl⟩
    · exact errorNotice_eq message ▸ Transcript.errorNotice_not_blank message
    · simp [Text.isBlankText, Text.isBlank]

/-! ## One turn -/

section turn

variable {s : Conversation}

/-- A complaint about a current operation is owed. -/
theorem dueAt_of_current {t : Turn} {e : Operation × String} (h : t.complaint = some e)
    (current : e.1 ∈ s.current) : s.dueAt t = some e := by
  simp [dueAt, h, current]

/-- A complaint about any other operation is not. -/
theorem dueAt_of_not_current {t : Turn} (h : ∀ e, t.complaint = some e → e.1 ∉ s.current) :
    s.dueAt t = none := by
  rw [dueAt, Option.filter_eq_none_iff]
  intro e he
  simpa using h e he

/-- A chunk of the current reply owes what the transcript has to say of it. -/
theorem dueAt_receive {stream : Nat} (current : s.stream = some stream) (id : String) (c : Chunk) :
    (s.dueAt (.act (.chunk stream c))).map Prod.snd = (s.transcript.reduce id c).notice := by
  have hmem : Operation.stream stream ∈ s.current := (stream_mem_current s stream).2 current
  cases c with
  | error message =>
    rw [dueAt_of_current rfl hmem, Transcript.reduce, errorNotice_eq]
    rfl
  | _ => rfl

/-- The failure of the current load owes what is queued then. -/
theorem dueAt_failed {request : Nat} (current : s.load = some request) (thread : String)
    (failure : Failure) :
    (s.failLoad thread failure).notices = s.notices ++
      ((s.dueAt (.act (.threadFailed request thread failure))).map Prod.snd).toList := by
  have hmem : Operation.load request ∈ s.current := (load_mem_current s request).2 current
  by_cases h : failure = .cancelled
  · simp [failLoad, dueAt, Turn.complaint, Action.complaint, Failure.isCancelled, h]
  · have hcomplaint : (Turn.act (.threadFailed request thread failure)).complaint =
        some (.load request, "Failed to load thread " ++ thread ++ ": " ++ failure.describe) := by
      simp only [Turn.complaint, Action.complaint, h, ↓reduceIte]
    rw [dueAt_of_current hcomplaint hmem]
    simp [failLoad, Failure.isCancelled, h]

/-- An action adds what it owes to what is queued. -/
theorem Step.notices_eq {a : Action} {o : Outcome} (hstep : Step s a o) (wf : WellFormed s) :
    o.conversation.notices = s.notices ++ ((s.dueAt (.act a)).map Prod.snd).toList := by
  -- an action that complains of no current operation owes nothing
  have hnothing : (∀ e, a.complaint = some e → e.1 ∉ s.current) →
      s.notices = s.notices ++ ((s.dueAt (.act a)).map Prod.snd).toList := by
    intro h
    have hdue : s.dueAt (.act a) = none := dueAt_of_not_current h
    simp [hdue]
  have hsilent : a.complaint = none →
      s.notices = s.notices ++ ((s.dueAt (.act a)).map Prod.snd).toList :=
    fun h => hnothing fun e he => by simp [h] at he
  cases hstep with
  | @receive stream id c current streaming =>
    rw [dueAt_receive current id, receive_conversation]
  | @failed request thread failure current => exact dueAt_failed current thread failure
  | @stale stream c stale =>
    refine hnothing fun e he => ?_
    rcases complaint_cases he with ⟨_, message, ha, rfl⟩ | ⟨_, _, _, ha, -, -⟩
    · obtain ⟨rfl, -⟩ := Action.chunk.inj ha
      -- without a message that receives it, no reply is current either
      intro hmem
      have hk := (stream_mem_current s stream).1 hmem
      obtain ⟨id, hid⟩ := wf.streaming_of_stream hk
      simp [hk, hid] at stale
    · cases ha
  | @lateFailure request thread failure late =>
    refine hnothing fun e he => ?_
    rcases complaint_cases he with ⟨_, _, ha, -⟩ | ⟨_, _, _, ha, -, rfl⟩
    · cases ha
    · obtain ⟨rfl, -, -⟩ := Action.threadFailed.inj ha
      simpa using late
  | _ => exact hsilent rfl

/-- What a turn tells and leaves queued is what was queued and what the turn owes. -/
theorem take_notices_eq (wf : WellFormed s) (t : Turn) :
    (s.take t).told ++ (s.take t).conversation.notices =
      s.notices ++ ((s.dueAt t).map Prod.snd).toList := by
  cases t with
  | tell => simp [Conversation.take, takeNotices, dueAt, Turn.complaint]
  | act a => exact (apply_step s a).notices_eq wf

end turn

/-! ## All turns -/

section turns

variable {s : Conversation} {turns : List Turn}

/-- What has been told and what is still queued is what was queued at first and what was
owed. -/
theorem toldIn_append_notices (wf : WellFormed s) (turns : List Turn) :
    s.toldIn turns ++ (s.after turns).notices = s.notices ++ (s.owed turns).map Prod.snd := by
  induction turns generalizing s with
  | nil => simp [toldIn, owed]
  | cons t rest ih =>
    calc s.toldIn (t :: rest) ++ (s.after (t :: rest)).notices
        = (s.take t).told ++
            ((s.take t).conversation.toldIn rest ++
              ((s.take t).conversation.after rest).notices) := List.append_assoc ..
      _ = ((s.take t).told ++ (s.take t).conversation.notices) ++
            ((s.take t).conversation.owed rest).map Prod.snd := by
          rw [ih (wf.take t), List.append_assoc]
      _ = s.notices ++ (s.owed (t :: rest)).map Prod.snd := by
          rw [take_notices_eq wf t, owed, List.map_append, ← Option.toList_map, List.append_assoc]

/-- What the last turn owes comes last. -/
theorem owed_concat (turns : List Turn) (t : Turn) :
    s.owed (turns ++ [t]) = s.owed turns ++ ((s.after turns).dueAt t).toList := by
  induction turns generalizing s with
  | nil => simp [owed]
  | cons u rest ih => simp [owed, ih]

/-- What is owed are the complaints about operations that were current. -/
theorem mem_owed_iff (e : Operation × String) :
    e ∈ s.owed turns ↔
      Once (fun before t => t.complaint = some e ∧ e.1 ∈ (s.after before).current) turns := by
  induction turns using List.reverseRecOn with
  | nil => simp [owed, not_once_nil]
  | append_singleton turns t ih =>
    rw [owed_concat, List.mem_append, once_concat, ih, Option.mem_toList, dueAt,
      Option.filter_eq_some_iff, decide_eq_true_iff]

end turns

/-- Every notice is delivered once.  Whatever turns a new conversation has taken, what the user
has been told and what is still queued are, in order, the words for the failures of operations
that were current then; none of them is blank.  And those operations had been started, and were
neither given up nor finished. -/
theorem notices_delivered (model : String) (thread : Option String) (turns : List Turn) :
    let s := start model thread
    s.toldIn turns ++ (s.after turns).notices = (s.owed turns).map Prod.snd ∧
    (∀ notice ∈ s.toldIn turns ++ (s.after turns).notices, Text.isBlankText notice = false) ∧
    ∀ e, e ∈ s.owed turns ↔
      Once (fun before t => t.complaint = some e ∧ e.1 ∈ s.started before ∧
        e.1 ∉ s.cancelledIn before ∧ ¬ s.Finished before e.1) turns := by
  intro s
  have hwf : WellFormed s := wellFormed_start model thread
  have hall : s.toldIn turns ++ (s.after turns).notices = (s.owed turns).map Prod.snd :=
    toldIn_append_notices hwf turns
  refine ⟨hall, ?_, ?_⟩
  · intro notice hnotice
    rw [hall] at hnotice
    obtain ⟨e, he, rfl⟩ := List.mem_map.1 hnotice
    obtain ⟨before, t, after, -, hcomplaint, -⟩ := (mem_owed_iff e).1 he
    exact complaint_not_blank hcomplaint
  · intro e
    have hopen := fun before => (Accounted.of_idle hwf rfl before).current_iff e.1
    rw [mem_owed_iff]
    simp only [hopen]

/-- A reply that a load takes the place of, a load that fails, a reply that fails without a word
and one that says why; each fails once more when it is over. -/
def lateErrors : List Turn :=
  [.act (.submit "one"), .act (.selectThread "t"), .act (.chunk 1 (.error (some "late"))),
    .act (.threadFailed 1 "t" (.unknown "not found")), .tell, .act (.submit "two"),
    .act (.chunk 2 (.error (some "  "))), .act (.chunk 2 (.error (some "again"))),
    .act (.submit "three"), .act (.chunk 3 (.error (some " no quota"))), .tell,
    .act (.chunk 3 (.error none)), .act (.threadFailed 1 "t" .emptyResponse)]

/-- The user is told of the load and of the two replies that were current when they failed. -/
theorem notices_delivered_lateErrors :
    let s := start "m" none
    s.toldIn lateErrors ++ (s.after lateErrors).notices =
      ["Failed to load thread t: not found", "Something went wrong while generating a response.",
        " no quota"] ∧
    ¬ Once (fun before t => t.complaint = some (.stream 1, "late") ∧
      .stream 1 ∈ s.started before ∧ .stream 1 ∉ s.cancelledIn before ∧
      ¬ s.Finished before (.stream 1)) lateErrors := by
  intro s
  have howed : s.owed lateErrors =
      [(.load 1, "Failed to load thread t: not found"),
        (.stream 2, "Something went wrong while generating a response."),
        (.stream 3, " no quota")] := by
    decide +kernel
  obtain ⟨hall, -, hiff⟩ := notices_delivered "m" none lateErrors
  refine ⟨hall.trans (by rw [howed]; rfl), fun honce => ?_⟩
  have hmem := (hiff (.stream 1, "late")).2 honce
  rw [howed] at hmem
  exact absurd hmem (by decide)

end Conversation

end ChatGateway
