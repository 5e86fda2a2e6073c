import Mathlib
import ChatGateway.Proofs.Chat.ReplyContent

/-!
# The message that a reply is written into

While a reply is being received, the last message of the transcript is the answer that was put
there, empty, when the user's latest message was sent, and the reply goes by its name.  But text
goes to the first message of that name.  Names that are given out here are never given out
twice, so an older message of the same name has come with a stored thread; and where there is
one, the text of the reply goes there instead (`streaming_placeholder`).

The argument has two halves.  From the message that was sent last to the end of its reply,
neither the names nor the order of the messages change (`placed_of_streaming`); and a name that
is in use was either given out here, with a number that is not new, or stored with a thread
(`origin_of_mem`).
-/

set_option autoImplicit false

namespace ChatGateway

/-- The name and the role of a message. -/
def Message.heading (m : Message) : String × Role :=
  (m.id, m.role)

namespace Transcript

variable {id : String} {older : List Message}

/-- The place of the first message called `id`, which is the one that the name leads to. -/
def place (t : Transcript) (id : String) : Nat :=
  t.messages.findIdx fun m => m.id = id

/-- The message of a name is the one at the place of the name. -/
theorem find?_eq_getElem?_place (t : Transcript) (id : String) :
    t.find? id = t.messages[t.place id]? := by
  unfold find? place
  induction t.messages with
  | nil => rfl
  | cons m ms ih => by_cases h : m.id = id <;> simp [List.findIdx_cons, h, ih]

/-- The name of the last message leads to it exactly if no older message has that name. -/
theorem place_last_iff {t : Transcript} {answer : Message}
    (split : t.messages = older ++ [answer]) :
    t.place answer.id = older.length ↔ answer.id ∉ older.map Message.id := by
  rw [place, split, List.findIdx_append]
  split_ifs with hlt
  · obtain ⟨m, hm, hid⟩ := List.findIdx_lt_length.1 hlt
    constructor
    · intro h
      omega
    · intro hnot
      exact absurd (List.mem_map.2 ⟨m, hm, by simpa using hid⟩) hnot
  · rw [List.findIdx_lt_length] at hlt
    simpa [List.findIdx_cons] using hlt

/-- Text gets to the last message exactly if no older message has its name. -/
theorem appendTo_last_iff (older : List Message) (answer : Message) :
    (∀ text, appendTo answer.id text (older ++ [answer]) =
        older ++ [{ answer with content := answer.content ++ text }]) ↔
      answer.id ∉ older.map Message.id := by
  constructor
  · intro h hmem
    have hone := h "."
    rw [appendTo_append_of_mem hmem] at hone
    have hlast := (List.append_inj' hone rfl).2
    have hcontent : answer.content = answer.content ++ "." :=
      congrArg Message.content (List.singleton_inj.1 hlast)
    have hlength := congrArg String.length hcontent
    simp at hlength
  · intro hmem text
    rw [appendTo_append_of_not_mem hmem]
    simp [appendTo]

end Transcript

namespace Conversation

/-- `content` is the latest message that was sent: of `actions`, those before it and those
after it. -/
structure LatestSent (actions before : List Action) (content : String) (after : List Action) :
    Prop where
  split : actions = before ++ .submit content :: after
  given : Text.trim content ≠ ""
  blank_after : ∀ c, .submit c ∈ after → Text.trim c = ""

/-- A stored thread has come with a message of that name. -/
def StoredName (actions : List Action) (id : String) : Prop :=
  ∃ request thread messages, .threadLoaded request thread messages ∈ actions ∧
    id ∈ messages.map ThreadMessage.id

section placed

variable {s : Conversation} {actions before after : List Action} {content : String}

/-- A message stays the latest that was sent until another one is. -/
theorem LatestSent.concat (h : LatestSent actions before content after) {a : Action}
    (blank : ∀ c, a = .submit c → Text.trim c = "") :
    LatestSent (actions ++ [a]) before content (after ++ [a]) := by
  refine ⟨by simp [h.split], h.given, ?_⟩
  intro c hc
  rcases List.mem_append.1 hc with hc | hc
  · exact h.blank_after c hc
  · exact blank c (List.mem_singleton.1 hc).symm

/-- The messages have the names and roles that they had when the latest message was sent. -/
theorem placed_of_streaming (idle : s.transcript.streaming = none) {id : String}
    (hid : (s.run actions).transcript.streaming = some id) :
    ∃ before content after, LatestSent actions before content after ∧
      ((s.run before).send (Text.trim content)).conversation.transcript.streaming = some id ∧
      (s.run actions).transcript.messages.map Message.heading =
        ((s.run before).send (Text.trim content)).conversation.transcript.messages.map
          Message.heading := by
  induction actions using List.reverseRecOn with
  | nil =>
    rw [run_nil, idle] at hid
    cases hid
  | append_singleton actions a ih =>
    have hstep := apply_step (s.run actions) a
    rw [run_concat] at hid ⊢
    generalize (s.run actions).apply a = o at hid hstep
    -- what sends nothing and changes no names leaves all as it was
    have hkept : (s.run actions).transcript.streaming = some id →
        (∀ c, a = .submit c → Text.trim c = "") →
        o.conversation.transcript.messages.map Message.heading =
          (s.run actions).transcript.messages.map Message.heading →
        ∃ before content after, LatestSent (actions ++ [a]) before content after ∧
          ((s.run before).send (Text.trim content)).conversation.transcript.streaming = some id ∧
          o.conversation.transcript.messages.map Message.heading =
            ((s.run before).send (Text.trim content)).conversation.transcript.messages.map
              Message.heading := by
      intro hearlier hblank hsame
      obtain ⟨before, content, after, hlatest, hstreaming, hheadings⟩ := ih hearlier
      exact ⟨before, content, after ++ [a], hlatest.concat hblank, hstreaming,
        hsame.trans hheadings⟩
    cases hstep with
    | @blank content blank =>
      refine hkept hid ?_ rfl
      intro c hc
      rwa [← Action.submit.inj hc]
    | @send content given =>
      refine ⟨actions, content, [], ⟨rfl, given, ?_⟩, hid, rfl⟩
      intro c hc
      cases hc
    | @receive stream id' c current streaming =>
      cases hc : c.isTerminal with
      | true => simp [hc] at hid
      | false =>
        refine hkept (by simpa [hc] using hid) (by simp) ?_
        rw [receive_transcript, Transcript.reduce_messages]
        exact Transcript.appendTo_ids _ _ _
    | stale => exact hkept hid (by simp) rfl
    | lateLoad => exact hkept hid (by simp) rfl
    | lateFailure => exact hkept hid (by simp) rfl
    | failed => exact hkept hid (by simp) rfl
    | cancel => cases hid
    | selectThread => cases hid
    | loaded => cases hid
    | newThread => cases hid

end placed

/-- A name that is in use was given out here, or has come with a stored thread. -/
theorem origin_of_mem {s : Conversation} (empty : s.transcript.messages = [])
    {actions : List Action} {id : String}
    (hid : id ∈ (s.run actions).transcript.messages.map Message.id) :
    (∃ n ≤ (s.run actions).lastLocal, id = localId n) ∨ StoredName actions id := by
  induction actions using List.reverseRecOn generalizing id with
  | nil => simp [empty] at hid
  | append_singleton actions a ih =>
    have hstep := apply_step (s.run actions) a
    rw [run_concat] at hid ⊢
    generalize (s.run actions).apply a = o at hid hstep
    have hkept : id ∈ (s.run actions).transcript.messages.map Message.id →
        (s.run actions).lastLocal ≤ o.conversation.lastLocal →
        (∃ n ≤ o.conversation.lastLocal, id = localId n) ∨ StoredName (actions ++ [a]) id := by
      intro hearlier hle
      rcases ih hearlier with ⟨n, hn, rfl⟩ | ⟨request, thread, messages, hmem, hname⟩
      · exact .inl ⟨n, hn.trans hle, rfl⟩
      · exact .inr ⟨request, thread, messages, List.mem_append_left _ hmem, hname⟩
    cases hstep with
    | blank => exact hkept hid le_rfl
    | stale => exact hkept hid le_rfl
    | lateLoad => exact hkept hid le_rfl
    | lateFailure => exact hkept hid le_rfl
    | cancel => exact hkept hid le_rfl
    | selectThread => exact hkept hid le_rfl
    | failed => exact hkept hid le_rfl
    | newThread => cases hid
    | send given =>
      simp only [send, Transcript.dropPlaceholders, List.map_append, List.map_cons, List.map_nil,
        List.mem_append, List.mem_cons, List.not_mem_nil, or_false] at hid
      rcases hid with hid | rfl | rfl
      · refine hkept ?_ (by simp [send])
        exact ((Transcript.withoutPlaceholders_prefix _).sublist.map Message.id).subset hid
      · exact .inl ⟨_, by simp [send], rfl⟩
      · exact .inl ⟨_, by simp [send], rfl⟩
    | @receive stream id' c current streaming =>
      rw [receive_transcript, Transcript.reduce_messages, Transcript.appendTo_map_id] at hid
      exact hkept hid (by simp)
    | @loaded request thread messages current =>
      obtain ⟨m, hm, rfl⟩ := List.mem_map.1 hid
      simp only [takeHistory, List.mem_filterMap, ThreadMessage.toMessage?,
        Option.map_eq_some_iff] at hm
      obtain ⟨stored, hstored, role, -, rfl⟩ := hm
      exact .inr ⟨request, thread, messages, by simp, List.mem_map_of_mem hstored⟩

/-- A name that has not been given out yet is in use only if it has come with a stored
thread. -/
theorem stored_of_new {s : Conversation} (empty : s.transcript.messages = [])
    {actions : List Action} {n : Nat} (new : (s.run actions).lastLocal < n)
    (hmem : localId n ∈ (s.run actions).transcript.messages.map Message.id) :
    StoredName actions (localId n) := by
  rcases origin_of_mem empty hmem with ⟨m, hm, hlocal⟩ | hstored
  · have := localId_inj.1 hlocal
    omega
  · exact hstored

/-- A chunk of the current reply adds its text under the name of the reply. -/
theorem messages_apply_chunk {s : Conversation} {k : Nat} {id : String} (hk : s.stream = some k)
    (hid : s.transcript.streaming = some id) (c : Chunk) :
    (s.apply (.chunk k c)).conversation.transcript.messages =
      Transcript.appendTo id c.text s.transcript.messages := by
  simp [apply, hid, hk]

/-- All chunks of the current reply get to the last message exactly if no older one has its
name. -/
theorem chunks_last_iff {s : Conversation} (wf : WellFormed s) {older : List Message}
    {answer : Message} (hid : s.transcript.streaming = some answer.id)
    (split : s.transcript.messages = older ++ [answer]) :
    (∀ k c, s.stream = some k → (s.apply (.chunk k c)).conversation.transcript.messages =
        older ++ [{ answer with content := answer.content ++ c.text }]) ↔
      answer.id ∉ older.map Message.id := by
  rw [← Transcript.appendTo_last_iff]
  constructor
  · intro h text
    obtain ⟨k, hk⟩ : ∃ k, s.stream = some k := by
      rw [← Option.isSome_iff_exists, ← wf.streaming_iff, hid]
      rfl
    have hdelta := messages_apply_chunk hk hid (.delta text)
    rw [h k _ hk, split] at hdelta
    exact hdelta.symm
  · intro h k c hk
    rw [messages_apply_chunk hk hid, split, h]

/-- While a reply is received, the last message is the assistant's one that was put there when
the latest message was sent.  The name of the reply leads to it, and its chunks get there,
exactly if no older message has that name; and one that has it has come with a stored
thread. -/
theorem streaming_placeholder (model : String) (thread : Option String) {actions : List Action}
    {id : String} (hid : ((start model thread).run actions).transcript.streaming = some id) :
    ∃ before content after pushed older answer,
      LatestSent actions before content after ∧
      (((start model thread).run before).send
        (Text.trim content)).conversation.transcript.messages = pushed ++ [⟨id, .assistant, ""⟩] ∧
      ((start model thread).run actions).transcript.messages = older ++ [answer] ∧
      older.map Message.heading = pushed.map Message.heading ∧
      answer.heading = (id, .assistant) ∧
      ((start model thread).run actions).transcript.find? id =
        (older ++ [answer])[((start model thread).run actions).transcript.place id]? ∧
      (((start model thread).run actions).transcript.place id = older.length ↔
        id ∉ older.map Message.id) ∧
      ((∀ k c, ((start model thread).run actions).stream = some k →
          ((start model thread).run (actions ++ [.chunk k c])).transcript.messages =
            older ++ [{ answer with content := answer.content ++ c.text }]) ↔
        id ∉ older.map Message.id) ∧
      (id ∈ older.map Message.id → StoredName before id) := by
  obtain ⟨before, content, after, hlatest, hstreaming, hheadings⟩ := placed_of_streaming rfl hid
  have hwf := (wellFormed_start model thread).run actions
  have hstored := fun n => @stored_of_new (start model thread) rfl before n
  simp only [run_concat]
  generalize (start model thread).run actions = s at hid hheadings hwf ⊢
  generalize ht : (start model thread).run before = t at hstreaming hheadings hstored
  -- sending put a question and an answer behind the messages that were there
  let kept := Transcript.withoutPlaceholders t.transcript.messages
  let question : Message := ⟨localId (t.lastLocal + 1), .user, Text.trim content⟩
  have hname : id = localId (t.lastLocal + 2) := (Option.some.inj hstreaming).symm
  have hpushed : (t.send (Text.trim content)).conversation.transcript.messages =
      (kept ++ [question]) ++ [⟨id, .assistant, ""⟩] := by
    simp [kept, question, hname, send, Transcript.dropPlaceholders]
  rw [hpushed, List.map_append, List.map_eq_append_iff] at hheadings
  obtain ⟨older, newer, hmessages, holder, hnewer⟩ := hheadings
  obtain ⟨answer, rfl, hanswer⟩ := List.map_eq_singleton_iff.1 hnewer
  obtain rfl : answer.id = id := congrArg Prod.fst hanswer
  refine ⟨before, content, after, kept ++ [question], older, answer, hlatest, ht ▸ hpushed,
    hmessages, holder, hanswer, hmessages ▸ Transcript.find?_eq_getElem?_place _ _,
    Transcript.place_last_iff hmessages, chunks_last_iff hwf hid hmessages, ?_⟩
  intro hmem
  have hids : older.map Message.id = (kept ++ [question]).map Message.id := by
    simpa [Message.heading, Function.comp_def] using congrArg (List.map Prod.fst) holder
  rw [hids, List.map_append, List.mem_append, hname] at hmem
  rcases hmem with hmem | hmem
  · have hkept := Transcript.withoutPlaceholders_prefix t.transcript.messages
    rw [hname]
    exact hstored _ (by omega) ((hkept.sublist.map Message.id).subset hmem)
  · -- the question has another name
    have := localId_inj.1 (List.mem_singleton.1 hmem)
    omega

/-- A stored thread with a message of the name that the next reply is going to have, and a
reply. -/
def storedName : List Action :=
  [.selectThread "t1", .threadLoaded 1 "t1" [⟨"local-2", "assistant", "stored answer"⟩],
    .submit "hi", .chunk 1 (.delta "new answer")]

/-- The reply goes by the name of its message, which is the last one, and its text is in the
stored message. -/
theorem reply_in_stored_message :
    let t := ((start "m" none).run storedName).transcript
    t.streaming = some "local-2" ∧ t.place "local-2" = 0 ∧
      t.messages = [⟨"local-2", .assistant, "stored answernew answer"⟩, ⟨"local-1", .user, "hi"⟩,
        ⟨"local-2", .assistant, ""⟩] := by
  decide +kernel

/-- The reply goes to a name that a stored thread has brought before. -/
theorem streaming_placeholder_storedName :
    ((start "m" none).run storedName).transcript.streaming = some "local-2" ∧
      ∃ before, StoredName before "local-2" ∧ before <+: storedName := by
  have hid : ((start "m" none).run storedName).transcript.streaming = some "local-2" := by
    decide +kernel
  obtain ⟨before, content, after, pushed, older, answer, hlatest, -, hmessages, -, -, -, -, -,
    hstored⟩ := streaming_placeholder "m" none hid
  have holder : older.map Message.id = ["local-2", "local-1"] := by
    have hids := congrArg (fun ms => (ms.map Message.id).dropLast) hmessages
    rw [List.map_append, List.map_singleton, List.dropLast_concat] at hids
    rw [← hids]
    decide +kernel
  refine ⟨hid, before, hstored (by simp [holder]), ?_⟩
  rw [hlatest.split]
  exact List.prefix_append _ _

end Conversation

end ChatGateway
