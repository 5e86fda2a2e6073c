import Mathlib
import ChatGateway.Proofs.Chat.Run

/-!
# What a reply consists of

A message that a reply is written into holds, in order, the texts of the deltas that came
for this reply while it was current, and nothing else.  A reply is current from the
message that opened it to the first action that ends it.

The argument follows one message through a run.  While its reply is current the message
grows by each delta (`content_run_live`); from the end of the reply on it is only kept or
dropped (`content_run_ended`).  Both rest on the names that are given out here being
fresh, which is why no message of a stored thread may bear such a name.
-/

set_option autoImplicit false

namespace ChatGateway

/-- Whether an action ends the reply `k`, if it is current. -/
def Action.ends (k : Nat) : Action → Bool
  | .chunk stream c => stream = k && c.isTerminal
  | .submit content => Text.trim content ≠ ""
  | .cancel => true
  | .selectThread _ => true
  | .newThread => true
  | .threadLoaded _ _ _ => false
  | .threadFailed _ _ _ => false

/-- The text that an action delivers for the reply `k`, if it delivers any. -/
def Action.delta? (k : Nat) : Action → Option String
  | .chunk stream (.delta text) => if stream = k then some text else none
  | _ => none

/-- What the reply `k` receives from actions that come while it is current: the texts of
its deltas up to its end. -/
def received (k : Nat) (actions : List Action) : String :=
  String.join ((actions.takeWhile fun a => !a.ends k).filterMap (Action.delta? k))

/-- No message that an action brings from a stored thread has a name that is given out
here. -/
def Action.BringsForeignNames : Action → Prop
  | .threadLoaded _ _ messages => ∀ m ∈ messages, ∀ n, m.id ≠ Conversation.localId n
  | _ => True

/-- Without actions nothing is received. -/
@[simp]
theorem received_nil (k : Nat) : received k [] = "" := by
  simp [received]

/-- Nothing is received of a reply after it has ended. -/
theorem received_cons_of_ends {k : Nat} {a : Action} (h : a.ends k = true)
    (actions : List Action) : received k (a :: actions) = "" := by
  simp [received, h]

/-- A chunk of the reply is received before the rest. -/
theorem received_cons {k : Nat} {a : Action} (h : a.ends k = false) (actions : List Action) :
    received k (a :: actions) = (a.delta? k).getD "" ++ received k actions := by
  cases hd : a.delta? k with
  | none => simp [received, h, hd]
  | some text => simp [received, h, hd]

namespace Conversation

/-- Different numbers give different names. -/
theorem localId_inj {m n : Nat} : localId m = localId n ↔ m = n := by
  constructor
  · intro h
    exact Nat.repr_inj.1 ((String.append_right_inj "local-").1 h)
  · rintro rfl
    rfl

/-- The user's message that opens the reply `k`, which is written into the message `id`,
is one of `actions`, and is followed by `after`. -/
def Opened (s : Conversation) (actions : List Action) (k : Nat) (id : String)
    (after : List Action) : Prop :=
  ∃ before content request, actions = before ++ .submit content :: after ∧
    ((s.run before).apply (.submit content)).command = some (.openStream k request) ∧
    ((s.run before).apply (.submit content)).conversation.transcript.streaming = some id

/-! ## Names that are given out -/

/-- What holds of the names of messages after every run that brings foreign names only. -/
structure NamesFresh (s : Conversation) : Prop where
  /-- A name that is given out is given to one message. -/
  count_le_one : ∀ n, (s.transcript.messages.map Message.id).count (localId n) ≤ 1
  le_lastLocal : ∀ n, localId n ∈ s.transcript.messages.map Message.id → n ≤ s.lastLocal
  streaming_local : ∀ id, s.transcript.streaming = some id →
    ∃ n, id = localId n ∧ n ≤ s.lastLocal

/-- The names of a new conversation are fresh. -/
theorem namesFresh_start (model : String) (thread : Option String) :
    NamesFresh (start model thread) where
  count_le_one := by simp [start]
  le_lastLocal := by simp [start]
  streaming_local := by simp [start]

namespace NamesFresh

variable {s : Conversation}

/-- A name that has not been given out is not in use. -/
theorem count_eq_zero (h : NamesFresh s) {n : Nat} (hn : s.lastLocal < n) :
    (s.transcript.messages.map Message.id).count (localId n) = 0 := by
  rw [List.count_eq_zero]
  intro hmem
  have := h.le_lastLocal n hmem
  omega

/-- Two new messages may take the next two names. -/
theorem send (h : NamesFresh s) (content : String) :
    NamesFresh (s.send content).conversation := by
  have hinit := Transcript.withoutPlaceholders_prefix s.transcript.messages
  refine ⟨?_, ?_, ?_⟩
  · intro n
    have hold : ((Transcript.withoutPlaceholders s.transcript.messages).map Message.id).count
        (localId n) ≤ (s.transcript.messages.map Message.id).count (localId n) :=
      (hinit.sublist.map Message.id).count_le _
    have hone := h.count_le_one n
    simp only [Conversation.send, Transcript.dropPlaceholders, List.map_append, List.map_cons,
      List.map_nil, List.count_append, List.count_cons, List.count_nil, beq_iff_eq,
      localId_inj]
    by_cases hn : s.lastLocal < n
    · have hzero := h.count_eq_zero hn
      split_ifs <;> omega
    · split_ifs <;> omega
  · intro n hmem
    simp only [Conversation.send, Transcript.dropPlaceholders, List.map_append, List.map_cons,
      List.map_nil, List.mem_append, List.mem_cons, List.not_mem_nil, or_false,
      localId_inj] at hmem ⊢
    rcases hmem with hmem | rfl | rfl
    · have := h.le_lastLocal n ((hinit.sublist.map Message.id).subset hmem)
      omega
    · omega
    · omega
  · intro id hid
    simp only [Conversation.send, Option.some.injEq] at hid ⊢
    exact ⟨s.lastLocal + 2, hid.symm, le_rfl⟩

/-- What gives out no name and starts no reply keeps the names in order. -/
theorem of_same_names (h : NamesFresh s) {s' : Conversation}
    (hids : s'.transcript.messages.map Message.id = s.transcript.messages.map Message.id)
    (hlast : s'.lastLocal = s.lastLocal)
    (hstreaming : s'.transcript.streaming = none ∨
      s'.transcript.streaming = s.transcript.streaming) : NamesFresh s' := by
  refine ⟨by simpa [hids] using h.count_le_one, by simpa [hids, hlast] using h.le_lastLocal, ?_⟩
  intro id hid
  rcases hstreaming with hn | hs
  · rw [hn] at hid
    cases hid
  · rw [hlast]
    exact h.streaming_local id (hs ▸ hid)

/-- Messages of foreign names with no reply keep the names in order. -/
theorem of_foreign {s' : Conversation} (hstreaming : s'.transcript.streaming = none)
    (foreign : ∀ m ∈ s'.transcript.messages, ∀ n, m.id ≠ localId n) : NamesFresh s' := by
  have hnot : ∀ n, localId n ∉ s'.transcript.messages.map Message.id := by
    intro n hmem
    obtain ⟨m, hm, hid⟩ := List.mem_map.1 hmem
    exact foreign m hm n hid
  refine ⟨fun n => ?_, fun n hmem => absurd hmem (hnot n), by simp [hstreaming]⟩
  rw [List.count_eq_zero.2 (hnot n)]
  exact Nat.zero_le 1

end NamesFresh

/-- The messages that a thread is shown with bear the names that it stores. -/
theorem takeHistory_foreign (s : Conversation) (thread : String) {messages : List ThreadMessage}
    (foreign : ∀ m ∈ messages, ∀ n, m.id ≠ localId n) :
    ∀ m ∈ (s.takeHistory thread messages).transcript.messages, ∀ n, m.id ≠ localId n := by
  intro m hm n
  simp only [takeHistory, List.mem_filterMap, ThreadMessage.toMessage?, Option.map_eq_some_iff]
    at hm
  obtain ⟨m₀, hm₀, role, -, rfl⟩ := hm
  exact foreign m₀ hm₀ n

/-- Every step that brings foreign names keeps the names in order. -/
theorem NamesFresh.step {s : Conversation} (h : NamesFresh s) {a : Action} {o : Outcome}
    (hstep : Step s a o) (foreign : a.BringsForeignNames) : NamesFresh o.conversation := by
  cases hstep with
  | blank => exact h
  | stale => exact h
  | lateLoad => exact h
  | lateFailure => exact h
  | send => exact h.send _
  | @receive stream id c current streaming =>
    refine h.of_same_names (by simp [Transcript.appendTo_map_id]) (by simp) ?_
    cases hc : c.isTerminal with
    | true => exact .inl (by simp [hc])
    | false => exact .inr (by simp [hc])
  | cancel => exact h.of_same_names rfl rfl (.inl rfl)
  | selectThread => exact h.of_same_names rfl rfl (.inl rfl)
  | loaded => exact .of_foreign rfl (s.takeHistory_foreign _ foreign)
  | failed => exact h.of_same_names rfl rfl (.inr rfl)
  | newThread => exact .of_foreign rfl (by simp)

/-- Every run that brings foreign names keeps the names in order. -/
theorem NamesFresh.run {s : Conversation} (h : NamesFresh s) {actions : List Action}
    (foreign : ∀ a ∈ actions, a.BringsForeignNames) : NamesFresh (s.run actions) := by
  induction actions generalizing s with
  | nil => exact h
  | cons a rest ih =>
    exact ih (h.step (apply_step s a) (foreign a List.mem_cons_self))
      fun b hb => foreign b (List.mem_cons_of_mem a hb)

/-! ## One message through a run -/

section follow

variable {s : Conversation} {a : Action} {o : Outcome}

/-- From `s` to `s'` the message named `localId n` is kept as it is, or dropped, and it
receives no reply after that. -/
structure Settled (n : Nat) (s s' : Conversation) : Prop where
  le_lastLocal : n ≤ s'.lastLocal
  streaming_ne : s'.transcript.streaming ≠ some (localId n)
  mem_of_mem : ∀ m ∈ s'.transcript.messages, m.id = localId n → m ∈ s.transcript.messages

/-- Sending settles every older message. -/
theorem settled_send {n : Nat} (hn : n ≤ s.lastLocal) (content : String) :
    Settled n s (s.send content).conversation := by
  refine ⟨?_, ?_, ?_⟩
  · simp only [send]
    omega
  · simp only [send, ne_eq, Option.some.injEq, localId_inj]
    omega
  · intro m hm hid
    simp only [send, Transcript.dropPlaceholders, List.mem_append, List.mem_cons,
      List.not_mem_nil, or_false] at hm
    rcases hm with hm | rfl | rfl
    · exact (Transcript.withoutPlaceholders_prefix _).subset hm
    · have := localId_inj.1 hid
      omega
    · have := localId_inj.1 hid
      omega

/-- A message that receives no reply stays settled. -/
theorem settled_of_idle (hstep : Step s a o) (foreign : a.BringsForeignNames) {n : Nat}
    (hn : n ≤ s.lastLocal) (hidle : s.transcript.streaming ≠ some (localId n)) :
    Settled n s o.conversation := by
  cases hstep with
  | blank => exact ⟨hn, hidle, fun m hm _ => hm⟩
  | stale => exact ⟨hn, hidle, fun m hm _ => hm⟩
  | lateLoad => exact ⟨hn, hidle, fun m hm _ => hm⟩
  | lateFailure => exact ⟨hn, hidle, fun m hm _ => hm⟩
  | send => exact settled_send hn _
  | @receive stream id c current streaming =>
    have hne : localId n ≠ id := fun e => hidle (by rw [streaming, e])
    refine ⟨by simpa using hn, ?_, ?_⟩
    · cases hc : c.isTerminal with
      | true => simp [hc]
      | false => simpa [hc] using hidle
    · intro m hm hid
      rw [receive_transcript, Transcript.reduce_messages] at hm
      exact (Transcript.mem_appendTo_of_ne (hid ▸ hne)).1 hm
  | cancel => exact ⟨hn, by simp [cancelStream, Transcript.idle], fun m hm _ => hm⟩
  | selectThread => exact ⟨hn, by simp [cancelAll, Transcript.idle], fun m hm _ => hm⟩
  | loaded =>
    refine ⟨hn, by simp [takeHistory], fun m hm hid => ?_⟩
    exact absurd hid (s.takeHistory_foreign _ foreign m hm n)
  | failed => exact ⟨hn, hidle, fun m hm _ => hm⟩
  | newThread => exact ⟨hn, by simp, by simp⟩

/-- The end of a reply settles its message. -/
theorem settled_of_ends (hstep : Step s a o) {k n : Nat} (hk : s.stream = some k)
    (hid : s.transcript.streaming = some (localId n)) (hn : n ≤ s.lastLocal)
    (hend : a.ends k = true) : Settled n s o.conversation := by
  cases hstep with
  | blank blank => simp [Action.ends, blank] at hend
  | @stale stream c stale =>
    simp only [Action.ends, Bool.and_eq_true, decide_eq_true_eq] at hend
    rw [hend.1, hk, hid] at stale
    simp at stale
  | lateLoad => simp [Action.ends] at hend
  | lateFailure => simp [Action.ends] at hend
  | send => exact settled_send hn _
  | @receive stream id c current streaming =>
    simp only [Action.ends, Bool.and_eq_true, decide_eq_true_eq] at hend
    have htext : c.text = "" := by cases c <;> simp_all [Chunk.isTerminal, Chunk.text]
    refine ⟨by simpa using hn, by simp [hend.2], ?_⟩
    intro m hm _
    simpa [htext, Transcript.appendTo_empty] using hm
  | cancel => exact ⟨hn, by simp [cancelStream, Transcript.idle], fun m hm _ => hm⟩
  | selectThread => exact ⟨hn, by simp [cancelAll, Transcript.idle], fun m hm _ => hm⟩
  | loaded => simp [Action.ends] at hend
  | failed => simp [Action.ends] at hend
  | newThread => exact ⟨hn, by simp, by simp⟩

/-- A message that receives no reply is kept as it is, or dropped, by every run. -/
theorem content_run_ended {actions : List Action}
    (foreign : ∀ a ∈ actions, a.BringsForeignNames) {n : Nat} (hn : n ≤ s.lastLocal)
    (hidle : s.transcript.streaming ≠ some (localId n)) :
    ∀ m ∈ (s.run actions).transcript.messages, m.id = localId n →
      m ∈ s.transcript.messages := by
  induction actions generalizing s with
  | nil => exact fun m hm _ => hm
  | cons a rest ih =>
    intro m hm hid
    have hsettled := settled_of_idle (apply_step s a) (foreign a List.mem_cons_self) hn hidle
    have hrest : ∀ b ∈ rest, b.BringsForeignNames :=
      fun b hb => foreign b (List.mem_cons_of_mem a hb)
    exact hsettled.mem_of_mem m
      (ih hrest hsettled.le_lastLocal hsettled.streaming_ne m hm hid) hid

/-- An action that does not end the current reply keeps it current and appends what it
delivers to the message of the reply. -/
theorem step_live (wf : WellFormed s) (names : NamesFresh s) (hstep : Step s a o) {k : Nat}
    {id : String} (hk : s.stream = some k) (hid : s.transcript.streaming = some id)
    (hlive : a.ends k = false) :
    o.conversation.stream = some k ∧ o.conversation.transcript.streaming = some id ∧
    ∀ m ∈ o.conversation.transcript.messages, m.id = id →
      ∃ m₀ ∈ s.transcript.messages, m₀.id = id ∧ m.role = m₀.role ∧
        m.content = m₀.content ++ (a.delta? k).getD "" := by
  have hload := wf.load_of_stream hk
  have hsame : ∀ m ∈ s.transcript.messages, m.id = id →
      ∃ m₀ ∈ s.transcript.messages, m₀.id = id ∧ m.role = m₀.role ∧
        m.content = m₀.content ++ "" :=
    fun m hm hm' => ⟨m, hm, hm', rfl, String.append_empty.symm⟩
  cases hstep with
  | blank => exact ⟨hk, hid, hsame⟩
  | @stale stream c stale =>
    -- the chunk belongs to another reply
    have hne : stream ≠ k := by
      rintro rfl
      rcases stale with h | h
      · exact h hk
      · rw [hid] at h
        cases h
    refine ⟨hk, hid, ?_⟩
    cases c <;> simpa [Action.delta?, hne] using hsame
  | lateLoad => exact ⟨hk, hid, hsame⟩
  | lateFailure => exact ⟨hk, hid, hsame⟩
  | send given => simp [Action.ends, given] at hlive
  | @receive stream id' c current streaming =>
    obtain rfl : stream = k := Option.some.inj (current.symm.trans hk)
    obtain rfl : id' = id := Option.some.inj (streaming.symm.trans hid)
    have hc : c.isTerminal = false := by simpa [Action.ends] using hlive
    obtain ⟨n, rfl, -⟩ := names.streaming_local id' hid
    refine ⟨by simp [hc, hk], by simp [hc, hid], ?_⟩
    intro m hm hm'
    rw [receive_transcript, Transcript.reduce_messages] at hm
    obtain ⟨m₀, hm₀, hid₀, rfl⟩ :=
      Transcript.mem_appendTo_of_count_le_one (names.count_le_one n) hm hm'
    refine ⟨m₀, hm₀, hid₀, rfl, ?_⟩
    cases c <;> simp [Action.delta?, Chunk.text]
  | cancel => simp [Action.ends] at hlive
  | selectThread => simp [Action.ends] at hlive
  | loaded current => simp [hload] at current
  | failed current => simp [hload] at current
  | newThread => simp [Action.ends] at hlive

/-- **The message of a current reply through a run**: it grows by what the reply receives,
and is not touched after the end of the reply. -/
theorem content_run_live (wf : WellFormed s) (names : NamesFresh s) {actions : List Action}
    (foreign : ∀ a ∈ actions, a.BringsForeignNames) {k : Nat} {id : String}
    (hk : s.stream = some k) (hid : s.transcript.streaming = some id) :
    ∀ m ∈ (s.run actions).transcript.messages, m.id = id →
      ∃ m₀ ∈ s.transcript.messages, m₀.id = id ∧ m.role = m₀.role ∧
        m.content = m₀.content ++ received k actions := by
  induction actions generalizing s with
  | nil => exact fun m hm hm' => ⟨m, hm, hm', rfl, by simp⟩
  | cons a rest ih =>
    intro m hm hm'
    have hstep := apply_step s a
    have hrest : ∀ b ∈ rest, b.BringsForeignNames :=
      fun b hb => foreign b (List.mem_cons_of_mem a hb)
    cases ha : a.ends k with
    | true =>
      obtain ⟨n, rfl, hn⟩ := names.streaming_local id hid
      have hsettled := settled_of_ends hstep hk hid hn ha
      have hback := content_run_ended hrest hsettled.le_lastLocal hsettled.streaming_ne m hm hm'
      refine ⟨m, hsettled.mem_of_mem m hback hm', hm', rfl, ?_⟩
      rw [received_cons_of_ends ha, String.append_empty]
    | false =>
      obtain ⟨hk', hid', hgrow⟩ := step_live wf names hstep hk hid ha
      obtain ⟨m₁, hm₁, hid₁, hrole₁, hcontent₁⟩ := ih (wf.step hstep)
        (names.step hstep (foreign a List.mem_cons_self)) hrest hk' hid' m hm hm'
      obtain ⟨m₀, hm₀, hid₀, hrole₀, hcontent₀⟩ := hgrow m₁ hm₁ hid₁
      refine ⟨m₀, hm₀, hid₀, hrole₁.trans hrole₀, ?_⟩
      rw [hcontent₁, hcontent₀, received_cons ha, String.append_assoc]

end follow

/-! ## The messages that replies are written into -/

section opened

variable {s : Conversation}

/-- A message that asks for a reply has been sent. -/
theorem step_submit_command {content : String} {o : Outcome}
    (hstep : Step s (.submit content) o) {k : Nat} {request : ChatRequest}
    (h : o.command = some (.openStream k request)) :
    o = s.send (Text.trim content) ∧ k = s.lastStream + 1 := by
  cases hstep with
  | blank => cases h
  | send =>
    simp only [send, Option.some.injEq, Command.openStream.injEq] at h
    exact ⟨rfl, h.1.symm⟩

/-- The end of a run does not change what has been opened before. -/
theorem Opened.concat {actions : List Action} {k : Nat} {id : String} {after : List Action}
    (h : Opened s actions k id after) (a : Action) :
    Opened s (actions ++ [a]) k id (after ++ [a]) := by
  obtain ⟨before, content, request, rfl, hcommand, hstreaming⟩ := h
  exact ⟨before, content, request, by simp, hcommand, hstreaming⟩

/-- A message that is sent opens a reply. -/
theorem opened_send {actions : List Action} {content : String}
    (given : Text.trim content ≠ "") :
    Opened s (actions ++ [.submit content]) ((s.run actions).lastStream + 1)
      (localId ((s.run actions).lastLocal + 2)) [] := by
  have hsend : (s.run actions).apply (.submit content) =
      (s.run actions).send (Text.trim content) := by simp [apply, given]
  obtain ⟨request, hrequest⟩ : ∃ request, ((s.run actions).send (Text.trim content)).command =
      some (.openStream ((s.run actions).lastStream + 1) request) := ⟨_, rfl⟩
  exact ⟨actions, content, request, rfl, by rw [hsend, hrequest], by rw [hsend]; rfl⟩

/-- The message of an opened reply holds what the reply received. -/
theorem content_of_opened (wf : WellFormed s) (names : NamesFresh s) {actions : List Action}
    (foreign : ∀ a ∈ actions, a.BringsForeignNames) {k : Nat} {id : String}
    {after : List Action} (h : Opened s actions k id after) :
    ∀ m ∈ (s.run actions).transcript.messages, m.id = id →
      m.role = .assistant ∧ m.content = received k after := by
  obtain ⟨before, content, request, rfl, hcommand, hstreaming⟩ := h
  have hbefore : ∀ a ∈ before, a.BringsForeignNames :=
    fun a ha => foreign a (List.mem_append_left _ ha)
  have hafter : ∀ a ∈ after, a.BringsForeignNames :=
    fun a ha => foreign a (List.mem_append_right _ (List.mem_cons_of_mem _ ha))
  have hstep := apply_step (s.run before) (.submit content)
  have hwf := (wf.run before).step hstep
  have hnames := (names.run hbefore).step hstep trivial
  obtain ⟨ho, hk⟩ := step_submit_command hstep hcommand
  rw [run_append, run_cons]
  intro m hm hid
  have hstream : ((s.run before).apply (.submit content)).conversation.stream = some k := by
    rw [ho, hk]
    rfl
  obtain ⟨m₀, hm₀, hid₀, hrole, hcontent⟩ :=
    content_run_live hwf hnames hafter hstream hstreaming m hm hid
  -- right after sending, only the empty answer has this name
  have hanswer : m₀ = ⟨id, .assistant, ""⟩ := by
    rw [ho] at hm₀ hstreaming
    simp only [send, Option.some.injEq] at hstreaming
    simp only [send, Transcript.dropPlaceholders, List.mem_append, List.mem_cons,
      List.not_mem_nil, or_false] at hm₀
    subst hstreaming
    rcases hm₀ with hm₀ | rfl | rfl
    · have hmem := List.mem_map_of_mem (f := Message.id)
        ((Transcript.withoutPlaceholders_prefix _).subset hm₀)
      rw [hid₀] at hmem
      have := (names.run hbefore).le_lastLocal _ hmem
      omega
    · have := localId_inj.1 hid₀
      omega
    · rfl
  rw [hrole, hcontent, hanswer]
  exact ⟨rfl, String.empty_append⟩

/-- The current reply has been opened, and is written into the message it was opened for. -/
theorem opened_of_current {model : String} {thread : Option String} {actions : List Action}
    {k : Nat} {id : String} (hk : ((start model thread).run actions).stream = some k)
    (hid : ((start model thread).run actions).transcript.streaming = some id) :
    ∃ after, Opened (start model thread) actions k id after := by
  induction actions using List.reverseRecOn generalizing k id with
  | nil => cases hk
  | append_singleton actions a ih =>
    have hstep := apply_step ((start model thread).run actions) a
    have hearlier : ((start model thread).run actions).stream = some k →
        ((start model thread).run actions).transcript.streaming = some id →
        ∃ after, Opened (start model thread) (actions ++ [a]) k id after := by
      intro hk hid
      obtain ⟨after, h⟩ := ih hk hid
      exact ⟨after ++ [a], h.concat a⟩
    rw [run_concat] at hk hid
    generalize ((start model thread).run actions).apply a = o at hk hid hstep
    cases hstep with
    | blank => exact hearlier hk hid
    | stale => exact hearlier hk hid
    | lateLoad => exact hearlier hk hid
    | lateFailure => exact hearlier hk hid
    | send given =>
      simp only [send, Option.some.injEq] at hk hid
      subst hk hid
      exact ⟨[], opened_send given⟩
    | @receive stream id' c current streaming =>
      cases hc : c.isTerminal with
      | true => simp [hc] at hk
      | false => exact hearlier (by simpa [hc] using hk) (by simpa [hc] using hid)
    | cancel => cases hk
    | selectThread => cases hk
    | loaded => cases hid
    | failed => exact hearlier hk hid
    | newThread => cases hk

/-- A message of the assistant that got its name here is one that a reply is written
into. -/
theorem opened_of_mem {model : String} {thread : Option String} {actions : List Action}
    (foreign : ∀ a ∈ actions, a.BringsForeignNames) {m : Message} {n : Nat}
    (hm : m ∈ ((start model thread).run actions).transcript.messages)
    (hrole : m.role = .assistant) (hid : m.id = localId n) :
    ∃ k after, Opened (start model thread) actions k m.id after := by
  induction actions using List.reverseRecOn generalizing m with
  | nil => cases hm
  | append_singleton actions a ih =>
    have hforeign : a.BringsForeignNames := foreign a (by simp)
    have hactions : ∀ b ∈ actions, b.BringsForeignNames :=
      fun b hb => foreign b (List.mem_append_left _ hb)
    have hstep := apply_step ((start model thread).run actions) a
    have hearlier : ∀ m₀ ∈ ((start model thread).run actions).transcript.messages,
        m.id = m₀.id → m.role = m₀.role →
        ∃ k after, Opened (start model thread) (actions ++ [a]) k m.id after := by
      intro m₀ hm₀ hid₀ hrole₀
      obtain ⟨k, after, h⟩ := ih hactions hm₀ (hrole₀ ▸ hrole) (hid₀ ▸ hid)
      exact ⟨k, after ++ [a], hid₀ ▸ h.concat a⟩
    rw [run_concat] at hm
    generalize ((start model thread).run actions).apply a = o at hm hstep
    cases hstep with
    | blank => exact hearlier m hm rfl rfl
    | stale => exact hearlier m hm rfl rfl
    | lateLoad => exact hearlier m hm rfl rfl
    | lateFailure => exact hearlier m hm rfl rfl
    | send given =>
      simp only [send, Transcript.dropPlaceholders, List.mem_append, List.mem_cons,
        List.not_mem_nil, or_false] at hm
      rcases hm with hm | rfl | rfl
      · exact hearlier m ((Transcript.withoutPlaceholders_prefix _).subset hm) rfl rfl
      · cases hrole
      · exact ⟨_, [], opened_send given⟩
    | @receive stream id c current streaming =>
      rw [receive_transcript, Transcript.reduce_messages] at hm
      obtain ⟨m₀, hm₀, hid₀, hrole₀⟩ := Transcript.exists_of_mem_appendTo hm
      exact hearlier m₀ hm₀ hid₀.symm hrole₀.symm
    | cancel => exact hearlier m hm rfl rfl
    | selectThread => exact hearlier m hm rfl rfl
    | loaded => exact absurd hid (takeHistory_foreign _ _ hforeign m hm n)
    | failed => exact hearlier m hm rfl rfl
    | newThread => cases hm

/-- A chunk changes no message but the one that its reply is written into. -/
theorem forall₂_run_chunk (model : String) (thread : Option String) (actions : List Action)
    (k : Nat) (c : Chunk) :
    List.Forall₂ (fun m m' => m'.id = m.id ∧ m'.role = m.role ∧
        (m'.content = m.content ∨
          ∃ after, Opened (start model thread) actions k m.id after))
      ((start model thread).run actions).transcript.messages
      ((start model thread).run (actions ++ [.chunk k c])).transcript.messages := by
  have hstep := apply_step ((start model thread).run actions) (.chunk k c)
  have hcurrent := fun id => @opened_of_current model thread actions k id
  rw [run_concat]
  generalize ((start model thread).run actions).apply (.chunk k c) = o at hstep
  cases hstep with
  | stale => exact List.forall₂_same.2 fun m _ => ⟨rfl, rfl, .inl rfl⟩
  | @receive _ id _ current streaming =>
    rw [receive_transcript, Transcript.reduce_messages]
    refine (Transcript.forall₂_appendTo id c.text _).imp ?_
    rintro m m' ⟨hid, hrole, hcontent⟩
    refine ⟨hid, hrole, hcontent.imp_right ?_⟩
    rintro rfl
    exact hcurrent _ current streaming

end opened

/-- The name of the message of an opened reply was given out here. -/
theorem Opened.local_name {s : Conversation} {actions : List Action} {k : Nat} {id : String}
    {after : List Action} (h : Opened s actions k id after) : ∃ n, id = localId n := by
  obtain ⟨before, content, request, -, hcommand, hstreaming⟩ := h
  obtain ⟨ho, -⟩ := step_submit_command (apply_step _ _) hcommand
  rw [ho] at hstreaming
  simp only [send, Option.some.injEq] at hstreaming
  exact ⟨_, hstreaming.symm⟩

/-- **What a reply consists of.**  After any actions that bring foreign names only, the
message of every reply that was opened is alone in having its name and holds the texts of
the deltas that came for the reply up to its end, and every message of the assistant that
got its name here is the message of such a reply.  No chunk changes anything in the
messages but the content of the message of its own reply. -/
theorem content_run (model : String) (thread : Option String) (actions : List Action)
    (foreign : ∀ a ∈ actions, a.BringsForeignNames) :
    (∀ k id after, Opened (start model thread) actions k id after →
      (((start model thread).run actions).transcript.messages.map Message.id).count id ≤ 1 ∧
      ∀ m ∈ ((start model thread).run actions).transcript.messages, m.id = id →
        m.role = .assistant ∧ m.content = received k after) ∧
    (∀ m ∈ ((start model thread).run actions).transcript.messages, m.role = .assistant →
      (∃ n, m.id = localId n) →
      ∃ k after, Opened (start model thread) actions k m.id after) ∧
    (∀ before k c,
      List.Forall₂ (fun m m' => m'.id = m.id ∧ m'.role = m.role ∧
          (m'.content = m.content ∨
            ∃ after, Opened (start model thread) before k m.id after))
        ((start model thread).run before).transcript.messages
        ((start model thread).run (before ++ [.chunk k c])).transcript.messages) := by
  have wf := wellFormed_start model thread
  have names := namesFresh_start model thread
  refine ⟨?_, ?_, forall₂_run_chunk model thread⟩
  · intro k id after h
    obtain ⟨n, rfl⟩ := h.local_name
    exact ⟨(names.run foreign).count_le_one n, content_of_opened wf names foreign h⟩
  · rintro m hm hrole ⟨n, hid⟩
    exact opened_of_mem foreign hm hrole hid

/-- Two messages in a row: the second takes the place of a reply that is under way, whose
late chunk is dropped like the one after the end of the second reply. -/
def resubmission : List Action :=
  [.submit "one", .chunk 1 (.delta "par"), .submit " two ", .chunk 1 (.delta "stale"),
    .chunk 2 (.delta "fr"), .threadLoaded 7 "t" [⟨"m1", "user", "x"⟩],
    .chunk 2 (.delta "esh"), .chunk 2 .finished, .chunk 2 (.delta "late")]

/-- The second reply of `resubmission` holds its own deltas only. -/
theorem content_run_resubmission :
    (∀ a ∈ resubmission, a.BringsForeignNames) ∧
    Opened (start "m" none) resubmission 2 "local-4" (resubmission.drop 3) ∧
    ∀ m ∈ ((start "m" none).run resubmission).transcript.messages,
      m.id = "local-4" → m.role = .assistant ∧ m.content = "fresh" := by
  have hforeign : ∀ a ∈ resubmission, a.BringsForeignNames := by
    have hm1 : ∀ n, "m1" ≠ localId n := by
      intro n h
      have := congrArg String.toList h
      simp [localId] at this
    simp [resubmission, Action.BringsForeignNames, hm1]
  have hopened : Opened (start "m" none) resubmission 2 "local-4" (resubmission.drop 3) :=
    ⟨[.submit "one", .chunk 1 (.delta "par")], " two ",
      ⟨"m", [⟨"user", "one"⟩, ⟨"assistant", "par"⟩, ⟨"user", "two"⟩], none⟩, rfl,
      by decide +kernel, by decide +kernel⟩
  refine ⟨hforeign, hopened, ?_⟩
  intro m hm hid
  obtain ⟨hrole, hcontent⟩ := ((content_run "m" none _ hforeign).1 2 _ _ hopened).2 m hm hid
  exact ⟨hrole, hcontent.trans (by decide +kernel)⟩

end Conversation

end ChatGateway
