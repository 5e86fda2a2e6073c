import Mathlib
import ChatGateway.Chat.Live
import ChatGateway.Proofs.Chat.Run

/-!
# The operations of a conversation

The slots of a conversation name the operations that are current.  An action can make an
operation current only by starting it under a new number, and it leaves one current only
if it neither cancels nor ends it.
-/

set_option autoImplicit false

namespace ChatGateway

/-- The operation that a command starts. -/
def Command.opens : Command → Option Operation
  | .openStream stream _ => some (.stream stream)
  | .loadThread request _ => some (.load request)
  | .remember _ => none

/-- Whether an action is the end of an operation that is current: a terminal chunk of a
reply, or the outcome of a load. -/
def Operation.endedBy (op : Operation) : Action → Bool
  | .chunk reply c => c.isTerminal && op.brings (.chunk reply c)
  | a => op.brings a

namespace Conversation

/-- Whether the number of an operation has been given out. -/
def Numbered (s : Conversation) : Operation → Prop
  | .stream k => k ≤ s.lastStream
  | .load q => q ≤ s.lastLoad

/-- A reply is current exactly if it is the one that is received. -/
@[simp]
theorem stream_mem_current (s : Conversation) (k : Nat) :
    .stream k ∈ s.current ↔ s.stream = some k := by
  cases hs : s.stream <;> cases hl : s.load <;> simp [current, hs, hl, eq_comm]

/-- A load is current exactly if it is the one that is waited for. -/
@[simp]
theorem load_mem_current (s : Conversation) (q : Nat) :
    .load q ∈ s.current ↔ s.load = some q := by
  cases hs : s.stream <;> cases hl : s.load <;> simp [current, hs, hl, eq_comm]

/-- A current operation has its number from the conversation. -/
theorem WellFormed.numbered {s : Conversation} (h : WellFormed s) {op : Operation}
    (hop : op ∈ s.current) : s.Numbered op := by
  cases op with
  | stream k => exact h.stream_le k ((stream_mem_current s k).1 hop)
  | load q => exact h.load_le q ((load_mem_current s q).1 hop)

variable {s : Conversation} {a : Action} {o : Outcome}

/-- Only current operations are cancelled. -/
theorem Step.cancelled_current (hstep : Step s a o) {op : Operation} (hop : op ∈ o.cancelled) :
    op ∈ s.current := by
  cases hstep with
  | blank => cases hop
  | stale => cases hop
  | loaded => cases hop
  | lateLoad => cases hop
  | failed => cases hop
  | lateFailure => cases hop
  | receive => simp at hop
  | cancel =>
    obtain ⟨k, hk, rfl⟩ : ∃ k, s.stream = some k ∧ Operation.stream k = op := by
      simpa [cancelStream] using hop
    exact (stream_mem_current s k).2 hk
  | send => exact hop
  | selectThread => exact hop
  | newThread => exact hop

/-- The numbers of replies only grow. -/
theorem Step.lastStream_le (hstep : Step s a o) : s.lastStream ≤ o.conversation.lastStream := by
  cases hstep with
  | send => exact Nat.le_succ _
  | receive => exact (receive_lastStream ..).ge
  | _ => exact Nat.le_refl _

/-- The numbers of loads only grow. -/
theorem Step.lastLoad_le (hstep : Step s a o) : s.lastLoad ≤ o.conversation.lastLoad := by
  cases hstep with
  | selectThread => exact Nat.le_succ _
  | receive => exact (receive_lastLoad ..).ge
  | _ => exact Nat.le_refl _

/-- Numbers stay given out. -/
theorem Step.numbered (hstep : Step s a o) {op : Operation} (hop : s.Numbered op) :
    o.conversation.Numbered op := by
  cases op with
  | stream k => exact Nat.le_trans hop hstep.lastStream_le
  | load q => exact Nat.le_trans hop hstep.lastLoad_le

/-- An operation is started under a number that was not given out before. -/
theorem Step.numbered_opens (hstep : Step s a o) {op : Operation}
    (hop : o.command.bind Command.opens = some op) :
    ¬ s.Numbered op ∧ o.conversation.Numbered op := by
  cases hstep with
  | send =>
    obtain rfl : Operation.stream (s.lastStream + 1) = op := by
      simpa [Conversation.send, Command.opens] using hop
    exact ⟨Nat.not_succ_le_self _, Nat.le_refl _⟩
  | selectThread =>
    obtain rfl : Operation.load (s.lastLoad + 1) = op := by
      simpa [Command.opens] using hop
    exact ⟨Nat.not_succ_le_self _, Nat.le_refl _⟩
  | @receive stream id c current streaming =>
    cases hr : (s.transcript.reduce id c).thread with
    | none => simp [Conversation.receive, hr] at hop
    | some thread =>
      by_cases h : s.thread = some thread <;>
        simp [Conversation.receive, hr, h, Command.opens] at hop
  | loaded => simp [Command.opens] at hop
  | newThread => simp [Command.opens] at hop
  | _ => cases hop

/-- An operation that is current after an action was current before it and is neither
cancelled nor ended by the action, or the action has started it under a new number. -/
theorem Step.current_after (hstep : Step s a o) (h : WellFormed s) {op : Operation}
    (hop : op ∈ o.conversation.current) :
    (op ∈ s.current ∧ op ∉ o.cancelled ∧ op.endedBy a = false) ∨
      (o.command.bind Command.opens = some op ∧ ¬ s.Numbered op) := by
  cases hstep with
  | blank => exact .inl ⟨hop, List.not_mem_nil, by cases op <;> rfl⟩
  | @stale stream c stale =>
    refine .inl ⟨hop, List.not_mem_nil, ?_⟩
    cases op with
    | load q => simp [Operation.endedBy, Operation.brings]
    | stream k =>
      have hk := (stream_mem_current s k).1 hop
      obtain ⟨id, hid⟩ := h.streaming_of_stream hk
      have hne : stream ≠ k := by
        rintro rfl
        rcases stale with hs | hs
        · exact hs hk
        · simp [hid] at hs
      simp [Operation.endedBy, Operation.brings, hne]
  | lateLoad late | lateFailure late =>
    refine .inl ⟨hop, List.not_mem_nil, ?_⟩
    cases op with
    | stream k => rfl
    | load q =>
      have hq := (load_mem_current s q).1 hop
      simpa [Operation.endedBy, Operation.brings, hq, eq_comm] using late
  | send =>
    cases op with
    | load q => simp [Conversation.send] at hop
    | stream k =>
      have hk : s.lastStream + 1 = k := by simpa [Conversation.send] using hop
      exact .inr ⟨by simp [Conversation.send, Command.opens, hk], by simp [Numbered, ← hk]⟩
  | @receive stream id c current streaming =>
    rw [receive_cancelled]
    refine .inl ?_
    cases op with
    | load q =>
      exact ⟨by simpa using hop, List.not_mem_nil, by simp [Operation.endedBy, Operation.brings]⟩
    | stream k =>
      obtain ⟨hc, hk⟩ : c.isTerminal = false ∧ s.stream = some k := by simpa using hop
      exact ⟨(stream_mem_current s k).2 hk, List.not_mem_nil, by simp [Operation.endedBy, hc]⟩
  | cancel =>
    cases op with
    | stream k => simp [cancelStream] at hop
    | load q =>
      have hq : s.load = some q := by simpa [cancelStream] using hop
      exact .inl ⟨(load_mem_current s q).2 hq, by simp [cancelStream], rfl⟩
  | selectThread =>
    cases op with
    | stream k => simp [cancelAll] at hop
    | load q =>
      have hq : s.lastLoad + 1 = q := by simpa using hop
      exact .inr ⟨by simp [Command.opens, hq], by simp [Numbered, ← hq]⟩
  | loaded =>
    cases op with
    | load q => simp [takeHistory] at hop
    | stream k => exact .inl ⟨by simpa [takeHistory] using hop, List.not_mem_nil, rfl⟩
  | failed =>
    cases op with
    | load q => simp [failLoad] at hop
    | stream k => exact .inl ⟨by simpa [failLoad] using hop, List.not_mem_nil, rfl⟩
  | newThread => simp [current, cancelAll] at hop

end Conversation

end ChatGateway
