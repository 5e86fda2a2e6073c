import Mathlib
import ChatGateway.Chat.Transcript

/-!
# How a chunk changes a transcript

Every chunk appends its text, which is empty unless it is a delta, to the first message
with a given name; a terminal chunk ends the reply.  Names, roles and the number of
messages never change, and when no two messages share the name, exactly the one message
that has it grows.
-/

set_option autoImplicit false

namespace ChatGateway

/-- The text that a chunk adds to a reply. -/
def Chunk.text : Chunk → String
  | .delta text => text
  | _ => ""

/-- Whether a chunk says that the reply failed. -/
def Chunk.isError : Chunk → Bool
  | .error _ => true
  | _ => false

namespace Transcript

/-- A chunk appends its text to the message of that name. -/
@[simp]
theorem reduce_messages (t : Transcript) (id : String) (c : Chunk) :
    (t.reduce id c).transcript.messages = appendTo id c.text t.messages := by
  cases c <;> simp [reduce, Chunk.text, idle, appendTo_empty]

/-- A terminal chunk ends the reply. -/
@[simp]
theorem reduce_streaming (t : Transcript) (id : String) (c : Chunk) :
    (t.reduce id c).transcript.streaming = if c.isTerminal then none else t.streaming := by
  cases c <;> simp [reduce, Chunk.isTerminal, idle]

/-- A terminal chunk leaves no task. -/
theorem reduce_task_of_isTerminal (t : Transcript) (id : String) (c : Chunk)
    (h : c.isTerminal = true) : (t.reduce id c).transcript.task = none := by
  cases c <;> simp_all [reduce, Chunk.isTerminal, idle]

/-- The user is told something exactly if the chunk is an error. -/
theorem reduce_notice_isSome (t : Transcript) (id : String) (c : Chunk) :
    (t.reduce id c).notice.isSome = c.isError := by
  cases c <;> rfl

/-- What the user is told about an error is never blank. -/
theorem errorNotice_not_blank (message : Option String) :
    Text.isBlankText (errorNotice message) = false := by
  have hunknown : Text.isBlankText unknownReplyError = false := by decide +kernel
  unfold errorNotice
  cases message with
  | none => exact hunknown
  | some text =>
    cases h : Text.isBlankText text with
    | true => simpa [h] using hunknown
    | false => simp [h]

/-- Names stay as they are. -/
theorem appendTo_map_id (id text : String) (ms : List Message) :
    (appendTo id text ms).map Message.id = ms.map Message.id := by
  have h := congrArg (List.map Prod.fst) (appendTo_ids id text ms)
  simpa [List.map_map, Function.comp_def] using h

/-- Message by message, only the content of one with the given name can change. -/
theorem forall₂_appendTo (id text : String) (ms : List Message) :
    List.Forall₂ (fun m m' => m'.id = m.id ∧ m'.role = m.role ∧
      (m'.content = m.content ∨ m.id = id)) ms (appendTo id text ms) := by
  induction ms with
  | nil => exact .nil
  | cons m ms ih =>
    by_cases h : m.id = id
    · subst h
      simp only [appendTo, ↓reduceIte]
      refine .cons ⟨rfl, rfl, .inr rfl⟩ ?_
      exact List.forall₂_same.2 fun m _ => ⟨rfl, rfl, .inl rfl⟩
    · simp only [appendTo, h, ↓reduceIte]
      exact .cons ⟨rfl, rfl, .inl rfl⟩ ih

/-- Every message afterwards has the name and the role of one before. -/
theorem exists_of_mem_appendTo {id text : String} {ms : List Message} {m : Message}
    (hm : m ∈ appendTo id text ms) : ∃ m₀ ∈ ms, m₀.id = m.id ∧ m₀.role = m.role := by
  have h := List.mem_map_of_mem (f := fun m : Message => (m.id, m.role)) hm
  rw [appendTo_ids] at h
  obtain ⟨m₀, hm₀, heq⟩ := List.mem_map.1 h
  exact ⟨m₀, hm₀, congrArg Prod.fst heq, congrArg Prod.snd heq⟩

/-- A message of another name is untouched. -/
theorem mem_appendTo_of_ne {id text : String} {ms : List Message} {m : Message}
    (h : m.id ≠ id) : m ∈ appendTo id text ms ↔ m ∈ ms := by
  induction ms with
  | nil => rfl
  | cons a ms ih =>
    by_cases ha : a.id = id
    · subst ha
      have hm : m ≠ a := fun e => h (congrArg Message.id e)
      have hm' : m ≠ { a with content := a.content ++ text } := fun e => h (by rw [e])
      simp [appendTo, hm, hm']
    · simp [appendTo, ha, ih]

/-- When no two messages share the name, the message that has it has grown by the text. -/
theorem mem_appendTo_of_count_le_one {id text : String} {ms : List Message} {m : Message}
    (unique : (ms.map Message.id).count id ≤ 1) (hm : m ∈ appendTo id text ms) (h : m.id = id) :
    ∃ m₀ ∈ ms, m₀.id = id ∧ m = { m₀ with content := m₀.content ++ text } := by
  induction ms with
  | nil => simp [appendTo] at hm
  | cons a ms ih =>
    by_cases ha : a.id = id
    · subst ha
      simp only [appendTo, ↓reduceIte, List.mem_cons] at hm
      rcases hm with rfl | hm
      · exact ⟨a, List.mem_cons_self, rfl, rfl⟩
      · -- a second message of that name would be counted too
        have hpos : 0 < (ms.map Message.id).count a.id :=
          List.count_pos_iff.2 (List.mem_map.2 ⟨m, hm, h⟩)
        simp only [List.map_cons, List.count_cons_self] at unique
        omega
    · simp only [appendTo, ha, ↓reduceIte, List.mem_cons] at hm
      rcases hm with rfl | hm
      · exact absurd h ha
      · have hcount : (ms.map Message.id).count id ≤ 1 := by
          simpa [List.count_cons, ha] using unique
        obtain ⟨m₀, hm₀, hid, he⟩ := ih hcount hm
        exact ⟨m₀, List.mem_cons_of_mem a hm₀, hid, he⟩

/-- The first message of a name is still the first one when text was added to it. -/
theorem find?_appendTo (id text : String) (ms : List Message) :
    (appendTo id text ms).find? (fun m => m.id = id) =
      (ms.find? fun m => m.id = id).map fun m => { m with content := m.content ++ text } := by
  induction ms with
  | nil => rfl
  | cons m ms ih =>
    by_cases h : m.id = id
    · simp [appendTo, h]
    · simp [appendTo, h, ih]

/-- Text goes to the older messages if one of them has the name. -/
theorem appendTo_append_of_mem {id : String} {older : List Message}
    (hmem : id ∈ older.map Message.id) (text : String) (newer : List Message) :
    appendTo id text (older ++ newer) = appendTo id text older ++ newer := by
  induction older with
  | nil => simp at hmem
  | cons m older ih =>
    by_cases h : m.id = id
    · simp [appendTo, h]
    · have htail : id ∈ older.map Message.id := by
        simpa [Ne.symm h] using hmem
      simp [appendTo, h, ih htail]

/-- Text goes to the newer messages if no older one has the name. -/
theorem appendTo_append_of_not_mem {id : String} {older : List Message}
    (hmem : id ∉ older.map Message.id) (text : String) (newer : List Message) :
    appendTo id text (older ++ newer) = older ++ appendTo id text newer := by
  induction older with
  | nil => rfl
  | cons m older ih =>
    rw [List.map_cons, List.mem_cons, not_or] at hmem
    simp [appendTo, Ne.symm hmem.1, ih hmem.2]

/-- Dropping the placeholders at the end leaves a front part of the messages. -/
theorem withoutPlaceholders_prefix (ms : List Message) : withoutPlaceholders ms <+: ms := by
  unfold withoutPlaceholders
  rw [← List.reverse_suffix, List.reverse_reverse]
  exact List.dropWhile_suffix _

end Transcript

end ChatGateway
