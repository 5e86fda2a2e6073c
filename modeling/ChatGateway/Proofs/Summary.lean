import Mathlib
import ChatGateway.Proofs.Text.Words
import ChatGateway.Sse.Event

/-!
# What the summary of an error body looks like

The summary of a body is shown behind the kind of a failure, so it should be a line: words with
single spaces between them.  A summary is made of words and single spaces whatever the body is
(`isSpaced_summarize`), but it may be without a word.  A blank body is described, and a body
that carries no message stands for itself; only a message that a body carries as JSON is taken
without a look at what it says.  So a summary is a line exactly if such a message is not blank,
and the same is true of the failures and the chunks that summaries are put into
(`summarize_isLine_iff`).
-/

set_option autoImplicit false

namespace ChatGateway

/-- The message that an error body says: that of its error, its error, or its own. -/
def Json.said? (v : Json) : Option String :=
  (((v.member? "error").bind (Json.member? "message")).bind Json.text?) <|>
  ((v.member? "error").bind Json.text?) <|>
  ((v.member? "message").bind Json.text?)

/-- The message that a body carries, if it is JSON and carries one. -/
def carried? (body : String) : Option String :=
  match Json.ofText (Text.trim body) with
  | .error _ => none
  | .ok v => v.said?

/-- A body that carries a message without a word. -/
def CarriesBlank (body : String) : Prop :=
  ∃ message, carried? body = some message ∧ Text.isBlankText message = true

/-- A summary is the message that the body carries, or else the whole body, on one line. -/
theorem summarize_eq (body : String) :
    summarize body =
      if Text.trim body = "" then "<empty response>"
      else Text.collapse ((carried? body).getD (Text.trim body)) := by
  cases hbody : Json.ofText (Text.trim body) <;>
    simp only [summarize, carried?, Json.said?, hbody]

/-- A summary has no blanks but for single spaces between words. -/
theorem isSpaced_summarize (body : String) : Text.IsSpaced (summarize body).toList := by
  have hempty : Text.collapse "<empty response>" = "<empty response>" := by decide +kernel
  rw [summarize_eq]
  split
  · rw [← hempty]
    exact Text.isSpaced_collapse _
  · exact Text.isSpaced_collapse _

/-- A blank body does not carry a message without a word. -/
theorem not_carriesBlank_of_blank {body : String} (blank : Text.trim body = "") :
    ¬ CarriesBlank body := by
  rintro ⟨message, carries, -⟩
  have hnothing : (Json.ofText "").isOk = false := by decide +kernel
  rw [carried?, blank] at carries
  cases h : Json.ofText "" with
  | error refusal => simp [h] at carries
  | ok v => simp [h, Except.isOk, Except.toBool] at hnothing

/-- A summary is empty exactly if the body carries a message without a word. -/
theorem summarize_eq_empty_iff (body : String) : summarize body = "" ↔ CarriesBlank body := by
  rw [summarize_eq]
  by_cases hblank : Text.trim body = ""
  · simp [hblank, not_carriesBlank_of_blank hblank]
  · rw [if_neg hblank, Text.collapse_eq_empty_iff, CarriesBlank]
    cases h : carried? body with
    | none => simp [Text.isBlankText_trim_iff, hblank]
    | some message => simp

/-- A summary is a line exactly if the body does not carry a message without a word. -/
theorem isLine_summarize_iff (body : String) :
    Text.IsLine (summarize body) ↔ ¬ CarriesBlank body := by
  rw [← summarize_eq_empty_iff]
  exact ⟨fun line => line.nonempty, fun hne => ⟨isSpaced_summarize body, hne⟩⟩

/-- A payload that gateways send in place of a chunk to say that the reply failed. -/
structure Sse.IsErrorObject (payload : String) : Prop where
  noChunk : (Chunk.ofText payload).isOk = false
  object : ((Json.ofText payload).toOption.bind (Json.member? "error")).isSome = true

/-- Such a payload becomes a chunk that says what the summary says. -/
theorem Sse.IsErrorObject.ofPayload_eq {payload : String} (h : IsErrorObject payload) :
    Event.ofPayload payload = .chunk (.error (some (summarize payload))) := by
  obtain ⟨hchunk, hobject⟩ := h
  have hmark : payload ≠ "[DONE]" := by
    rintro rfl
    have hnothing : (Json.ofText "[DONE]").toOption = none := by decide +kernel
    simp [hnothing] at hobject
  cases hc : Chunk.ofText payload with
  | ok c => simp [hc, Except.isOk, Except.toBool] at hchunk
  | error refusal =>
    cases hv : Json.ofText payload with
    | error _ => simp [hv, Except.toOption] at hobject
    | ok v =>
      have herror : (v.member? "error").isSome = true := by
        simpa [hv, Except.toOption] using hobject
      simp [Event.ofPayload, hmark, hc, hv, herror, Chunk.failed]

/-- **Summaries of error bodies.**  The summary of a body has no blanks but for single spaces
between words, and it has a word exactly if the body does not carry a message without one.  So
the message of a failure for a status, and of a chunk for an error object, is a line exactly
then; these are all made of summaries. -/
theorem summarize_isLine_iff (body : String) :
    (Text.IsSpaced (summarize body).toList ∧
      (Text.IsLine (summarize body) ↔ ¬ CarriesBlank body)) ∧
    (∀ status, ∃ message,
      (Failure.ofStatus status body = .unauthorized message ∨
        Failure.ofStatus status body = .http status message) ∧
      Text.IsSpaced message.toList ∧ (Text.IsLine message ↔ ¬ CarriesBlank body)) ∧
    (Sse.IsErrorObject body → ∃ message,
      Sse.Event.ofPayload body = .chunk (.error (some message)) ∧
      Text.IsSpaced message.toList ∧ (Text.IsLine message ↔ ¬ CarriesBlank body)) := by
  have hsummary : Text.IsSpaced (summarize body).toList ∧
      (Text.IsLine (summarize body) ↔ ¬ CarriesBlank body) :=
    ⟨isSpaced_summarize body, isLine_summarize_iff body⟩
  refine ⟨hsummary, fun status => ⟨summarize body, ?_, hsummary⟩,
    fun object => ⟨summarize body, object.ofPayload_eq, hsummary⟩⟩
  unfold Failure.ofStatus
  split
  · exact .inl rfl
  · exact .inr rfl

/-- The error object of a gateway that only says that something is wrong. -/
def wordlessError : String :=
  "\x7b\"error\":\" \"\x7d"

/-- The chunk for an error without a word. -/
theorem summarize_isLine_iff_wordless :
    ∃ message, Sse.Event.ofPayload wordlessError = .chunk (.error (some message)) ∧
      ¬ Text.IsLine message := by
  have hobject : Sse.IsErrorObject wordlessError := ⟨by decide +kernel, by decide +kernel⟩
  obtain ⟨message, hevent, -, hline⟩ := (summarize_isLine_iff wordlessError).2.2 hobject
  have hblank : CarriesBlank wordlessError := ⟨" ", by decide +kernel, by decide +kernel⟩
  exact ⟨message, hevent, fun line => hline.1 line hblank⟩

/-- A body whose message is empty has an empty summary. -/
theorem empty_summary : ¬ ∀ body, Text.IsLine (summarize body) := by
  intro h
  have hempty : summarize "\x7b\"message\":\"\"\x7d" = "" := by decide +kernel
  exact (h _).nonempty hempty

end ChatGateway
