import ChatGateway.Chat.Live
import ChatGateway.CommandLine.World

/-!
# The command that sends one message

The thread that is named, or else the latest one, is loaded first, unless a new one is
asked for; if that fails, the message starts a new thread.  The reply is printed as it
grows.  The command fails if the reply ended in an error.
-/

set_option autoImplicit false

namespace ChatGateway.CommandLine

/-- What has been printed of a reply. -/
structure ReplyPrinter where
  /-- The message that is printed. -/
  message : Option String
  /-- How many bytes of it have been printed. -/
  printed : Nat := 0
  /-- The task that was announced last. -/
  task : Option String := none
  out : String := ""
  err : String := ""
  failed : Bool := false
deriving DecidableEq, Repr

namespace ReplyPrinter

/-- Announces a task when it changes. -/
def announce (p : ReplyPrinter) (task : Option String) : ReplyPrinter :=
  if task = p.task then p
  else
    { p with
      task := task
      err := match task with
        | none => p.err
        | some t => p.err ++ "\n⚙️  " ++ t ++ "\n" }

/-- Prints what has come since, unless that would start within a character. -/
def extend (p : ReplyPrinter) (t : Transcript) : ReplyPrinter :=
  match p.message.bind t.find? with
  | none => p
  | some m =>
    match Text.Utf8.fromByte? p.printed m.content.toList with
    | none | some [] => p
    | some fresh =>
      { p with
        out := p.out ++ String.ofList fresh
        printed := m.content.utf8ByteSize }

/-- Prints notices, each of which means that the reply failed. -/
def complain (p : ReplyPrinter) (notices : List String) : ReplyPrinter :=
  { p with
    err := notices.foldl (fun err notice => err ++ "\n❌ Error: " ++ notice ++ "\n") p.err
    failed := p.failed || !notices.isEmpty }

/-- Prints what an action has changed. -/
def flush (p : ReplyPrinter) (c : Conversation) : ReplyPrinter :=
  ((p.announce c.transcript.task).extend c.transcript).complain c.notices

end ReplyPrinter

/-- Applies what comes of a reply as long as it is under way, and prints it. -/
def followReply (sources : Chat.Sources) :
    List Action → LiveChat → ReplyPrinter → LiveChat × ReplyPrinter
  | [], c, p => (c, p)
  | a :: rest, c, p =>
    if !c.conversation.isBusy then (c, p)
    else
      let c := c.apply sources a
      let p := p.flush c.conversation
      followReply sources rest { c with conversation := c.conversation.takeNotices.2 } p

/-- The chat after its thread was loaded, the client after that, and what was printed. -/
def openThread (w : World) (client : Gateway.Client) (thread : Option String) (c : LiveChat) :
    LiveChat × Gateway.Client × String :=
  match thread with
  | none => (c, client, "")
  | some id =>
    let (result, client) := client.getThread w.server id
    let sources : Chat.Sources := ⟨fun _ => [], fun _ => Feed.atOnce [result]⟩
    let c := (c.apply sources (.selectThread id)).wait sources 0
    let (notices, conversation) := c.conversation.takeNotices
    ({ c with conversation := conversation }, client,
      String.join (notices.map fun n => "⚠️  " ++ n ++ "; starting a new thread\n"))

/-- What the gateway gives as the reply to a message. -/
def replyTo (w : World) (client : Gateway.Client) (c : Conversation) (prompt : String) :
    List Sse.Item :=
  match (c.apply (.submit prompt)).command with
  | some (.openStream _ request) => (client.chat w.server (fun _ => false) request).1
  | _ => []

/-- Sends a message and prints the reply. -/
def sendMessage (w : World) (client : Gateway.Client) (c : LiveChat) (prompt : String) :
    LiveChat × ReplyPrinter :=
  let reply := Feed.atOnce (replyTo w client c.conversation prompt)
  let sources : Chat.Sources := ⟨fun _ => reply, fun _ => []⟩
  let c := c.apply sources (.submit prompt)
  followReply sources (c.agenda.map Due.what) { c with agenda := [] }
    { message := c.conversation.transcript.streaming }

/-- Carries the command out. -/
def runChat (w : World) (message : List String) (thread : Option String) (fresh : Bool)
    (model : Option String) : Report :=
  let prompt := " ".intercalate message
  if Text.isBlankText prompt then w.report 1 "" "Usage: chatline chat <message>\n"
  else
    match Settings.load w.settings, Preferences.load w.preferences with
    | .error f, _ => w.report 1 "" (fileError w.settingsPath f)
    | .ok _, .error f => w.report 1 "" (fileError w.preferencesPath f)
    | .ok settings, .ok preferences =>
      let connection := w.connection settings (model.or preferences.model)
      let start : LiveChat :=
        { conversation := .start connection.model none, preferences := some w.preferences }
      let (c, client, warnings) :=
        openThread w { connection := connection }
          (if fresh then none else thread.or preferences.thread) start
      let (c, p) := sendMessage w client c prompt
      { exit := if c.conversation.isBusy then none else some (if p.failed then 1 else 0)
        out := p.out ++ "\n"
        err := warnings ++ p.err
        preferences := c.preferences.getD w.preferences
        stored := w.stored }

end ChatGateway.CommandLine
