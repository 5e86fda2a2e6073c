import ChatGateway.Chat.Conversation
import ChatGateway.Chat.Reply
import ChatGateway.Settings.Preferences

/-!
# A conversation with its operations under way

The commands of a conversation are carried out in the background.  Replies and threads
come in as actions, in the order of time.  Actions of the user may also be queued; they
are applied before anything that is still to come.  The thread is remembered in a file
of preferences, if one is kept; a file that cannot be used is left alone.
-/

set_option autoImplicit false

namespace ChatGateway

/-- What the gateway answers: the source of each reply by its number, and the feed of a
thread by its name. -/
structure Chat.Sources where
  replies : Nat → Reply.Source
  threads : String → Feed (Except Failure (List ThreadMessage))

/-- What the gateway is asked for. -/
inductive Chat.Call
  | reply (request : ChatRequest)
  | thread (id : String)
deriving DecidableEq, Repr

/-- The action that the outcome of a load amounts to. -/
def Action.ofLoad (request : Nat) (thread : String) :
    Except Failure (List ThreadMessage) → Action
  | .ok messages => .threadLoaded request thread messages
  | .error f => .threadFailed request thread f

/-- What comes of a load that starts at `now`: the first result of the feed, or a failure
if it ends without one. -/
def Chat.loadActions (now request : Nat) (thread : String)
    (feed : Feed (Except Failure (List ThreadMessage))) : List (Due Action) :=
  match feed with
  | [] => [⟨now, .ofLoad request thread (.error .emptyResponse)⟩]
  | item :: _ =>
    match item.result with
    | none => []
    | some result => [⟨now + item.delay, .ofLoad request thread result⟩]

/-- What comes of a reply that starts at `now`. -/
def Chat.replyActions (now stream : Nat) (source : Reply.Source) : List (Due Action) :=
  (Reply.envelopes now stream source).map fun d => ⟨d.time, .chunk d.what.stream d.what.chunk⟩

/-- Whether an action comes of an operation. -/
def Operation.brings : Operation → Action → Bool
  | .stream id, .chunk reply _ => reply = id
  | .load id, .threadLoaded request _ _ => request = id
  | .load id, .threadFailed request _ _ => request = id
  | _, _ => false

/-- A conversation with its operations under way. -/
structure LiveChat where
  conversation : Conversation
  now : Nat := 0
  /-- The number of replies so far. -/
  replies : Nat := 0
  /-- What is still to come of the operations. -/
  agenda : Agenda Action := []
  /-- Actions that wait to be applied. -/
  queue : List Action := []
  /-- What the gateway has been asked for since it was last looked at. -/
  calls : List Chat.Call := []
  /-- The file of preferences, if one is kept. -/
  preferences : Option File := none

namespace LiveChat

/-- Carries a command out. -/
def execute (sources : Chat.Sources) (c : LiveChat) : Command → LiveChat
  | .openStream stream request =>
    { c with
      replies := c.replies + 1
      agenda :=
        c.agenda.insertAll (Chat.replyActions c.now stream (sources.replies c.replies))
      calls := c.calls ++ [.reply request] }
  | .loadThread request thread =>
    { c with
      agenda := c.agenda.insertAll (Chat.loadActions c.now request thread (sources.threads thread))
      calls := c.calls ++ [.thread thread] }
  | .remember thread =>
    { c with
      preferences := c.preferences.map fun f =>
        (Preferences.update none (fun p => { p with thread := thread }) f).2 }

/-- Applies an action and carries out the command that it leads to. -/
def apply (sources : Chat.Sources) (c : LiveChat) (a : Action) : LiveChat :=
  let o := c.conversation.apply a
  let c : LiveChat :=
    { c with
      conversation := o.conversation
      agenda := c.agenda.drop fun a => o.cancelled.any fun op => op.brings a }
  match o.command with
  | none => c
  | some command => c.execute sources command

/-- Queues actions of the user. -/
def enqueue (c : LiveChat) (actions : List Action) : LiveChat :=
  { c with queue := c.queue ++ actions }

/-- Applies the actions that are queued. -/
def handleQueue (sources : Chat.Sources) (c : LiveChat) : LiveChat :=
  c.queue.foldl (apply sources) { c with queue := [] }

/-- Handles the queue, lets some time pass, and applies what comes meanwhile. -/
def wait (sources : Chat.Sources) (c : LiveChat) (time : Nat) : LiveChat :=
  let c := c.handleQueue sources
  let (actions, rest) := c.agenda.take (c.now + time)
  actions.foldl (apply sources) { c with agenda := rest, now := c.now + time }

end LiveChat

end ChatGateway
