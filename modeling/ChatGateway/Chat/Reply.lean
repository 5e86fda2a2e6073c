import ChatGateway.Agenda
import ChatGateway.Failure
import ChatGateway.Wire.Chunk

/-!
# Replies over time

Each reply is received in the background.  Its chunks are passed on with its number,
up to the first terminal one.  A failure becomes an error chunk, and a reply that ends
without a terminal chunk gets an empty one, so that every reply has exactly one; only
a reply that was cancelled ends in silence.
-/

set_option autoImplicit false

namespace ChatGateway.Reply

/-- A chunk with the number of its reply. -/
structure Envelope where
  stream : Nat
  chunk : Chunk
deriving DecidableEq, Repr

/-- What a source gives as a reply. -/
abbrev Source := Feed (Except Failure Chunk)

/-- The chunks that a reply passes on when its results are these; `closing` is the time
at which the results end, if they do. -/
def delivered (closing : Option Nat) : List (Nat × Except Failure Chunk) → List (Due Chunk)
  | [] =>
    match closing with
    | none => []
    | some time => [⟨time, .finished⟩]
  | (time, .ok c) :: rest =>
    if c.isTerminal then [⟨time, c⟩] else ⟨time, c⟩ :: delivered closing rest
  | (time, .error f) :: _ =>
    if f.isCancelled then [] else [⟨time, .failed f.describe⟩]

/-- What comes of a reply that starts at `now`. -/
def envelopes (now stream : Nat) (source : Source) : List (Due Envelope) :=
  (delivered (source.endTime now) (source.timed now)).map fun d => ⟨d.time, ⟨stream, d.what⟩⟩

/-- The replies that are being received, from sources that are used in turn. -/
structure Service where
  now : Nat := 0
  /-- The number of replies so far. -/
  started : Nat := 0
  agenda : Agenda Envelope := []

namespace Service

/-- Starts a reply; its source is the next one. -/
def start (sources : Nat → Source) (s : Service) (stream : Nat) : Service :=
  { s with
    started := s.started + 1
    agenda := Agenda.insertAll s.agenda (envelopes s.now stream (sources s.started)) }

/-- Cancels a reply. -/
def cancel (s : Service) (stream : Nat) : Service :=
  { s with agenda := Agenda.drop (fun e => e.stream = stream) s.agenda }

/-- Lets some time pass.  Gives what comes meanwhile, in order. -/
def wait (s : Service) (time : Nat) : List Envelope × Service :=
  let (envelopes, rest) := Agenda.take (s.now + time) s.agenda
  (envelopes, { s with now := s.now + time, agenda := rest })

end Service

end ChatGateway.Reply
