import ChatGateway.Sse.Event
import ChatGateway.Sse.LineBuffer

/-!
# Reading a reply from a body

The body of a chat answer arrives in reads.  After each read the complete lines are
taken from the buffer and what they mean is queued.  A reply ends at a terminal chunk,
at the end mark, at a payload that cannot be understood, when the transport fails, when
it stays silent for too long, or at the end of the body, whose last line needs no line
feed.  Whether the caller has cancelled is looked at before each read only.
-/

set_option autoImplicit false

namespace ChatGateway.Sse

/-- One item of a reply. -/
abbrev Item := Except Failure Chunk

/-- What one read of a body gives. -/
inductive Read
  | bytes (bs : List UInt8)
  /-- The transport failed. -/
  | failed (f : Failure)
  /-- Nothing came for as long as the caller waits. -/
  | silent
deriving Repr

/-- A reply that is being read. -/
structure ReplyReader where
  lines : LineBuffer := {}
  /-- Items that have been decoded and not yet handed out. -/
  pending : List Item := []
  finished : Bool := false

namespace ReplyReader

/-- Takes in one line. -/
def takeLine (r : ReplyReader) (line : String) : ReplyReader :=
  if r.finished then r
  else
    match Event.ofLine line with
    | none => r
    | some .finish => { r with finished := true }
    | some (.chunk c) =>
      { r with finished := c.isTerminal, pending := r.pending ++ [.ok c] }
    | some (.malformed detail) =>
      { r with finished := true, pending := r.pending ++ [.error (.malformed detail)] }

/-- Takes in a line of the buffer; bytes that are no text are skipped. -/
def takeBufferLine (r : ReplyReader) : Line → ReplyReader
  | .text s => r.takeLine s
  | .invalid _ => r

/-- Takes in the bytes of a read. -/
def feed (r : ReplyReader) (bs : List UInt8) : ReplyReader :=
  let (lines, rest) := (r.lines.extend bs).drain
  { lines.foldl takeBufferLine r with lines := rest }

/-- Takes in the end of the body. -/
def close (r : ReplyReader) : ReplyReader :=
  let (line, rest) := r.lines.remainder
  let r := match line with
    | none => r
    | some s => r.takeLine s
  { r with lines := rest, finished := true }

/-- The failure of a body that stayed silent for so many seconds. -/
def idleFailure (seconds : Nat) : Failure :=
  .timeout .streaming ("no data for " ++ toString seconds ++ "s")

/-- The items of a reply from a body that gives these reads and then ends.  `cancelled`
says whether the caller has cancelled when so many items have been handed out and the
next read is due. -/
def items (idle : Nat) (cancelled : Nat → Bool) (count : Nat) (r : ReplyReader) :
    List Read → List Item
  | [] =>
    r.pending ++
      (if r.finished || cancelled (count + r.pending.length) then []
       else { r with pending := [] }.close.pending)
  | read :: reads =>
    r.pending ++
      (if r.finished || cancelled (count + r.pending.length) then []
       else
        match read with
        | .bytes bs =>
          items idle cancelled (count + r.pending.length) ({ r with pending := [] }.feed bs) reads
        | .failed f => [.error f]
        | .silent => [.error (idleFailure idle)])

end ReplyReader

/-- The items of the reply that a body carries. -/
def replyItems (idle : Nat) (cancelled : Nat → Bool) (reads : List Read) : List Item :=
  ReplyReader.items idle cancelled 0 {} reads

end ChatGateway.Sse
