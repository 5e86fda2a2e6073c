import ChatGateway.Board.Fetcher

/-!
# The store of the board

The store owns the board.  It carries out intents and events one at a time, publishes
the board after every change, and tells observers about labels once the board that they
speak of has been published.  An observer that reads seldom loses the oldest labels.
-/

set_option autoImplicit false

namespace ChatGateway.Board

/-- What a store shows to the outside. -/
structure Desk where
  board : Board := {}
  /-- The board as it was last published. -/
  published : Board := {}
  /-- The labels so far with the board that was published when each was sent. -/
  sent : List (Label × Board) := []

namespace Desk

/-- Carries out an effect. -/
def apply (d : Desk) : Effect → Desk
  | .change c =>
    let board := d.board.apply c
    { d with board := board, published := board }
  | .label l => { d with sent := d.sent ++ [(l, d.published)] }

/-- Carries out effects in order. -/
def applyAll (d : Desk) (es : List Effect) : Desk :=
  es.foldl apply d

end Desk

/-- How many labels an observer can fall behind. -/
def labelCapacity : Nat :=
  32

/-- What an observer reads: labels, or how many of them were lost first. -/
structure Reading where
  lost : Nat
  labels : List Label
deriving DecidableEq, Repr

/-- What an observer reads of the labels that were sent since it last read. -/
def Reading.ofLabels (labels : List Label) : Reading :=
  let lost := labels.length - labelCapacity
  ⟨lost, labels.drop lost⟩

/-- A store with the fetches that it has started. -/
structure Store where
  desk : Desk := {}
  bench : Bench := {}
  /-- What the gateway has been asked for since it was last looked at. -/
  asked : List Fetch := []
  closed : Bool := false

namespace Store

/-- Carries an intent out. -/
def intend (sources : Sources) (s : Store) (i : Intent) : Store :=
  let (effects, fetch, bench) := s.bench.execute sources s.desk.board i
  { s with
    desk := s.desk.applyAll effects
    bench := bench
    asked := s.asked ++ fetch.toList }

/-- Handles an event. -/
def handle (s : Store) (e : Event) : Store :=
  let (effects, bench) := s.bench.handle e
  { s with desk := s.desk.applyAll effects, bench := bench }

/-- Lets some time pass and handles what comes meanwhile as it comes. -/
def wait (s : Store) (time : Nat) : Store :=
  let (events, fetcher) := s.bench.fetcher.wait time
  events.foldl handle { s with bench := { s.bench with fetcher := fetcher } }

/-- A new store, which has asked for the first list. -/
def start (sources : Sources) : Store :=
  intend sources {} .load

/-- Carries intents out in order, and then handles what has come of them already.  A
closed store ignores them. -/
def dispatch (sources : Sources) (s : Store) (is : List Intent) : Store :=
  if s.closed then s else (is.foldl (intend sources) s).wait 0

/-- Ends the store and its fetches. -/
def close (s : Store) : Store :=
  { s with bench := s.bench.stop, closed := true }

end Store

end ChatGateway.Board
