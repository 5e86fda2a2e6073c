import ChatGateway.Agenda
import ChatGateway.Board.Executor

/-!
# Fetches over time

A fetcher carries the fetches of an executor out against a gateway whose answers are
feeds.  A list fetch brings every result of its feed and then its end.  A session fetch
brings the first result of its feed only, and a failure if the feed ends without one.
A fetch that is cancelled, or started after the fetcher was stopped, brings nothing.
-/

set_option autoImplicit false

namespace ChatGateway.Board

/-- What the gateway answers: the feed of each list fetch by its number, and the feed
of a session by its name. -/
structure Sources where
  lists : Nat → Feed (Except Failure (List Session))
  sessions : String → Feed (Except Failure Session)

/-- What comes of a list fetch that starts at `now`. -/
def listEvents (now : Nat) (feed : Feed (Except Failure (List Session))) :
    List (Due Event) :=
  let results := feed.timed now
  let lastOk := match results.getLast? with
    | some (_, .ok _) => true
    | _ => false
  results.map (fun r => ⟨r.1, .listed r.2⟩) ++
    match feed.endTime now with
    | none => []
    | some time => [⟨time, .finished (!results.isEmpty) lastOk⟩]

/-- What comes of a session fetch that starts at `now`. -/
def sessionEvents (now request : Nat) (id : String) (feed : Feed (Except Failure Session)) :
    List (Due Event) :=
  match feed with
  | [] => [⟨now, .answered request id (.error .emptyResponse)⟩]
  | item :: _ =>
    match item.result with
    | none => []
    | some result => [⟨now + item.delay, .answered request id result⟩]

/-- The fetches that are under way. -/
structure Fetcher where
  now : Nat := 0
  /-- The number of list fetches so far. -/
  lists : Nat := 0
  agenda : Agenda Event := []
  stopped : Bool := false

namespace Fetcher

/-- Starts a fetch. -/
def start (sources : Sources) (f : Fetcher) : Fetch → Fetcher
  | .list _ =>
    let events := if f.stopped then [] else listEvents f.now (sources.lists f.lists)
    { f with lists := f.lists + 1, agenda := Agenda.insertAll f.agenda events }
  | .session request id =>
    let events :=
      if f.stopped then [] else sessionEvents f.now request id (sources.sessions id)
    { f with agenda := Agenda.insertAll f.agenda events }

/-- Whether an event belongs to a session request. -/
def answers (request : Nat) : Event → Bool
  | .answered r _ _ => r = request
  | _ => false

/-- Cancels a session fetch. -/
def cancel (f : Fetcher) (request : Nat) : Fetcher :=
  { f with agenda := Agenda.drop (answers request) f.agenda }

/-- Cancels all fetches, those that are still to be started too. -/
def stop (f : Fetcher) : Fetcher :=
  { f with agenda := [], stopped := true }

/-- Lets some time pass.  Gives what comes meanwhile, in order. -/
def wait (f : Fetcher) (time : Nat) : List Event × Fetcher :=
  let (events, rest) := Agenda.take (f.now + time) f.agenda
  (events, { f with now := f.now + time, agenda := rest })

end Fetcher

/-- An executor with its fetches. -/
structure Bench where
  executor : Executor := {}
  fetcher : Fetcher := {}

namespace Bench

/-- Carries an intent out on the board `b`.  Gives the effects and what the gateway is
asked for. -/
def execute (sources : Sources) (bench : Bench) (b : Board) (i : Intent) :
    List Effect × Option Fetch × Bench :=
  let o := bench.executor.execute b i
  let fetcher := match o.cancelled with
    | none => bench.fetcher
    | some request => bench.fetcher.cancel request
  let fetcher := match o.fetch with
    | none => fetcher
    | some f => fetcher.start sources f
  (o.effects, o.fetch, ⟨o.executor, fetcher⟩)

/-- Handles an event. -/
def handle (bench : Bench) (e : Event) : List Effect × Bench :=
  let (effects, executor) := bench.executor.handle e
  (effects, { bench with executor := executor })

/-- Handles events in order; one list of effects for each. -/
def handleAll (bench : Bench) : List Event → List (List Effect) × Bench
  | [] => ([], bench)
  | e :: es =>
    let (effects, bench) := bench.handle e
    let (rest, bench) := handleAll bench es
    (effects :: rest, bench)

/-- Lets some time pass and then handles what has come. -/
def wait (bench : Bench) (time : Nat) : List (List Effect) × Bench :=
  let (events, fetcher) := bench.fetcher.wait time
  { bench with fetcher := fetcher }.handleAll events

/-- Cancels all fetches. -/
def stop (bench : Bench) : Bench :=
  { bench with fetcher := bench.fetcher.stop }

end Bench

end ChatGateway.Board
