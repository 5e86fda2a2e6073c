import ChatGateway.Board.Store
import ChatGateway.CommandLine.World

/-!
# The commands about remote sessions

The list is printed with the session that changed last first.  When the gateway cannot
be asked, the last known list is printed under a warning.  One session is shown once the
store has told that it is selected.
-/

set_option autoImplicit false

namespace ChatGateway.CommandLine

/-- What the gateway answers to the store: the first list, a second one that is insisted
on, and any session. -/
def boardSources (w : World) (client : Gateway.Client) : Board.Sources :=
  let (first, client) := client.getSessions w.server false
  let (second, _) := client.getSessions w.server true
  { lists := fun n => Feed.atOnce (if n = 0 then first else second)
    sessions := fun id => Feed.atOnce [(client.getSession w.server id).1] }

/-- A store whose first list has come. -/
def openStore (sources : Board.Sources) : Board.Store :=
  (Board.Store.start sources).wait 0

/-- `s` with blanks after it up to `width` characters. -/
def padEnd (width : Nat) (s : String) : String :=
  s ++ String.ofList (List.replicate (width - s.length) ' ')

/-- A row of the list. -/
def sessionRow (b : Board) (s : Session) : String :=
  (if b.isSelected s.id then "*" else " ") ++ " " ++ padEnd 24 s.id ++ " " ++
    padEnd 28 s.name ++ " " ++ padEnd 12 s.status.name ++ " updated " ++
    s.updatedAt.displayText ++ "\n"

/-- The sessions with the one that changed last first. -/
def latestFirst (sessions : List Session) : List Session :=
  sessions.mergeSort fun a b => b.updatedAt.le a.updatedAt

/-- What is printed about the list of a board. -/
def listReport (w : World) (b : Board) : Report :=
  let warning := match b.error with
    | none => ""
    | some e => "❌ " ++ e ++ "\n"
  if b.sessions.isEmpty then
    if b.error.isSome then w.report 1 "" warning
    else w.report 0 "No terminal sessions.\n" ""
  else
    w.report 0 (String.join ((latestFirst b.sessions).map (sessionRow b)))
      (if b.error.isSome then warning ++ "Showing the last known sessions.\n" else "")

/-- Lists the sessions; `refresh` insists on a new list. -/
def runSessions (w : World) (refresh : Bool) : Report :=
  match Settings.load w.settings with
  | .error f => w.report 1 "" (fileError w.settingsPath f)
  | .ok settings =>
    let sources := boardSources w { connection := w.connection settings none }
    let store := openStore sources
    let store := if refresh then store.dispatch sources [.refresh] else store
    listReport w store.desk.published

/-- Whether a label answers the wish to see the session `id`. -/
def settles (id : String) : Board.Label → Bool
  | .selectionCompleted selected => selected = id
  | .errorOccurred _ => true
  | .loadCompleted => false

/-- The details of a session. -/
def sessionDetails (s : Session) : String :=
  "id:      " ++ s.id ++ "\n" ++
  "name:    " ++ s.name ++ "\n" ++
  "status:  " ++ s.status.name ++ "\n" ++
  "created: " ++ s.createdAt.offsetText ++ "\n" ++
  "updated: " ++ s.updatedAt.offsetText ++ "\n"

/-- Shows one session.  The command waits for ever if the store never tells about it. -/
def runSession (w : World) (id : String) : Report :=
  match Settings.load w.settings with
  | .error f => w.report 1 "" (fileError w.settingsPath f)
  | .ok settings =>
    let sources := boardSources w { connection := w.connection settings none }
    let store := openStore sources
    let told := store.desk.sent.length
    let store := store.dispatch sources [.select id]
    match ((store.desk.sent.drop told).map Prod.fst).find? (settles id),
      store.desk.published.selected with
    | none, _ => { w.report 0 "" "" with exit := none }
    | some (.errorOccurred message), _ => w.report 1 "" ("❌ " ++ message ++ "\n")
    | some (.selectionCompleted _), some s => w.report 0 (sessionDetails s) ""
    | _, _ =>
      let reason := "Session " ++ id ++ " could not be selected"
      w.report 1 "" ("Error: " ++ Text.quoted reason ++ "\n")

end ChatGateway.CommandLine
