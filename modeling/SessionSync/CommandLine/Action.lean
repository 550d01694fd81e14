import SessionSync.CommandLine.Arguments
import SessionSync.CommandLine.Fault
import SessionSync.CommandLine.Watch
import SessionSync.World.Server

/-!
# What the program does

The tasks of the program as actions on a world: commands for the engine, a look at
what readers see of it, and lines that are printed.  The world comes to rest after
every command.  While a session is watched the server's side goes on by itself,
which is given as a list of happenings.
-/

set_option autoImplicit false

namespace SessionSync.CommandLine

/-! ## Happenings -/

/-- Something that the server for sockets does. -/
inductive Happening where
  /-- It sends a text. -/
  | text (slot : SlotKind) (text : String)
  /-- It ends the socket of a slot. -/
  | drop (slot : SlotKind)
  deriving DecidableEq, Repr

/-- What the description of a happening says: that the session's socket ends, or
what is sent over a slot. -/
def Happening.decode (value : Json) : Happening :=
  let slot := (((value.member? "slot").bind Json.string?).bind SlotKind.ofName?).getD .session
  if value.member? "drop" = some (.bool true) then .drop .session
  else .text slot (Server.sentText value)

/-! ## Acting on the engine -/

/-- A run under way: the world, the number of commands, what was seen and what was
printed. -/
structure Course where
  world : World ServerLine
  commands : Nat := 0
  seen : List Observation := []
  output : List String := []

/-- An action of the program. -/
abbrev Action := ExceptT Fault (StateM Course)

/-- Print a text. -/
def print (text : String) : Action Unit :=
  modify fun course => { course with output := course.output ++ [text] }

/-- Change the world and let it come to rest; what was seen is the result. -/
def settleAfter (change : World ServerLine → World ServerLine) : Action (List Observation) := do
  let course ← get
  let (world, seen) := ((change course.world).settle ServerLine.host).observations
  set { course with world, seen := course.seen ++ seen }
  return seen

/-- The answer to a caller among what was seen. -/
def answerTo (caller : Caller) (seen : List Observation) : Answer :=
  (seen.findSome? fun observation => match observation with
    | .answered answered answer => if answered = caller then some answer else none
    | _ => none).getD (.failed .stopped)

/-- The announcements among what was seen. -/
def announcements (seen : List Observation) : List StoreEvent :=
  seen.filterMap fun observation => match observation with
    | .event event => some event
    | _ => none

/-- Give the engine a command and wait for its answer; a failure is blamed on
something. -/
def ask (command : Command) (blame : Failure → Fault := .failed) : Action Answer := do
  let caller := (← get).commands
  modify fun course => { course with commands := caller + 1 }
  match answerTo caller (← settleAfter fun world => world.post (.command caller command)) with
  | .failed failure => throw (blame failure)
  | answer => return answer

/-- What readers see of the engine. -/
def look : Action Snapshot := return (← get).world.engine.snapshot

/-! ## Tasks -/

/-- How long the program waits for the session's channel, in milliseconds. -/
def connectTimeout : Nat := 15000

/-- Select a session and wait for its socket. -/
def openSession (sessionId : String) : Action Unit := do
  let start := (← get).world.now
  discard <| ask (.selectSession sessionId) (.notOpened sessionId)
  if start + connectTimeout ≤ (← get).world.now then throw .timedOut
  match (← look).connections.session with
  | .connected => return
  | .failed => throw .gaveUp
  | _ => throw .timedOut

/-- Show the sessions. -/
def listSessions : Action Unit := do
  discard <| ask .refreshSessions
  match (← look).sessions with
  | [] => print "  No sessions."
  | sessions => print ("\n".intercalate (Report.sessionGrid sessions).draw)

/-- Show announcements: as values, or as what a watcher prints. -/
def showEvents (asEvents : Bool) (watcher : Watcher) (seen : List Observation) :
    Action Watcher := do
  let events := announcements seen
  let snapshot ← look
  let (watcher, lines) := if asEvents then
      (watcher, events.map fun event => event.encode.compact)
    else watcher.onEvents snapshot events
  lines.forM print
  return watcher

/-- Something happens on the server's side, where there is a socket for it. -/
def Happening.occur (happening : Happening) (world : World ServerLine) : World ServerLine :=
  (match happening with
    | .text slot sent => world.receive? slot sent
    | .drop slot => world.drop? slot).getD world

/-- Watch a session through what happens. -/
def watch (sessionId : String) (asEvents : Bool) (happenings : List Happening) :
    Action Unit := do
  discard <| ask .connectUi
  discard <| ask (.selectSession sessionId) (.notOpened sessionId)
  let snapshot ← look
  let (watcher, lines) := if asEvents then (Watcher.new, []) else Watcher.new.catchUp snapshot
  lines.forM print
  let watcher ← showEvents asEvents watcher (← get).seen
  discard <| happenings.foldlM
    (fun watcher happening => do
      showEvents asEvents watcher (← settleAfter happening.occur))
    watcher

/-- Do what the program is asked to do, with what happens during a watch and with
the id of a message that is sent. -/
def perform (happenings : List Happening) (messageId : String) : Task → Action Unit
  | .listSessions => listSessions
  | .watch sessionId asEvents => watch sessionId asEvents happenings
  | .send sessionId content => do
      openSession sessionId
      discard <| ask (.sendMessage content messageId)
      print s!"  sent {messageId}"
  | .respond sessionId requestId allow deny reason clarification => do
      if allow == deny then throw .undecided
      openSession sessionId
      discard <| ask (.respondPermission {
        requestId
        decision := if allow then .allow else .deny
        reasoning := if allow then none else reason
        clarification
        selectedSuggestions := [] })
      print "  permission answered"
  | .interrupt sessionId => do
      openSession sessionId
      discard <| ask .interruptSession
      print "  interrupt sent"

end SessionSync.CommandLine
