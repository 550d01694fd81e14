import SessionSync.Channel.Slot
import SessionSync.Engine.Event
import SessionSync.Engine.Selection
import SessionSync.Tool.Call
import SessionSync.Wire.ClientFrame

/-!
# What reaches the engine and what leaves it

The engine handles one input after another.  Inputs are the commands of its
callers, the results of the work that it has begun, and the events of its
channels.  Every input has effects: announcements, answers to callers, new work,
and frames for a socket.
-/

set_option autoImplicit false

namespace SessionSync

/-- Who waits for an answer. -/
abbrev Caller := Nat

/-- What a caller can ask of the engine. -/
inductive Command where
  | refreshSessions
  | selectSession (sessionId : String)
  | clearSelection
  | connectUi
  | connectLegion (legionId : String)
  | disconnectLegion
  /-- Send a text to the session in focus, under an id that is new. -/
  | sendMessage (content messageId : String)
  | respondPermission (answer : PermissionAnswer)
  | interruptSession
  | syncMessages (sessionId : String)
  | toggleToolExpanded (sessionId toolId : String)
  | markToolOrphaned (sessionId toolId reason : String)
  | orphanInfo (sessionId toolId : String)
  | setDraft (sessionId text : String)
  | shutdown
  deriving DecidableEq, Repr

/-- What a caller is answered. -/
inductive Answer where
  | done
  | failed (failure : Failure)
  /-- The message was sent under this id. -/
  | sent (messageId : String)
  | synced (report : SyncReport)
  | toggled (expanded : Option Bool)
  | orphan (orphan : Option Orphan)
  deriving DecidableEq, Repr

/-- Work that goes on beside the engine.  It asks the backend and brings the
answer back as an input. -/
inductive Job where
  | refresh (caller : Option Caller)
  | select (task : SelectionTask)
  /-- Fill the gap of a session under the generation of its connection. -/
  | sync (caller : Option Caller) (sessionId : String) (generation limit offset : Nat)
  deriving DecidableEq, Repr

/-- An input of the engine. -/
inductive Input where
  | command (caller : Caller) (command : Command)
  | sessionsFetched (caller : Option Caller) (outcome : Except Failure (List Session))
  | selection (epoch : Nat) (step : SelectionStep)
  | syncFetched (caller : Option Caller) (sessionId : String) (generation : Nat)
      (outcome : Except Failure Backend.Page)
  | channel (event : ChannelEvent)

/-- An effect of an input. -/
inductive Effect where
  | publish (event : StoreEvent)
  | answer (caller : Caller) (answer : Answer)
  | begin (job : Job)
  /-- Hand a frame to the socket of a slot. -/
  | send (slot : SlotKind) (frame : ClientFrame)
  /-- A slot has reported an event, which is to be handled in its turn. -/
  | report (event : ChannelEvent)
  deriving DecidableEq, Repr

namespace Job

/-- The call that a job makes. -/
abbrev call : Job → Backend.Call
  | .refresh _ => .listSessions
  | .select task => task.call
  | .sync _ sessionId _ limit offset => .fetchMessages sessionId limit offset

/-- The caller that a job answers in the end. -/
def caller? : Job → Option Caller
  | .refresh caller | .sync caller .. => caller
  | .select _ => none

/-- Go on with the answer to a job's call: the inputs it brings back, and the job
that is left. -/
def resume : (job : Job) → Backend.Outcome job.call → List Input × Option Job
  | .refresh caller, outcome => ([.sessionsFetched caller outcome], none)
  | .select task, outcome =>
      let (steps, next) := task.resume outcome
      (steps.map (.selection task.epoch), next.map .select)
  | .sync caller sessionId generation _ _, outcome =>
      ([.syncFetched caller sessionId generation outcome], none)

end Job

end SessionSync
