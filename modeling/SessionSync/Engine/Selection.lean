import SessionSync.Backend.Call
import SessionSync.Config
import SessionSync.SessionStore

/-!
# Selecting a session

Before a session can be followed its record is fetched, it is started if it does
not run, and its history is loaded.  A selection task goes through these stages;
at every stage it waits for the answer to one call.  What it learns it reports
as steps, under the epoch of its selection.
-/

set_option autoImplicit false

namespace SessionSync

/-- How far the selection is. -/
inductive SelectionPhase where
  | idle
  | loading (sessionId : String)
  | ready (sessionId : String)
  | failed (sessionId error : String)
  deriving DecidableEq, Repr

/-- The session that a phase is about. -/
def SelectionPhase.sessionId? : SelectionPhase → Option String
  | .idle => none
  | .loading sessionId | .ready sessionId | .failed sessionId _ => some sessionId

/-- A phase as a value. -/
def SelectionPhase.encode : SelectionPhase → Json
  | .idle => Json.ofMembers [("phase", .string "idle")]
  | .loading sessionId =>
      Json.ofMembers [("phase", .string "loading"), ("session_id", .string sessionId)]
  | .ready sessionId =>
      Json.ofMembers [("phase", .string "ready"), ("session_id", .string sessionId)]
  | .failed sessionId error =>
      Json.ofMembers [("phase", .string "failed"), ("session_id", .string sessionId),
        ("error", .string error)]

/-- What a selection task reports. -/
inductive SelectionStep where
  /-- The latest record of the session. -/
  | session (session : Session)
  /-- The history, the last report of a selection that succeeds. -/
  | history (page : Backend.Page)
  /-- The last report of a selection that fails. -/
  | failed (failure : Failure)
  deriving DecidableEq, Repr

/-- Which answer a selection task waits for. -/
inductive SelectionStage where
  /-- The first record. -/
  | fetching
  /-- The start of the session whose record was fetched. -/
  | starting (session : Session)
  /-- The record again, with so many tries left after this one. -/
  | polling (session : Session) (left : Nat)
  /-- The history. -/
  | loading
  deriving DecidableEq, Repr

/-- A selection on its way. -/
structure SelectionTask where
  sessionId : String
  epoch : Nat
  historyLimit : Nat
  maxPolls : Nat
  stage : SelectionStage
  deriving DecidableEq, Repr

namespace SelectionTask

/-- The task of a new selection. -/
def start (config : Config) (sessionId : String) (epoch : Nat) : SelectionTask :=
  { sessionId, epoch, historyLimit := config.historyLimit, maxPolls := config.startMaxPolls,
    stage := .fetching }

/-- The call at a stage. -/
abbrev callAt (sessionId : String) (historyLimit : Nat) : SelectionStage → Backend.Call
  | .fetching | .polling .. => .fetchSession sessionId
  | .starting _ => .startSession sessionId
  | .loading => .fetchMessages sessionId historyLimit 0

/-- The call whose answer the task waits for. -/
abbrev call (task : SelectionTask) : Backend.Call :=
  callAt task.sessionId task.historyLimit task.stage

/-- The stage after a record, with so many tries left: the history of a session
that is ready or was asked for often enough, else the record again. -/
def await (session : Session) : Nat → SelectionStage
  | 0 => .loading
  | left + 1 =>
      if StartPlan.ofState session.state = .ready then .loading else .polling session left

/-- The stage after the first record. -/
def afterFetch (maxPolls : Nat) (session : Session) : SelectionStage :=
  match StartPlan.ofState session.state with
  | .ready => .loading
  | .start => .starting session
  | .poll => await session maxPolls

/-- Go on from a stage with the answer to its call: what is reported, and the
next stage.  Only the first record and the history have to be there; a start
that fails is as good as one that has no effect, and so is a failed poll. -/
def advance (sessionId : String) (historyLimit maxPolls : Nat) : (stage : SelectionStage) →
    Backend.Outcome (callAt sessionId historyLimit stage) →
    List SelectionStep × Option SelectionStage
  | .fetching, .ok session => ([.session session], some (afterFetch maxPolls session))
  | .fetching, .error failure => ([.failed failure], none)
  | .starting _, .ok session => ([.session session], some (await session maxPolls))
  | .starting session, .error _ => ([], some (await session maxPolls))
  | .polling session left, .ok latest =>
      (if latest.state = session.state then [] else [.session latest], some (await latest left))
  | .polling session left, .error _ => ([], some (await session left))
  | .loading, .ok page => ([.history page], none)
  | .loading, .error failure => ([.failed failure], none)

/-- Go on with the answer to the task's call. -/
def resume (task : SelectionTask) (outcome : Backend.Outcome task.call) :
    List SelectionStep × Option SelectionTask :=
  let (steps, next) := advance task.sessionId task.historyLimit task.maxPolls task.stage outcome
  (steps, next.map fun stage => { task with stage })

end SelectionTask

end SessionSync
