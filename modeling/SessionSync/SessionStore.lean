import SessionSync.Sorting
import SessionSync.Table
import SessionSync.Wire.Session

/-!
# The sessions that are known

The records of all sessions, and which session is in focus.  A session can be
in focus without a record.  Sessions are listed by their order number, then by
name, then by id; the list is kept beside the records, and every change of the
records brings it up to date.
-/

set_option autoImplicit false

namespace SessionSync

/-- What a session needs before its messages can be followed. -/
inductive StartPlan where
  /-- It runs. -/
  | ready
  /-- It has to be started, and then to be asked for until it runs. -/
  | start
  /-- It is being started and only has to be asked for. -/
  | poll
  deriving DecidableEq, Repr

/-- What a session in a state needs before its messages can be followed. -/
def StartPlan.ofState : SessionState → StartPlan
  | .created | .terminated | .error => .start
  | .starting => .poll
  | .active | .paused => .ready

/-- The word for a plan. -/
def StartPlan.name : StartPlan → String
  | .ready => "ready"
  | .start => "start"
  | .poll => "poll"

/-- A change of a session's recorded state. -/
structure Transition where
  previous : Option SessionState
  current : SessionState
  deriving DecidableEq, Repr

namespace Transition

/-- Whether the session has left the states in which its tools can report; a
session that was unknown counts as live. -/
def leftLive (transition : Transition) : Bool :=
  !transition.current.isLive && transition.previous.all SessionState.isLive

/-- Whether the state differs from the one before. -/
def changed (transition : Transition) : Bool := transition.previous != some transition.current

/-- A transition as a value. -/
def encode (transition : Transition) : Json :=
  Json.ofMembers [("previous", Json.ofOption SessionState.encode transition.previous),
    ("current", transition.current.encode), ("left_live", .bool transition.leftLive),
    ("changed", .bool transition.changed)]

end Transition

/-- The sessions that are known and the one in focus. -/
structure SessionStore where
  sessions : Table Session
  /-- All records in the order in which they are listed. -/
  list : List Session
  currentId : Option String
  deriving DecidableEq, Repr

namespace SessionStore

/-- No session is known. -/
def empty : SessionStore := { sessions := {}, list := [], currentId := none }

/-- The record of a session. -/
def session? (store : SessionStore) (sessionId : String) : Option Session :=
  store.sessions.find? sessionId

/-- The recorded state of a session. -/
def stateOf (store : SessionStore) (sessionId : String) : Option SessionState :=
  (store.session? sessionId).map Session.state

/-- Whether a session may be listed before another. -/
def listedBefore (left right : Session) : Bool :=
  if left.order ≠ right.order then left.order < right.order
  else if left.name ≠ right.name then decide (left.name < right.name)
  else !decide (right.sessionId < left.sessionId)

/-- Bring the list up to date. -/
def relist (store : SessionStore) : SessionStore :=
  { store with list := sortBy listedBefore store.sessions.values }

@[simp] theorem sessions_relist (store : SessionStore) :
    store.relist.sessions = store.sessions := rfl

@[simp] theorem currentId_relist (store : SessionStore) :
    store.relist.currentId = store.currentId := rfl

/-- The record of the session in focus. -/
def current? (store : SessionStore) : Option Session := store.currentId.bind store.session?

/-- Replace all records; of several with one id the last stays. -/
def replaceAll (store : SessionStore) (sessions : List Session) : SessionStore :=
  relist { store with
    sessions := Table.ofList (sessions.map fun session => (session.sessionId, session)) }

/-- Write one record. -/
def upsert (store : SessionStore) (session : Session) : SessionStore × Transition :=
  (relist { store with sessions := store.sessions.insert session.sessionId session },
    { previous := store.stateOf session.sessionId, current := session.state })

/-- Remove a record; with its record a session loses the focus. -/
def remove (store : SessionStore) (sessionId : String) : SessionStore × Option Session :=
  match store.session? sessionId with
  | none => (store, none)
  | some session =>
      (relist { store with
          sessions := store.sessions.erase sessionId
          currentId := if store.currentId = some sessionId then none else store.currentId },
        some session)

/-- Apply a change of state.  A change with a record writes that record, under
the record's own id; one without changes the session that it is addressed to,
if that is known. -/
def applyStateChange (store : SessionStore) (sessionId : String) (change : StateChange) :
    SessionStore × Option Transition :=
  match change.session with
  | some session =>
      let (store, transition) := store.upsert { session with
        state := change.state
        errorMessage := change.errorMessage.or session.errorMessage }
      (store, some transition)
  | none =>
      match store.session? sessionId with
      | none => (store, none)
      | some session =>
          let changed := { session with
            state := change.state
            errorMessage := change.errorMessage
            mode := change.mode.getD session.mode }
          (relist { store with sessions := store.sessions.insert sessionId changed },
            some { previous := some session.state, current := change.state })

/-- Move the focus. -/
def setCurrent (store : SessionStore) (sessionId : Option String) : SessionStore :=
  { store with currentId := sessionId }

end SessionStore

end SessionSync
