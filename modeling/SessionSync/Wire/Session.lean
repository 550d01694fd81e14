import SessionSync.Timestamp
import SessionSync.Wire.Field

/-!
# Sessions

The record of an agent session as the backend sends it, the states of its life
and the notice of a change of state.
-/

set_option autoImplicit false

namespace SessionSync

open Wire

/-! ## States -/

/-- The states of a session's life. -/
inductive SessionState where
  | created
  | starting
  | active
  | paused
  | terminated
  | error
  deriving DecidableEq, Repr, Inhabited

namespace SessionState

/-- The word for a state. -/
def name : SessionState → String
  | .created => "created"
  | .starting => "starting"
  | .active => "active"
  | .paused => "paused"
  | .terminated => "terminated"
  | .error => "error"

/-- All states. -/
def all : List SessionState := [.created, .starting, .active, .paused, .terminated, .error]

/-- The state of a word. -/
def ofName? (text : String) : Option SessionState := all.find? fun state => state.name == text

/-- The states in which a tool that runs can still report a result. -/
def isLive : SessionState → Bool
  | .starting | .active | .paused => true
  | .created | .terminated | .error => false

/-- A state as a value. -/
def encode (state : SessionState) : Json := .string state.name

/-- A state from a word. -/
def decode? (origin : Origin) : Json → Option SessionState := word origin ofName?

theorem ofName?_name (state : SessionState) : ofName? state.name = some state := by
  cases state <;> decide

end SessionState

/-! ## Permission modes -/

/-- How an agent treats permissions. -/
inductive PermissionMode where
  | default
  | acceptEdits
  | plan
  | bypassPermissions
  deriving DecidableEq, Repr, Inhabited

namespace PermissionMode

/-- The word for a mode. -/
def name : PermissionMode → String
  | .default => "default"
  | .acceptEdits => "acceptEdits"
  | .plan => "plan"
  | .bypassPermissions => "bypassPermissions"

/-- All modes. -/
def all : List PermissionMode := [.default, .acceptEdits, .plan, .bypassPermissions]

/-- The mode of a word. -/
def ofName? (text : String) : Option PermissionMode := all.find? fun mode => mode.name == text

/-- A mode as a value. -/
def encode (mode : PermissionMode) : Json := .string mode.name

/-- A mode from a word. -/
def decode? (origin : Origin) : Json → Option PermissionMode := word origin ofName?

theorem ofName?_name (mode : PermissionMode) : ofName? mode.name = some mode := by
  cases mode <;> decide

end PermissionMode

/-! ## Session records -/

/-- A session as the backend describes it. -/
structure Session where
  sessionId : String
  name : String
  state : SessionState
  mode : PermissionMode
  order : Int
  projectId : Option String
  errorMessage : Option String
  updatedAt : Option Timestamp
  deriving DecidableEq, Repr

namespace Session

/-- The fields of a session record in their order. -/
def fields : List Field :=
  [⟨"session_id", ["id"]⟩, ⟨"name", []⟩, ⟨"state", []⟩, ⟨"current_permission_mode", []⟩,
    ⟨"order", []⟩, ⟨"project_id", []⟩, ⟨"error_message", []⟩, ⟨"updated_at", []⟩]

/-- A session record from a value. -/
def decode? (origin : Origin) (value : Json) : Option Session := do
  let view ← view? fields value
  return {
    sessionId := ← view.required "session_id" Json.string?
    name := ← view.orElse "name" "" Json.string?
    state := ← view.required "state" (SessionState.decode? origin)
    mode := ← view.orElse "current_permission_mode" .default (PermissionMode.decode? origin)
    order := ← view.orElse "order" 0 (integerIn signedMin signedMax)
    projectId := ← view.optional "project_id" Json.string?
    errorMessage := ← view.optional "error_message" Json.string?
    updatedAt := ← view.optional "updated_at" Timestamp.decode? }

/-- A session record as a value. -/
def encode (session : Session) : Json :=
  record [
    always "session_id" (.string session.sessionId),
    always "name" (.string session.name),
    always "state" session.state.encode,
    always "current_permission_mode" session.mode.encode,
    always "order" (Json.ofInt session.order),
    whenSome "project_id" Json.string session.projectId,
    whenSome "error_message" Json.string session.errorMessage,
    whenSome "updated_at" Timestamp.encode session.updatedAt]

end Session

/-! ## Changes of state -/

/-- The notice that a session's state has changed; it may carry the whole
record. -/
structure StateChange where
  sessionId : Option String
  state : SessionState
  errorMessage : Option String
  mode : Option PermissionMode
  session : Option Session
  deriving DecidableEq, Repr

namespace StateChange

/-- The fields of a state change in their order. -/
def fields : List Field :=
  [⟨"session_id", []⟩, ⟨"state", []⟩, ⟨"error_message", []⟩, ⟨"current_permission_mode", []⟩,
    ⟨"session", []⟩]

/-- What a reader wants of a state change. -/
def shape : Json.Shape := shapeOf fields [("session", shapeOf Session.fields [])]

/-- A state change from a value. -/
def decode? (origin : Origin) (value : Json) : Option StateChange := do
  let view ← view? fields value
  return {
    sessionId := ← view.optional "session_id" Json.string?
    state := ← view.required "state" (SessionState.decode? origin)
    errorMessage := ← view.optional "error_message" Json.string?
    mode := ← view.optional "current_permission_mode" (PermissionMode.decode? origin)
    session := ← view.optional "session" (Session.decode? origin) }

/-- A state change as a value. -/
def encode (change : StateChange) : Json :=
  record [
    whenSome "session_id" Json.string change.sessionId,
    always "state" change.state.encode,
    whenSome "error_message" Json.string change.errorMessage,
    whenSome "current_permission_mode" PermissionMode.encode change.mode,
    whenSome "session" Session.encode change.session]

end StateChange

end SessionSync
