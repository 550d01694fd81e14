import SessionSync.Tool.Signature
import SessionSync.Wire.Tool

/-!
# Tool calls

One record for each tool use of a session, as a reader of the session sees it.
-/

set_option autoImplicit false

namespace SessionSync

/-! ## Status -/

/-- How far a tool use is. -/
inductive ToolStatus where
  | pending
  | permissionRequired
  | executing
  | completed
  | error
  deriving DecidableEq, Repr, Inhabited

namespace ToolStatus

/-- The status for a state in the backend's words; a denied tool is completed. -/
def ofState : ToolState → ToolStatus
  | .pending => .pending
  | .awaitingPermission => .permissionRequired
  | .permissionGranted | .executing => .executing
  | .permissionDenied | .completed => .completed
  | .failed => .error

/-- Whether nothing more is expected of the tool. -/
def isTerminal : ToolStatus → Bool
  | .completed | .error => true
  | .pending | .permissionRequired | .executing => false

/-- The word for a status. -/
def name : ToolStatus → String
  | .pending => "pending"
  | .permissionRequired => "permission_required"
  | .executing => "executing"
  | .completed => "completed"
  | .error => "error"

end ToolStatus

/-! ## Calls -/

/-- Why a tool use will never have a result. -/
structure Orphan where
  reason : String
  message : String
  deriving DecidableEq, Repr

/-- The message for an orphan that brings none. -/
def Orphan.defaultMessage : String :=
  "The tool did not report a result before the session stopped"

/-- An orphan's reason as a value. -/
def Orphan.encode (orphan : Orphan) : Json :=
  Json.ofMembers [("reason", .string orphan.reason), ("message", .string orphan.message)]

/-- One tool use. -/
structure ToolCall where
  toolId : String
  sessionId : String
  toolName : String
  input : Json
  status : ToolStatus
  requestId : Option String
  decision : Option Decision
  suggestions : List Json
  outcome : Option ToolOutcome
  expanded : Bool
  orphaned : Bool
  orphanReason : Option String
  /-- The place in the order of creation. -/
  seq : Nat
  deriving DecidableEq, Repr

namespace ToolCall

/-- A call at its first sight. -/
def start (sessionId toolId toolName : String) (input : Json) (seq : Nat) : ToolCall :=
  { toolId, sessionId, toolName, input, status := .pending, requestId := none, decision := none,
    suggestions := [], outcome := none, expanded := true, orphaned := false, orphanReason := none,
    seq }

/-- The status to show: an orphaned tool is shown as completed. -/
def effectiveStatus (call : ToolCall) : ToolStatus :=
  if call.orphaned then .completed else call.status

/-- The reason to show beside an orphaned tool. -/
def caveat (call : ToolCall) : Option String :=
  if call.orphaned then call.orphanReason else none

/-- A call as a value, with what follows from its fields. -/
def encode (call : ToolCall) : Json :=
  Json.ofMembers [
    ("tool_use_id", .string call.toolId),
    ("session_id", .string call.sessionId),
    ("tool_name", .string call.toolName),
    ("input", call.input),
    ("status", .string call.status.name),
    ("permission_request_id", Json.ofOption Json.string call.requestId),
    ("permission_decision", Json.ofOption Decision.encode call.decision),
    ("suggestions", .array call.suggestions),
    ("result", Json.ofOption ToolOutcome.encode call.outcome),
    ("expanded", .bool call.expanded),
    ("orphaned", .bool call.orphaned),
    ("orphan_reason", Json.ofOption Json.string call.orphanReason),
    ("seq", Json.ofNat call.seq),
    ("effective_status", .string call.effectiveStatus.name),
    ("caveat", Json.ofOption Json.string call.caveat)]

/-- The signature under which a permission request can find the call. -/
def signature (call : ToolCall) : String := toolSignature call.toolName call.input

end ToolCall

end SessionSync
