import SessionSync.Timestamp
import SessionSync.Wire.Field

/-!
# The records of a tool's life

Two protocols report what becomes of a tool use.  The older one has four
records: the use, the permission request, the answer to it and the result.  The
newer one has a single event that carries the tool's whole state.  A message may
also bring the backend's own view of its tools, the display block.
-/

set_option autoImplicit false

namespace SessionSync

open Wire

/-! ## Uses and results -/

/-- The agent uses a tool. -/
structure ToolUse where
  toolId : String
  name : String
  input : Json
  deriving DecidableEq, Repr

namespace ToolUse

/-- The fields of a tool use in their order. -/
def fields : List Field := [⟨"id", []⟩, ⟨"name", []⟩, ⟨"input", []⟩]

/-- A tool use from a value. -/
def decode? (value : Json) : Option ToolUse := do
  let view ← view? fields value
  return {
    toolId := ← view.required "id" Json.string?
    name := ← view.required "name" Json.string?
    input := ← view.orElse "input" .null freeValue }

/-- The members of a tool use. -/
def members (toolUse : ToolUse) : List (List (String × Json)) :=
  [always "id" (.string toolUse.toolId), always "name" (.string toolUse.name),
    always "input" toolUse.input]

/-- A tool use as a value. -/
def encode (toolUse : ToolUse) : Json := record toolUse.members

end ToolUse

/-- The result of a tool use. -/
structure ToolResult where
  toolId : String
  content : Json
  isError : Bool
  deriving DecidableEq, Repr

namespace ToolResult

/-- The fields of a tool result in their order. -/
def fields : List Field := [⟨"tool_use_id", []⟩, ⟨"content", []⟩, ⟨"is_error", []⟩]

/-- A tool result from a value. -/
def decode? (value : Json) : Option ToolResult := do
  let view ← view? fields value
  return {
    toolId := ← view.required "tool_use_id" Json.string?
    content := ← view.orElse "content" .null freeValue
    isError := ← view.orElse "is_error" false Json.bool? }

/-- The members of a tool result. -/
def members (result : ToolResult) : List (List (String × Json)) :=
  [always "tool_use_id" (.string result.toolId), always "content" result.content,
    always "is_error" (.bool result.isError)]

/-- A tool result as a value. -/
def encode (result : ToolResult) : Json := record result.members

end ToolResult

/-! ## Permissions -/

/-- The answer to a permission request. -/
inductive Decision where
  | allow
  | deny
  deriving DecidableEq, Repr

namespace Decision

/-- The word for a decision. -/
def name : Decision → String
  | .allow => "allow"
  | .deny => "deny"

/-- The decision of a word; the past tense and "approve" are also understood. -/
def ofName? (text : String) : Option Decision :=
  if ["allow", "allowed", "approve", "approved"].contains text then some .allow
  else if ["deny", "denied"].contains text then some .deny
  else none

/-- A decision as a value. -/
def encode (decision : Decision) : Json := .string decision.name

/-- A decision from a word. -/
def decode? (origin : Origin) : Json → Option Decision := word origin ofName?

theorem ofName?_name (decision : Decision) : ofName? decision.name = some decision := by
  cases decision <;> decide

end Decision

/-- The agent asks before it runs a tool.  An older backend does not name the
tool use that it asks for. -/
structure PermissionRequest where
  requestId : String
  toolName : String
  input : Json
  toolId : Option String
  suggestions : List Json
  deriving DecidableEq, Repr

namespace PermissionRequest

/-- The fields of a permission request in their order. -/
def fields : List Field :=
  [⟨"request_id", []⟩, ⟨"tool_name", []⟩, ⟨"input_params", []⟩, ⟨"tool_use_id", []⟩,
    ⟨"suggestions", []⟩]

/-- A permission request from a value. -/
def decode? (value : Json) : Option PermissionRequest := do
  let view ← view? fields value
  return {
    requestId := ← view.required "request_id" Json.string?
    toolName := ← view.required "tool_name" Json.string?
    input := ← view.orElse "input_params" .null freeValue
    toolId := ← view.optional "tool_use_id" Json.string?
    suggestions := ← view.orElse "suggestions" [] (listOf freeValue) }

/-- A permission request as a value. -/
def encode (request : PermissionRequest) : Json :=
  record [
    always "request_id" (.string request.requestId),
    always "tool_name" (.string request.toolName),
    always "input_params" request.input,
    whenSome "tool_use_id" Json.string request.toolId,
    whenFilled "suggestions" id request.suggestions]

end PermissionRequest

/-- The decision on a permission request. -/
structure PermissionResponse where
  requestId : String
  decision : Decision
  reasoning : Option String
  toolId : Option String
  clarification : Option String
  appliedUpdates : List Json
  deriving DecidableEq, Repr

namespace PermissionResponse

/-- The fields of a permission response in their order. -/
def fields : List Field :=
  [⟨"request_id", []⟩, ⟨"decision", []⟩, ⟨"reasoning", []⟩, ⟨"tool_use_id", []⟩,
    ⟨"clarification", []⟩, ⟨"applied_updates", []⟩]

/-- A permission response from a value. -/
def decode? (origin : Origin) (value : Json) : Option PermissionResponse := do
  let view ← view? fields value
  return {
    requestId := ← view.required "request_id" Json.string?
    decision := ← view.required "decision" (Decision.decode? origin)
    reasoning := ← view.optional "reasoning" Json.string?
    toolId := ← view.optional "tool_use_id" Json.string?
    clarification := ← view.optional "clarification" Json.string?
    appliedUpdates := ← view.orElse "applied_updates" [] (listOf freeValue) }

/-- A permission response as a value. -/
def encode (response : PermissionResponse) : Json :=
  record [
    always "request_id" (.string response.requestId),
    always "decision" response.decision.encode,
    whenSome "reasoning" Json.string response.reasoning,
    whenSome "tool_use_id" Json.string response.toolId,
    whenSome "clarification" Json.string response.clarification,
    whenFilled "applied_updates" id response.appliedUpdates]

end PermissionResponse

/-! ## Events with the whole state -/

/-- The states of a tool use in the backend's words. -/
inductive ToolState where
  | pending
  | awaitingPermission
  | permissionGranted
  | permissionDenied
  | executing
  | completed
  | failed
  deriving DecidableEq, Repr

namespace ToolState

/-- The word for a state. -/
def name : ToolState → String
  | .pending => "pending"
  | .awaitingPermission => "awaiting_permission"
  | .permissionGranted => "permission_granted"
  | .permissionDenied => "permission_denied"
  | .executing => "executing"
  | .completed => "completed"
  | .failed => "failed"

/-- All states. -/
def all : List ToolState :=
  [.pending, .awaitingPermission, .permissionGranted, .permissionDenied, .executing, .completed,
    .failed]

/-- The state of a word. -/
def ofName? (text : String) : Option ToolState := all.find? fun state => state.name == text

/-- A state as a value. -/
def encode (state : ToolState) : Json := .string state.name

/-- A state from a word. -/
def decode? (origin : Origin) : Json → Option ToolState := word origin ofName?

theorem ofName?_name (state : ToolState) : ofName? state.name = some state := by
  cases state <;> decide

end ToolState

/-- The permission part of a tool event. -/
structure ToolPermission where
  requestId : String
  decision : Option Decision
  suggestions : List Json
  reasoning : Option String
  deriving DecidableEq, Repr

namespace ToolPermission

/-- The fields of the permission part in their order. -/
def fields : List Field :=
  [⟨"request_id", []⟩, ⟨"decision", []⟩, ⟨"suggestions", []⟩, ⟨"reasoning", []⟩]

/-- The permission part from a value. -/
def decode? (origin : Origin) (value : Json) : Option ToolPermission := do
  let view ← view? fields value
  return {
    requestId := ← view.required "request_id" Json.string?
    decision := ← view.optional "decision" (Decision.decode? origin)
    suggestions := ← view.orElse "suggestions" [] (listOf freeValue)
    reasoning := ← view.optional "reasoning" Json.string? }

/-- The permission part as a value. -/
def encode (permission : ToolPermission) : Json :=
  record [
    always "request_id" (.string permission.requestId),
    whenSome "decision" Decision.encode permission.decision,
    whenFilled "suggestions" id permission.suggestions,
    whenSome "reasoning" Json.string permission.reasoning]

end ToolPermission

/-- What a tool has returned. -/
structure ToolOutcome where
  content : Json
  isError : Bool
  deriving DecidableEq, Repr

namespace ToolOutcome

/-- The fields of an outcome in their order. -/
def fields : List Field := [⟨"content", []⟩, ⟨"is_error", []⟩]

/-- An outcome from a value. -/
def decode? (value : Json) : Option ToolOutcome := do
  let view ← view? fields value
  return {
    content := ← view.orElse "content" .null freeValue
    isError := ← view.orElse "is_error" false Json.bool? }

/-- An outcome as a value. -/
def encode (outcome : ToolOutcome) : Json :=
  record [always "content" outcome.content, always "is_error" (.bool outcome.isError)]

end ToolOutcome

/-- One event with a tool use's whole state. -/
structure ToolEvent where
  toolId : String
  sessionId : Option String
  toolName : String
  input : Json
  state : ToolState
  permission : Option ToolPermission
  outcome : Option ToolOutcome
  timestamp : Option Timestamp
  deriving DecidableEq, Repr

namespace ToolEvent

/-- The fields of a tool event in their order. -/
def fields : List Field :=
  [⟨"tool_use_id", []⟩, ⟨"session_id", []⟩, ⟨"tool_name", []⟩, ⟨"input", []⟩, ⟨"status", []⟩,
    ⟨"permission", []⟩, ⟨"result", []⟩, ⟨"timestamp", []⟩]

/-- What a reader wants of a tool event. -/
def shape : Json.Shape :=
  shapeOf fields [("permission", shapeOf ToolPermission.fields []),
    ("result", shapeOf ToolOutcome.fields [])]

/-- A tool event from a value. -/
def decode? (origin : Origin) (value : Json) : Option ToolEvent := do
  let view ← view? fields value
  return {
    toolId := ← view.required "tool_use_id" Json.string?
    sessionId := ← view.optional "session_id" Json.string?
    toolName := ← view.required "tool_name" Json.string?
    input := ← view.orElse "input" .null freeValue
    state := ← view.required "status" (ToolState.decode? origin)
    permission := ← view.optional "permission" (ToolPermission.decode? origin)
    outcome := ← view.optional "result" ToolOutcome.decode?
    timestamp := ← view.optional "timestamp" Timestamp.decode? }

/-- A tool event as a value. -/
def encode (event : ToolEvent) : Json :=
  record [
    always "tool_use_id" (.string event.toolId),
    whenSome "session_id" Json.string event.sessionId,
    always "tool_name" (.string event.toolName),
    always "input" event.input,
    always "status" event.state.encode,
    whenSome "permission" ToolPermission.encode event.permission,
    whenSome "result" ToolOutcome.encode event.outcome,
    whenSome "timestamp" Timestamp.encode event.timestamp]

end ToolEvent

/-! ## The display block -/

/-- The backend's state for one tool use. -/
structure DisplayedTool where
  state : ToolState
  toolName : Option String
  requestId : Option String
  deriving DecidableEq, Repr

namespace DisplayedTool

/-- The fields of a displayed tool in their order. -/
def fields : List Field := [⟨"status", []⟩, ⟨"tool_name", []⟩, ⟨"permission_request_id", []⟩]

/-- A displayed tool from a value. -/
def decode? (origin : Origin) (value : Json) : Option DisplayedTool := do
  let view ← view? fields value
  return {
    state := ← view.required "status" (ToolState.decode? origin)
    toolName := ← view.optional "tool_name" Json.string?
    requestId := ← view.optional "permission_request_id" Json.string? }

/-- A displayed tool as a value. -/
def encode (tool : DisplayedTool) : Json :=
  record [
    always "status" tool.state.encode,
    whenSome "tool_name" Json.string tool.toolName,
    whenSome "permission_request_id" Json.string tool.requestId]

end DisplayedTool

/-- A tool use that the backend has given up. -/
structure OrphanNotice where
  toolId : String
  reason : String
  message : Option String
  deriving DecidableEq, Repr

namespace OrphanNotice

/-- The fields of the notice in their order. -/
def fields : List Field := [⟨"tool_use_id", []⟩, ⟨"reason", []⟩, ⟨"message", []⟩]

/-- A notice from a value. -/
def decode? (value : Json) : Option OrphanNotice := do
  let view ← view? fields value
  return {
    toolId := ← view.required "tool_use_id" Json.string?
    reason := ← view.required "reason" Json.string?
    message := ← view.optional "message" Json.string? }

/-- A notice as a value. -/
def encode (notice : OrphanNotice) : Json :=
  record [
    always "tool_use_id" (.string notice.toolId),
    always "reason" (.string notice.reason),
    whenSome "message" Json.string notice.message]

end OrphanNotice

/-- The display block of a message.  A part that is missing says nothing; an
empty part says that there is nothing. -/
structure Display where
  /-- The states of tool uses, in the order in which this reading of the block is walked. -/
  tools : Option (WalkedMap DisplayedTool)
  orphans : Option (List OrphanNotice)
  /-- Permission request ids and the tool uses they ask for. -/
  links : Option (Table String)
  deriving DecidableEq, Repr

namespace Display

/-- The fields of a display block in their order. -/
def fields : List Field :=
  [⟨"tool_states", []⟩, ⟨"orphaned_tools", []⟩, ⟨"permission_links", []⟩]

/-- What a reader wants of a display block. -/
def shape : Json.Shape :=
  shapeOf fields [("tool_states", .table (shapeOf DisplayedTool.fields [])),
    ("orphaned_tools", .each (shapeOf OrphanNotice.fields []))]

/-- Whether no part is given. -/
def isEmpty (display : Display) : Bool :=
  display.tools.isNone && display.orphans.isNone && display.links.isNone

/-- A display block from a value. -/
def decode? (origin : Origin) (value : Json) : Option Display := do
  let view ← view? fields value
  return {
    tools := ← view.optional "tool_states" (mapOf (DisplayedTool.decode? origin))
    orphans := ← view.optional "orphaned_tools" (listOf OrphanNotice.decode?)
    links := ← view.optional "permission_links" (tableOf Json.string?) }

/-- A display block as a value. -/
def encode (display : Display) : Json :=
  record [
    whenSome "tool_states" (encodeMap DisplayedTool.encode) display.tools,
    whenSome "orphaned_tools" (fun notices => .array (notices.map OrphanNotice.encode))
      display.orphans,
    whenSome "permission_links" (encodeTable Json.string) display.links]

end Display

end SessionSync
