import SessionSync.Timestamp
import SessionSync.Wire.Field

/-!
# What a session holds beside its messages

Resources, queued messages, tasks and schedules of a session, and the
communications of a legion, a group of sessions.
-/

set_option autoImplicit false

namespace SessionSync

open Wire

/-! ## Resources -/

/-- The kind of a resource; every unknown kind is `other`. -/
inductive ResourceKind where
  | image
  | file
  | other
  deriving DecidableEq, Repr

namespace ResourceKind

/-- The word for a kind. -/
def name : ResourceKind → String
  | .image => "image"
  | .file => "file"
  | .other => "other"

/-- The kind of a word. -/
def ofName (text : String) : ResourceKind :=
  if text = "image" then .image else if text = "file" then .file else .other

/-- A kind as a value. -/
def encode (kind : ResourceKind) : Json := .string kind.name

/-- A kind from a word. -/
def decode? (origin : Origin) : Json → Option ResourceKind :=
  word origin fun text => some (ofName text)

end ResourceKind

/-- An image or a file that the agent has registered. -/
structure Resource where
  resourceId : String
  sessionId : String
  kind : ResourceKind
  title : String
  description : Option String
  mimeType : Option String
  sizeBytes : Option Nat
  createdAt : Option Timestamp
  deriving DecidableEq, Repr

namespace Resource

/-- The fields of a resource in their order. -/
def fields : List Field :=
  [⟨"resource_id", []⟩, ⟨"session_id", []⟩, ⟨"type", []⟩, ⟨"title", []⟩, ⟨"description", []⟩,
    ⟨"mime_type", []⟩, ⟨"size_bytes", []⟩, ⟨"created_at", []⟩]

/-- A resource from a value. -/
def decode? (origin : Origin) (value : Json) : Option Resource := do
  let view ← view? fields value
  return {
    resourceId := ← view.required "resource_id" Json.string?
    sessionId := ← view.orElse "session_id" "" Json.string?
    kind := ← view.required "type" (ResourceKind.decode? origin)
    title := ← view.orElse "title" "" Json.string?
    description := ← view.optional "description" Json.string?
    mimeType := ← view.optional "mime_type" Json.string?
    sizeBytes := ← view.optional "size_bytes" (naturalUpTo wordMax)
    createdAt := ← view.optional "created_at" Timestamp.decode? }

/-- A resource as a value. -/
def encode (resource : Resource) : Json :=
  record [
    always "resource_id" (.string resource.resourceId),
    always "session_id" (.string resource.sessionId),
    always "type" resource.kind.encode,
    always "title" (.string resource.title),
    whenSome "description" Json.string resource.description,
    whenSome "mime_type" Json.string resource.mimeType,
    whenSome "size_bytes" Json.ofNat resource.sizeBytes,
    whenSome "created_at" Timestamp.encode resource.createdAt]

end Resource

/-! ## Queued messages -/

/-- A message that waits for the agent to be idle. -/
structure QueueItem where
  queueId : String
  sessionId : String
  content : String
  position : Nat
  createdAt : Option Timestamp
  deriving DecidableEq, Repr

namespace QueueItem

/-- The fields of a queued message in their order. -/
def fields : List Field :=
  [⟨"queue_id", []⟩, ⟨"session_id", []⟩, ⟨"content", []⟩, ⟨"position", []⟩, ⟨"created_at", []⟩]

/-- A queued message from a value. -/
def decode? (value : Json) : Option QueueItem := do
  let view ← view? fields value
  return {
    queueId := ← view.required "queue_id" Json.string?
    sessionId := ← view.orElse "session_id" "" Json.string?
    content := ← view.orElse "content" "" Json.string?
    position := ← view.orElse "position" 0 (naturalUpTo halfWordMax)
    createdAt := ← view.optional "created_at" Timestamp.decode? }

/-- A queued message as a value. -/
def encode (item : QueueItem) : Json :=
  record [
    always "queue_id" (.string item.queueId),
    always "session_id" (.string item.sessionId),
    always "content" (.string item.content),
    always "position" (Json.ofNat item.position),
    whenSome "created_at" Timestamp.encode item.createdAt]

end QueueItem

/-! ## Tasks -/

/-- How far a task is. -/
inductive TaskStatus where
  | pending
  | inProgress
  | completed
  deriving DecidableEq, Repr

namespace TaskStatus

/-- The word for a status. -/
def name : TaskStatus → String
  | .pending => "pending"
  | .inProgress => "in_progress"
  | .completed => "completed"

/-- The status of a word. -/
def ofName? (text : String) : Option TaskStatus :=
  [TaskStatus.pending, .inProgress, .completed].find? fun status => status.name == text

/-- A status as a value. -/
def encode (status : TaskStatus) : Json := .string status.name

/-- A status from a word. -/
def decode? (origin : Origin) : Json → Option TaskStatus := word origin ofName?

end TaskStatus

/-- An entry of the agent's list of tasks. -/
structure TaskItem where
  taskId : String
  content : String
  status : TaskStatus
  activeForm : Option String
  deriving DecidableEq, Repr

namespace TaskItem

/-- The fields of a task in their order. -/
def fields : List Field :=
  [⟨"task_id", ["id"]⟩, ⟨"content", []⟩, ⟨"status", []⟩, ⟨"active_form", []⟩]

/-- A task from a value. -/
def decode? (origin : Origin) (value : Json) : Option TaskItem := do
  let view ← view? fields value
  return {
    taskId := ← view.required "task_id" Json.string?
    content := ← view.required "content" Json.string?
    status := ← view.required "status" (TaskStatus.decode? origin)
    activeForm := ← view.optional "active_form" Json.string? }

/-- A task as a value. -/
def encode (task : TaskItem) : Json :=
  record [
    always "task_id" (.string task.taskId),
    always "content" (.string task.content),
    always "status" task.status.encode,
    whenSome "active_form" Json.string task.activeForm]

end TaskItem

/-! ## Schedules -/

/-- A prompt that is given to a session again and again. -/
structure Schedule where
  scheduleId : String
  sessionId : String
  name : String
  cronExpression : Option String
  enabled : Bool
  nextRun : Option Timestamp
  deriving DecidableEq, Repr

namespace Schedule

/-- The fields of a schedule in their order. -/
def fields : List Field :=
  [⟨"schedule_id", []⟩, ⟨"session_id", []⟩, ⟨"name", []⟩, ⟨"cron_expression", []⟩,
    ⟨"enabled", []⟩, ⟨"next_run", []⟩]

/-- A schedule from a value. -/
def decode? (value : Json) : Option Schedule := do
  let view ← view? fields value
  return {
    scheduleId := ← view.required "schedule_id" Json.string?
    sessionId := ← view.orElse "session_id" "" Json.string?
    name := ← view.orElse "name" "" Json.string?
    cronExpression := ← view.optional "cron_expression" Json.string?
    enabled := ← view.orElse "enabled" false Json.bool?
    nextRun := ← view.optional "next_run" Timestamp.decode? }

/-- A schedule as a value. -/
def encode (schedule : Schedule) : Json :=
  record [
    always "schedule_id" (.string schedule.scheduleId),
    always "session_id" (.string schedule.sessionId),
    always "name" (.string schedule.name),
    whenSome "cron_expression" Json.string schedule.cronExpression,
    always "enabled" (.bool schedule.enabled),
    whenSome "next_run" Timestamp.encode schedule.nextRun]

end Schedule

/-! ## Communications of a legion -/

/-- A communication inside a legion. -/
structure Communication where
  commId : String
  legionId : String
  fromSession : Option String
  toSession : Option String
  content : String
  timestamp : Timestamp
  metadata : Option Json
  deriving DecidableEq, Repr

namespace Communication

/-- The fields of a communication in their order. -/
def fields : List Field :=
  [⟨"comm_id", ["id"]⟩, ⟨"legion_id", []⟩, ⟨"from_session_id", []⟩, ⟨"to_session_id", []⟩,
    ⟨"content", []⟩, ⟨"timestamp", []⟩, ⟨"metadata", []⟩]

/-- A communication from a value. -/
def decode? (value : Json) : Option Communication := do
  let view ← view? fields value
  return {
    commId := ← view.required "comm_id" Json.string?
    legionId := ← view.required "legion_id" Json.string?
    fromSession := ← view.optional "from_session_id" Json.string?
    toSession := ← view.optional "to_session_id" Json.string?
    content := ← view.orElse "content" "" Json.string?
    timestamp := ← view.orElse "timestamp" Timestamp.absent Timestamp.decode?
    metadata := ← view.optional "metadata" freeValue }

/-- A communication as a value. -/
def encode (communication : Communication) : Json :=
  record [
    always "comm_id" (.string communication.commId),
    always "legion_id" (.string communication.legionId),
    whenSome "from_session_id" Json.string communication.fromSession,
    whenSome "to_session_id" Json.string communication.toSession,
    always "content" (.string communication.content),
    always "timestamp" communication.timestamp.encode,
    whenSome "metadata" id communication.metadata]

end Communication

end SessionSync
