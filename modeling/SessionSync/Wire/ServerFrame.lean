import SessionSync.Wire.Entity
import SessionSync.Wire.Message
import SessionSync.Wire.Session

/-!
# Frames from the server

What the backend pushes over its three kinds of sockets: the stream of one
session, the news about all sessions, and the communications of a legion.  A
frame is a tagged record; frames with an unknown tag are `unknown`.
-/

set_option autoImplicit false

namespace SessionSync

open Wire

/-- A frame from the server. -/
inductive ServerFrame where
  | message (sessionId : Option String) (message : Message)
  | toolCall (event : ToolEvent)
  | permissionRequest (request : PermissionRequest)
  | permissionResponse (response : PermissionResponse)
  | stateChange (sessionId : Option String) (change : StateChange)
  | resourceRegistered (resource : Resource)
  | resourceRemoved (resourceId : String) (sessionId : Option String)
  | queueUpdate (sessionId : Option String) (items : List QueueItem)
  | taskUpdate (sessionId : Option String) (tasks : List TaskItem)
  | scheduleUpdate (schedule : Schedule)
  | scheduleRemoved (scheduleId : String) (sessionId : Option String)
  | sessionsList (sessions : List Session)
  | sessionCreated (session : Session)
  | sessionUpdated (session : Session)
  | sessionDeleted (sessionId : String)
  | legionMessage (communication : Communication)
  | ping (timestamp : Option Timestamp)
  | error (message : String) (sessionId : Option String)
  | unknown
  deriving DecidableEq, Repr

namespace ServerFrame

/-- The tag of a frame. -/
def tag : ServerFrame → String
  | .message .. => "message"
  | .toolCall _ => "tool_call"
  | .permissionRequest _ => "permission_request"
  | .permissionResponse _ => "permission_response"
  | .stateChange .. => "state_change"
  | .resourceRegistered _ => "resource_registered"
  | .resourceRemoved .. => "resource_removed"
  | .queueUpdate .. => "queue_update"
  | .taskUpdate .. => "task_update"
  | .scheduleUpdate _ => "schedule_update"
  | .scheduleRemoved .. => "schedule_removed"
  | .sessionsList _ => "sessions_list"
  | .sessionCreated _ => "session_created"
  | .sessionUpdated _ => "session_updated"
  | .sessionDeleted _ => "session_deleted"
  | .legionMessage _ => "legion_message"
  | .ping _ => "ping"
  | .error .. => "error"
  | .unknown => "unknown"

/-- The known tags in their order. -/
def tags : List String :=
  ["message", "tool_call", "permission_request", "permission_response", "state_change",
    "resource_registered", "resource_removed", "queue_update", "task_update", "schedule_update",
    "schedule_removed", "sessions_list", "session_created", "session_updated", "session_deleted",
    "legion_message", "ping", "error", "unknown"]

/-! ## The records inside frames -/

/-- The one field of a frame that only carries data. -/
def onlyData {α : Type} (decode : Json → Option α) (content : Json) : Option α := do
  (← view? [⟨"data", []⟩] content).required "data" decode

/-- The fields of a frame that names a session and carries data. -/
def sessionAndData {α : Type} (decode : Json → Option α) (content : Json) :
    Option (Option String × α) := do
  let view ← view? [⟨"session_id", []⟩, ⟨"data", []⟩] content
  return (← view.optional "session_id" Json.string?, ← view.required "data" decode)

/-- A record that names something and, perhaps, its session. -/
def namedIn (name : String) (value : Json) : Option (String × Option String) := do
  let view ← view? [⟨name, []⟩, ⟨"session_id", []⟩] value
  return (← view.required name Json.string?, ← view.optional "session_id" Json.string?)

/-- A record that lists the items of, perhaps, a named session. -/
def itemsIn {α : Type} (name : String) (decode : Json → Option α) (value : Json) :
    Option (Option String × List α) := do
  let view ← view? [⟨"session_id", []⟩, ⟨name, []⟩] value
  return (← view.optional "session_id" Json.string?, ← view.orElse name [] (listOf decode))

/-- The sessions of a list of sessions. -/
def sessionsIn (value : Json) : Option (List Session) := do
  (← view? [⟨"sessions", []⟩] value).orElse "sessions" [] (listOf (Session.decode? .envelope))

/-- The session id of a deletion. -/
def deletedIn (value : Json) : Option String := do
  (← view? [⟨"session_id", []⟩] value).required "session_id" Json.string?

/-- A frame's content once its tag is known. -/
def decodeContent? (content : Json) : String → Option ServerFrame
  | "message" => do
      let (sessionId, data) ← sessionAndData (Message.decode? .envelope) content
      return .message sessionId data
  | "tool_call" => do return .toolCall (← onlyData (ToolEvent.decode? .envelope) content)
  | "permission_request" => do
      return .permissionRequest (← onlyData PermissionRequest.decode? content)
  | "permission_response" => do
      return .permissionResponse (← onlyData (PermissionResponse.decode? .envelope) content)
  | "state_change" => do
      let (sessionId, change) ← sessionAndData (StateChange.decode? .envelope) content
      return .stateChange sessionId change
  | "resource_registered" => do
      return .resourceRegistered (← onlyData (Resource.decode? .envelope) content)
  | "resource_removed" => do
      let (resourceId, sessionId) ← onlyData (namedIn "resource_id") content
      return .resourceRemoved resourceId sessionId
  | "queue_update" => do
      let (sessionId, items) ← onlyData (itemsIn "items" QueueItem.decode?) content
      return .queueUpdate sessionId items
  | "task_update" => do
      let (sessionId, tasks) ← onlyData (itemsIn "tasks" (TaskItem.decode? .envelope)) content
      return .taskUpdate sessionId tasks
  | "schedule_update" => do return .scheduleUpdate (← onlyData Schedule.decode? content)
  | "schedule_removed" => do
      let (scheduleId, sessionId) ← onlyData (namedIn "schedule_id") content
      return .scheduleRemoved scheduleId sessionId
  | "sessions_list" => do return .sessionsList (← onlyData sessionsIn content)
  | "session_created" => do
      return .sessionCreated (← onlyData (Session.decode? .envelope) content)
  | "session_updated" => do
      return .sessionUpdated (← onlyData (Session.decode? .envelope) content)
  | "session_deleted" => do return .sessionDeleted (← onlyData deletedIn content)
  | "legion_message" => do return .legionMessage (← onlyData Communication.decode? content)
  | "ping" => do
      let view ← view? [⟨"timestamp", []⟩] content
      return .ping (← view.optional "timestamp" Timestamp.decode?)
  | "error" => do
      let view ← view? [⟨"message", []⟩, ⟨"session_id", []⟩] content
      return .error (← view.orElse "message" "" Json.string?)
        (← view.optional "session_id" Json.string?)
  | _ => do
      emptyContent content
      return .unknown

/-- A frame from a value. -/
def decode? (value : Json) : Option ServerFrame := do
  let (tag, content) ← splitTag? "type" value
  match ← readTag? .document tags tag with
  | .known name => decodeContent? content name
  | .unknown => decodeContent? content "unknown"

/-- A frame from its text. -/
def read? (text : String) : Option ServerFrame := (Json.readRaw? text).bind decode?

/-! ## Writing frames -/

/-- The members of a frame beside its tag. -/
def members : ServerFrame → List (List (String × Json))
  | .message sessionId data =>
      [whenSome "session_id" Json.string sessionId, always "data" data.encode]
  | .toolCall event => [always "data" event.encode]
  | .permissionRequest request => [always "data" request.encode]
  | .permissionResponse response => [always "data" response.encode]
  | .stateChange sessionId change =>
      [whenSome "session_id" Json.string sessionId, always "data" change.encode]
  | .resourceRegistered resource => [always "data" resource.encode]
  | .resourceRemoved resourceId sessionId =>
      [always "data" (record [always "resource_id" (.string resourceId),
        whenSome "session_id" Json.string sessionId])]
  | .queueUpdate sessionId items =>
      [always "data" (record [whenSome "session_id" Json.string sessionId,
        always "items" (.array (items.map QueueItem.encode))])]
  | .taskUpdate sessionId tasks =>
      [always "data" (record [whenSome "session_id" Json.string sessionId,
        always "tasks" (.array (tasks.map TaskItem.encode))])]
  | .scheduleUpdate schedule => [always "data" schedule.encode]
  | .scheduleRemoved scheduleId sessionId =>
      [always "data" (record [always "schedule_id" (.string scheduleId),
        whenSome "session_id" Json.string sessionId])]
  | .sessionsList sessions =>
      [always "data" (record [always "sessions" (.array (sessions.map Session.encode))])]
  | .sessionCreated session => [always "data" session.encode]
  | .sessionUpdated session => [always "data" session.encode]
  | .sessionDeleted sessionId =>
      [always "data" (record [always "session_id" (.string sessionId)])]
  | .legionMessage communication => [always "data" communication.encode]
  | .ping timestamp => [whenSome "timestamp" Timestamp.encode timestamp]
  | .error text sessionId =>
      [always "message" (.string text), whenSome "session_id" Json.string sessionId]
  | .unknown => []

/-- A frame as a value. -/
def encode (frame : ServerFrame) : Json := record (always "type" (.string frame.tag) :: frame.members)

end ServerFrame

end SessionSync
