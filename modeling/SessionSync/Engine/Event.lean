import SessionSync.Channel.Machine
import SessionSync.Channel.Name
import SessionSync.Wire.Session

/-!
# What the engine announces

After every change the engine announces what has changed, by name only: a reader
looks the new values up for itself.
-/

set_option autoImplicit false

namespace SessionSync

/-- What came of filling the gap after a reconnection.  A failure is part of the
report. -/
structure SyncReport where
  synced : Nat
  truncated : Bool
  error : Option String
  deriving DecidableEq, Repr

namespace SyncReport

/-- The report of a failure. -/
def failed (error : String) : SyncReport := { synced := 0, truncated := false, error := some error }

/-- A report as a value. -/
def encode (report : SyncReport) : Json :=
  Json.ofMembers [("synced", Json.ofNat report.synced), ("truncated", .bool report.truncated),
    ("error", Json.ofOption Json.string report.error)]

end SyncReport

namespace ConnectionStatus

/-- The word for a status. -/
def name : ConnectionStatus → String
  | .disconnected => "disconnected"
  | .connecting => "connecting"
  | .connected => "connected"
  | .reconnecting _ => "reconnecting"
  | .failed => "failed"

/-- The status of a word; the number of the attempt counts only for one that
reconnects. -/
def ofName? (text : String) (attempt : Nat) : Option ConnectionStatus :=
  [disconnected, connecting, connected, reconnecting attempt, failed].find? fun status =>
    status.name == text

/-- A status as a value. -/
def encode (status : ConnectionStatus) : Json :=
  Json.ofMembers (("status", .string status.name) ::
    match status with
    | .reconnecting attempt => [("attempt", Json.ofNat attempt)]
    | _ => [])

end ConnectionStatus

/-- An announcement of the engine. -/
inductive StoreEvent where
  | sessionsListChanged
  | sessionChanged (sessionId : String) (state : SessionState)
  | sessionRemoved (sessionId : String)
  | sessionSelected (sessionId : String)
  | selectionFailed (sessionId error : String)
  | historyLoaded (sessionId : String) (loaded : Nat)
  | messagesChanged (sessionId : String)
  | toolCallsChanged (sessionId : String)
  | toolsOrphaned (sessionId : String) (toolIds : List String)
  | permissionRequested (sessionId requestId : String) (toolId : Option String)
  | connectionChanged (slot : SlotKind) (status : ConnectionStatus)
  | syncCompleted (sessionId : String) (report : SyncReport)
  | syncFailed (sessionId error : String)
  | resourcesChanged (sessionId : String)
  | queueChanged (sessionId : String)
  | tasksChanged (sessionId : String)
  | schedulesChanged (sessionId : String)
  | legionMessage (legionId commId : String)
  | serverError (sessionId : Option String) (message : String)
  deriving DecidableEq, Repr

namespace StoreEvent

/-- The word for an announcement. -/
def name : StoreEvent → String
  | .sessionsListChanged => "sessions_list_changed"
  | .sessionChanged .. => "session_changed"
  | .sessionRemoved _ => "session_removed"
  | .sessionSelected _ => "session_selected"
  | .selectionFailed .. => "selection_failed"
  | .historyLoaded .. => "history_loaded"
  | .messagesChanged _ => "messages_changed"
  | .toolCallsChanged _ => "tool_calls_changed"
  | .toolsOrphaned .. => "tools_orphaned"
  | .permissionRequested .. => "permission_requested"
  | .connectionChanged .. => "connection_changed"
  | .syncCompleted .. => "sync_completed"
  | .syncFailed .. => "sync_failed"
  | .resourcesChanged _ => "resources_changed"
  | .queueChanged _ => "queue_changed"
  | .tasksChanged _ => "tasks_changed"
  | .schedulesChanged _ => "schedules_changed"
  | .legionMessage .. => "legion_message"
  | .serverError .. => "server_error"

/-- The members of an announcement beside its name. -/
def members : StoreEvent → List (String × Json)
  | .sessionsListChanged => []
  | .sessionChanged sessionId state =>
      [("session_id", .string sessionId), ("state", state.encode)]
  | .sessionRemoved sessionId | .sessionSelected sessionId | .messagesChanged sessionId
  | .toolCallsChanged sessionId | .resourcesChanged sessionId | .queueChanged sessionId
  | .tasksChanged sessionId | .schedulesChanged sessionId => [("session_id", .string sessionId)]
  | .selectionFailed sessionId error | .syncFailed sessionId error =>
      [("session_id", .string sessionId), ("error", .string error)]
  | .historyLoaded sessionId loaded =>
      [("session_id", .string sessionId), ("loaded", Json.ofNat loaded)]
  | .toolsOrphaned sessionId toolIds =>
      [("session_id", .string sessionId), ("tool_use_ids", .array (toolIds.map Json.string))]
  | .permissionRequested sessionId requestId toolId =>
      [("session_id", .string sessionId), ("request_id", .string requestId),
        ("tool_use_id", Json.ofOption Json.string toolId)]
  | .connectionChanged slot status =>
      [("channel", .string slot.name), ("status", status.encode)]
  | .syncCompleted sessionId report =>
      [("session_id", .string sessionId), ("report", report.encode)]
  | .legionMessage legionId commId =>
      [("legion_id", .string legionId), ("comm_id", .string commId)]
  | .serverError sessionId message =>
      [("session_id", Json.ofOption Json.string sessionId), ("message", .string message)]

/-- An announcement as a value. -/
def encode (event : StoreEvent) : Json :=
  Json.ofMembers (("event", .string event.name) :: event.members)

end StoreEvent

end SessionSync
