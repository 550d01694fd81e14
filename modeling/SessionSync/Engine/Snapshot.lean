import SessionSync.Engine.State

/-!
# Snapshots

What readers see of the engine.
-/

set_option autoImplicit false

namespace SessionSync

/-- What readers see of the engine. -/
structure Snapshot where
  sessions : List Session
  currentSession : Option Session
  phase : SelectionPhase
  messages : List Message
  toolCalls : List ToolCall
  initData : Option Json
  resources : Table Resource
  queue : List QueueItem
  tasks : List TaskItem
  schedules : Table Schedule
  draft : Option String
  legionId : Option String
  communications : Table Communication
  connections : PerSlot ConnectionStatus
  syncing : Bool
  deriving DecidableEq, Repr

/-- What readers see of the engine: of all sessions the list, and everything
else of the session in focus. -/
def Engine.snapshot (engine : Engine) : Snapshot :=
  let ofCurrent := fun {α : Type} (absent : α) (read : String → α) =>
    (engine.sessions.currentId.map read).getD absent
  { sessions := engine.sessions.list
    currentSession := engine.sessions.current?
    phase := engine.selection.phase
    messages := ofCurrent [] engine.messages.messages
    toolCalls := ofCurrent [] engine.messages.toolCalls
    initData := ofCurrent none engine.messages.initData?
    resources := ofCurrent {} engine.entities.resources.get
    queue := ofCurrent [] engine.entities.queue.get
    tasks := ofCurrent [] engine.entities.tasks.get
    schedules := ofCurrent {} engine.entities.schedules.get
    draft := ofCurrent none engine.entities.draft?
    legionId := engine.legionId
    communications := (engine.legionId.map engine.entities.legion.get).getD {}
    connections := engine.connections
    syncing := ofCurrent false fun _ => engine.syncing }


namespace Snapshot

/-- The id of the session in focus, where it has a record. -/
def currentId (snapshot : Snapshot) : Option String := snapshot.currentSession.map Session.sessionId

/-- A snapshot as a value: sessions by id and state, messages by id and time,
communications by id, and everything else whole. -/
def encode (snapshot : Snapshot) : Json :=
  let state := fun (session : Session) =>
    Json.array [.string session.sessionId, session.state.encode]
  let connection := fun (slot : SlotKind) =>
    (slot.name, (snapshot.connections.get slot).encode)
  Json.ofMembers [
    ("sessions", .array (snapshot.sessions.map state)),
    ("current", Json.ofOption Session.encode snapshot.currentSession),
    ("current_id", Json.ofOption Json.string snapshot.currentId),
    ("selection", snapshot.phase.encode),
    ("messages", .array (snapshot.messages.map Message.outline)),
    ("tools", .array (snapshot.toolCalls.map ToolCall.encode)),
    ("init_data", Json.ofOption id snapshot.initData),
    ("resources", Wire.encodeTable Resource.encode snapshot.resources),
    ("queue", .array (snapshot.queue.map QueueItem.encode)),
    ("tasks", .array (snapshot.tasks.map TaskItem.encode)),
    ("schedules", Wire.encodeTable Schedule.encode snapshot.schedules),
    ("draft", Json.ofOption Json.string snapshot.draft),
    ("legion_id", Json.ofOption Json.string snapshot.legionId),
    ("legion", .array (snapshot.communications.keys.map Json.string)),
    ("connections", Json.ofMembers (SlotKind.all.map connection)),
    ("syncing", .bool snapshot.syncing)]

end Snapshot

end SessionSync
