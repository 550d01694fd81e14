import SessionSync.Engine.State

/-!
# Frames from the server

How an accepted frame changes the stores, and what is announced about it.  A
frame about a session names the session itself or means the one whose stream it
came over; a frame that does neither is passed over.
-/

set_option autoImplicit false

namespace SessionSync.Engine

/-! ## Changes of sessions -/

/-- A session's state has changed: when it has left the live states its
unfinished tools become orphans, and those that do are announced. -/
def orphanOn (engine : Engine) (sessionId : String) (transition : Transition) :
    Engine × List StoreEvent :=
  if transition.leftLive then
    let (messages, toolIds) := engine.messages.onSessionState sessionId transition.current
    ({ engine with messages },
      if toolIds.isEmpty then [] else [.toolsOrphaned sessionId toolIds])
  else (engine, [])

/-- What is announced about a state that was recorded. -/
def changeEvents (sessionId : String) (transition : Transition) : List StoreEvent :=
  .sessionsListChanged ::
    if transition.changed then [.sessionChanged sessionId transition.current] else []

/-- Write one session record. -/
def upsertSession (engine : Engine) (session : Session) : Engine × List StoreEvent :=
  let (sessions, transition) := engine.sessions.upsert session
  let (engine, orphaned) := { engine with sessions }.orphanOn session.sessionId transition
  (engine, changeEvents session.sessionId transition ++ orphaned)

/-- Replace all session records. -/
def replaceSessions (engine : Engine) (sessions : List Session) : Engine × List StoreEvent :=
  let (orphanedEngine, events) := sessions.foldl
    (fun (current, events) session =>
      let (next, more) := current.orphanOn session.sessionId
        { previous := engine.sessions.stateOf session.sessionId, current := session.state }
      (next, events ++ more))
    (engine, [])
  ({ orphanedEngine with sessions := engine.sessions.replaceAll sessions },
    events ++ [.sessionsListChanged])

/-- Apply a change of a session's state.  While the record of the session in
focus is missing its tools are orphaned all the same. -/
def changeState (engine : Engine) (sessionId : String) (change : StateChange) :
    Engine × List StoreEvent :=
  match engine.sessions.applyStateChange sessionId change with
  | (sessions, some transition) =>
      let (engine, orphaned) := { engine with sessions }.orphanOn sessionId transition
      (engine, changeEvents sessionId transition ++ orphaned)
  | (_, none) =>
      if engine.sessions.currentId = some sessionId then
        engine.orphanOn sessionId { previous := none, current := change.state }
      else (engine, [])

/-! ## Selections that end -/

/-- End the selection that is under way; whoever waits for it is told so. -/
def supersede (engine : Engine) : Engine × List Effect :=
  ({ engine with selection := { engine.selection with
      epoch := engine.selection.epoch + 1
      caller := none } },
    engine.selection.caller.toList.map fun caller => .answer caller (.failed .superseded))

/-- A session was deleted: everything about it is forgotten, and if it was in
focus its selection ends. -/
def deleteSession (engine : Engine) (sessionId : String) : Engine × List Effect :=
  let wasCurrent := engine.sessions.currentId = some sessionId
  let engine := { engine with
    sessions := (engine.sessions.remove sessionId).1
    messages := engine.messages.clear sessionId
    entities := engine.entities.forgetSession sessionId }
  let (engine, answers) := if wasCurrent then
      let (engine, answers) := engine.supersede
      ({ engine with selection := { engine.selection with phase := .idle } }, answers)
    else (engine, [])
  (engine, answers ++ [.publish .sessionsListChanged, .publish (.sessionRemoved sessionId)])

/-! ## Messages and permissions -/

/-- A tool call that speaks of a permission request: the first one in the order of creation.
Nothing is promised about which one is found where several speak of it; the statement about
prompts (`prompt_names_attached_iff`) is about every order of the table. -/
def toolOfRequest (engine : Engine) (sessionId requestId : String) : Option String :=
  ((engine.messages.toolCalls sessionId).find? fun call =>
    call.requestId == some requestId).map ToolCall.toolId

/-- Take in a live message.  A message that is known already changes nothing. -/
def addMessage (engine : Engine) (sessionId : String) (message : Message) :
    Engine × List StoreEvent :=
  let (messages, isNew) := engine.messages.addMessage sessionId message
  let engine := { engine with messages }
  if isNew then
    let asked := match message.payload? with
      | some (.permissionRequest request) =>
          let toolId := request.toolId.or (engine.toolOfRequest sessionId request.requestId)
          [.permissionRequested sessionId request.requestId toolId]
      | _ => []
    (engine, [.messagesChanged sessionId, .toolCallsChanged sessionId] ++ asked)
  else (engine, [])

/-- Change the caches, and announce the change if there is one. -/
def onEntities (engine : Engine) (change : EntityStore → EntityStore × Bool) (event : StoreEvent) :
    Engine × List StoreEvent :=
  let (entities, changed) := change engine.entities
  ({ engine with entities }, if changed then [event] else [])

/-! ## Frames -/

/-- The session that a frame is about: the one it names, unless by an empty id,
or the one of its channel. -/
def scope (explicit : Option String) (channel : Channel) : Option String :=
  (explicit.filter fun sessionId => !sessionId.isEmpty).or channel.sessionId?

/-- The session that a frame is about, where it is about one. -/
def frameScope (channel : Channel) : ServerFrame → Option String
  | .message sessionId _ | .resourceRemoved _ sessionId | .queueUpdate sessionId _
  | .taskUpdate sessionId _ | .scheduleRemoved _ sessionId | .error _ sessionId =>
      scope sessionId channel
  | .stateChange sessionId change => scope (sessionId.or change.sessionId) channel
  | .toolCall event => scope event.sessionId channel
  | .resourceRegistered resource => scope (some resource.sessionId) channel
  | .scheduleUpdate schedule => scope (some schedule.sessionId) channel
  | .permissionRequest _ | .permissionResponse _ => scope none channel
  | _ => none

/-- Apply a frame about a session. -/
def applyScoped (engine : Engine) (sessionId : String) : ServerFrame → Engine × List StoreEvent
  | .message _ message => engine.addMessage sessionId message
  | .toolCall event =>
      let messages := engine.messages.onTracker sessionId fun tracker => tracker.onToolEvent event
      ({ engine with messages }, [.toolCallsChanged sessionId])
  | .permissionRequest request =>
      let (messages, toolId) := engine.messages.askTracker sessionId fun tracker =>
        tracker.onPermissionRequest request
      ({ engine with messages },
        [.toolCallsChanged sessionId, .permissionRequested sessionId request.requestId toolId])
  | .permissionResponse response =>
      let (messages, _) := engine.messages.askTracker sessionId fun tracker =>
        tracker.onPermissionResponse response
      ({ engine with messages }, [.toolCallsChanged sessionId])
  | .stateChange _ change => engine.changeState sessionId change
  | .resourceRegistered resource =>
      engine.onEntities (fun entities => entities.registerResource sessionId resource)
        (.resourcesChanged sessionId)
  | .resourceRemoved resourceId _ =>
      engine.onEntities (fun entities => entities.removeResource sessionId resourceId)
        (.resourcesChanged sessionId)
  | .queueUpdate _ items =>
      engine.onEntities (fun entities => entities.replaceQueue sessionId items)
        (.queueChanged sessionId)
  | .taskUpdate _ tasks =>
      engine.onEntities (fun entities => entities.replaceTasks sessionId tasks)
        (.tasksChanged sessionId)
  | .scheduleUpdate schedule =>
      engine.onEntities (fun entities => entities.upsertSchedule sessionId schedule)
        (.schedulesChanged sessionId)
  | .scheduleRemoved scheduleId _ =>
      engine.onEntities (fun entities => entities.removeSchedule sessionId scheduleId)
        (.schedulesChanged sessionId)
  | _ => (engine, [])

/-- Announcements as effects. -/
def published (outcome : Engine × List StoreEvent) : Engine × List Effect :=
  (outcome.1, outcome.2.map .publish)

/-- Apply a frame that came over a channel. -/
def applyFrame (engine : Engine) (channel : Channel) (frame : ServerFrame) :
    Engine × List Effect :=
  match frame with
  | .sessionsList sessions => published (engine.replaceSessions sessions)
  | .sessionCreated session | .sessionUpdated session => published (engine.upsertSession session)
  | .sessionDeleted sessionId => engine.deleteSession sessionId
  | .legionMessage communication =>
      published (engine.onEntities (fun entities => entities.addCommunication communication)
        (.legionMessage communication.legionId communication.commId))
  | .error message _ => (engine, [.publish (.serverError (frameScope channel frame) message)])
  | .ping _ | .unknown => (engine, [])
  | _ =>
      match frameScope channel frame with
      | some sessionId => published (engine.applyScoped sessionId frame)
      | none => (engine, [])

/-- Whether the session slot holds the stream of a session that is not in
focus. -/
def streamsAnother (engine : Engine) : Bool :=
  match engine.sessionSlot.target? with
  | some (.session sessionId) => engine.sessions.currentId != some sessionId
  | _ => false

end SessionSync.Engine
