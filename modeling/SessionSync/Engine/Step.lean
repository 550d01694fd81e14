import SessionSync.Engine.Frame

/-!
# The steps of the engine

The engine handles one input at a time.  Results of earlier work are checked
against the present: a step of a selection counts only under the latest epoch, an
event of a channel only from the current attempt of its slot, and a page for a
gap only for the connection that asked for it.
-/

set_option autoImplicit false

namespace SessionSync.Engine

/-! ## Selecting -/

/-- Begin to select a session.  Nothing of the session before is taken in any
more. -/
def beginSelection (engine : Engine) (caller : Caller) (sessionId : String) :
    Engine × List Effect :=
  let (engine, answers) := engine.supersede
  let engine := { engine with
    selection := { engine.selection with
      caller := some caller
      phase := .loading sessionId }
    sessions := engine.sessions.setCurrent (some sessionId)
    syncing := false }
  (engine.closeSlot .session,
    answers ++ [.begin (.select (.start engine.config sessionId engine.selection.epoch))])

/-- Select nothing. -/
def clearSelection (engine : Engine) : Engine × List Effect :=
  let (engine, answers) := engine.supersede
  let engine := { engine with
    selection := { engine.selection with phase := .idle }
    sessions := engine.sessions.setCurrent none }
  (engine.closeSlot .session, answers)

/-- The answer to whoever waits for the selection, and the selection without
them. -/
def answerSelection (engine : Engine) (answer : Answer) : Engine × List Effect :=
  ({ engine with selection := { engine.selection with caller := none } },
    engine.selection.caller.toList.map fun caller => .answer caller answer)

/-- Load the history of the session in focus and connect its stream. -/
def loadHistory (engine : Engine) (sessionId : String) (page : Backend.Page) :
    Engine × List Effect :=
  let (messages, load) :=
    engine.messages.loadHistory sessionId page.messages engine.sessions.stateOf
  let (engine, reports) := { engine with messages }.connect (.session sessionId)
  let engine := { engine with selection := { engine.selection with phase := .ready sessionId } }
  let (engine, answers) := engine.answerSelection .done
  (engine, [.publish (.historyLoaded sessionId load.loaded),
    .publish (.messagesChanged sessionId), .publish (.toolCallsChanged sessionId)] ++ reports ++
    [.publish (.sessionSelected sessionId)] ++ answers)

/-- The selection of the session in focus has failed. -/
def failSelection (engine : Engine) (sessionId : String) (failure : Failure) :
    Engine × List Effect :=
  let engine := { engine with
    selection := { engine.selection with phase := .failed sessionId failure.message } }
  let (engine, answers) := engine.answerSelection (.failed failure)
  (engine, .publish (.selectionFailed sessionId failure.message) :: answers)

/-- A selection task has reported a step. -/
def onSelectionStep (engine : Engine) (epoch : Nat) (step : SelectionStep) :
    Engine × List Effect :=
  if epoch ≠ engine.selection.epoch then (engine, [])
  else match engine.sessions.currentId with
    | none => (engine, [])
    | some sessionId =>
        match step with
        | .session session => published (engine.upsertSession session)
        | .history page => engine.loadHistory sessionId page
        | .failed failure => engine.failSelection sessionId failure

/-! ## Filling gaps -/

/-- Begin to fill the gap of a session: fetch a window of messages that overlaps
the end of those that are held. -/
def startSync (engine : Engine) (caller : Option Caller) (sessionId : String)
    (generation : Nat) : Engine × List Effect :=
  let offset := engine.messages.size sessionId - engine.config.syncOverlap
  ({ engine with syncing := true },
    [.begin (.sync caller sessionId generation engine.config.syncWindow offset)])

/-- Whether the session slot still holds the connection that a page was fetched
for. -/
def syncIsCurrent (engine : Engine) (sessionId : String) (generation : Nat) : Bool :=
  engine.sessionSlot.target? == some (.session sessionId) &&
    engine.sessionSlot.generation == generation

/-- The page for a gap has arrived, or could not be fetched. -/
def applySync (engine : Engine) (sessionId : String) (generation : Nat)
    (outcome : Except Failure Backend.Page) : Engine × SyncReport × List StoreEvent :=
  if engine.syncIsCurrent sessionId generation then
    let engine := { engine with syncing := false }
    match outcome with
    | .ok page =>
        let (messages, merged) := engine.messages.mergeSync sessionId page.messages page.hasMore
        let report : SyncReport :=
          { synced := merged.synced, truncated := merged.truncated, error := none }
        let changed := if 0 < merged.synced then
            [.messagesChanged sessionId, .toolCallsChanged sessionId]
          else []
        ({ engine with messages }, report, changed ++ [.syncCompleted sessionId report])
    | .error failure =>
        (engine, .failed failure.message, [.syncFailed sessionId failure.message])
  else (engine, .failed "superseded by a newer connection", [])

/-! ## Sending -/

/-- Send a frame to the session in focus; the session comes second. -/
def sendFrame (engine : Engine) (frame : ClientFrame) :
    Except Failure (String × List Effect) := do
  match engine.sessions.currentId with
  | none => .error (.notConnected SlotKind.session.name)
  | some sessionId => do
      engine.sessionSlot.canSend
      return (sessionId, [.send .session frame])

/-- Send a frame for a caller. -/
def sendFor (engine : Engine) (caller : Caller) (frame : ClientFrame) (success : Answer)
    (onSent : Engine → String → Engine) : Engine × List Effect :=
  match engine.sendFrame frame with
  | .ok (sessionId, effects) => (onSent engine sessionId, effects ++ [.answer caller success])
  | .error failure => (engine, [.answer caller (.failed failure)])

/-! ## Commands -/

/-- Stop: every channel is closed, and whoever waits for a selection learns that
the engine has stopped. -/
def stop (engine : Engine) : Engine × List Effect :=
  let engine := SlotKind.all.foldl closeSlot engine
  let (engine, answers) := engine.answerSelection (.failed .stopped)
  ({ engine with running := false }, answers)

/-- Handle a command. -/
def onCommand (engine : Engine) (caller : Caller) : Command → Engine × List Effect
  | .refreshSessions => (engine, [.begin (.refresh (some caller))])
  | .selectSession sessionId => engine.beginSelection caller sessionId
  | .clearSelection => andDone engine.clearSelection
  | .connectUi => andDone (engine.connect .ui)
  | .connectLegion legionId =>
      andDone ({ engine with legionId := some legionId }.connect (.legion legionId))
  | .disconnectLegion => andDone ({ engine with legionId := none }.closeSlot .legion, [])
  | .sendMessage content messageId =>
      engine.sendFor caller (.sendMessage content (some messageId)) (.sent messageId)
        fun engine sessionId =>
          { engine with entities := (engine.entities.takeDraft sessionId).1 }
  | .respondPermission answer =>
      engine.sendFor caller (.permissionResponse answer) .done fun engine _ => engine
  | .interruptSession => engine.sendFor caller .interruptSession .done fun engine _ => engine
  | .syncMessages sessionId =>
      if engine.sessionSlot.target? = some (.session sessionId) then
        engine.startSync (some caller) sessionId engine.sessionSlot.generation
      else (engine, [.answer caller (.synced (.failed "session channel not connected"))])
  | .toggleToolExpanded sessionId toolId =>
      let (messages, expanded) := engine.messages.toggleExpanded sessionId toolId
      ({ engine with messages },
        (if expanded.isSome then [.publish (.toolCallsChanged sessionId)] else []) ++
          [.answer caller (.toggled expanded)])
  | .markToolOrphaned sessionId toolId reason =>
      let messages := engine.messages.onTracker sessionId fun tracker =>
        tracker.markOrphaned toolId reason none
      andDone ({ engine with messages }, [.publish (.toolsOrphaned sessionId [toolId])])
  | .orphanInfo sessionId toolId =>
      (engine, [.answer caller (.orphan (engine.messages.orphan? sessionId toolId))])
  | .setDraft sessionId text =>
      andDone ({ engine with entities := engine.entities.setDraft sessionId text }, [])
  | .shutdown => andDone engine.stop
where
  /-- The command has nothing to answer but that it was handled. -/
  andDone (outcome : Engine × List Effect) : Engine × List Effect :=
    (outcome.1, outcome.2 ++ [.answer caller .done])

/-! ## Channels -/

/-- Handle an event that comes from the current attempt of its slot.  A channel
that has reconnected may have missed something. -/
def onChannelEvent (engine : Engine) : ChannelEvent → Engine × List Effect
  | .status channel _ status =>
      ({ engine with connections := engine.connections.set status channel.slot },
        [.publish (.connectionChanged channel.slot status)])
  | .opened (.session sessionId) generation .reconnect =>
      engine.startSync none sessionId generation
  | .opened .ui _ .reconnect => (engine, [.begin (.refresh none)])
  | .opened .. => (engine, [])
  | .frame channel _ frame =>
      let (engine, effects) := engine.applyFrame channel frame
      (if engine.streamsAnother then engine.closeSlot .session else engine, effects)

/-! ## Inputs -/

/-- Handle an input while the engine runs. -/
def handle (engine : Engine) : Input → Engine × List Effect
  | .command caller command => engine.onCommand caller command
  | .sessionsFetched caller outcome =>
      match outcome with
      | .ok sessions =>
          let (engine, events) := engine.replaceSessions sessions
          (engine, events.map .publish ++ caller.toList.map fun caller => .answer caller .done)
      | .error failure =>
          (engine, caller.toList.map fun caller => .answer caller (.failed failure))
  | .selection epoch step => engine.onSelectionStep epoch step
  | .syncFetched caller sessionId generation outcome =>
      let (engine, report, events) := engine.applySync sessionId generation outcome
      (engine, events.map .publish ++
        caller.toList.map fun caller => .answer caller (.synced report))
  | .channel event => if engine.accepts event then engine.onChannelEvent event else (engine, [])

/-- The caller that waits for an input to be handled. -/
def waitingCaller : Input → Option Caller
  | .command caller _ => some caller
  | .sessionsFetched caller _ | .syncFetched caller _ _ _ => caller
  | .selection .. | .channel _ => none

/-- One step: handle an input, or refuse it once the engine has stopped. -/
def step (engine : Engine) (input : Input) : Engine × List Effect :=
  if engine.running then engine.handle input
  else (engine, (waitingCaller input).toList.map fun caller =>
    .answer caller (.failed .stopped))

end SessionSync.Engine
