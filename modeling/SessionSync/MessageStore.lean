import SessionSync.Log

/-!
# The logs of all sessions

A session's log is created by the first change to it; reading creates nothing.
When a session leaves the states in which its tools can report, the tools that
are unfinished become orphans.
-/

set_option autoImplicit false

namespace SessionSync

/-- The logs of all sessions. -/
structure MessageStore where
  logs : Table Log
  deriving DecidableEq, Repr

/-- What came of loading a page of history. -/
structure HistoryLoad where
  loaded : Nat
  openTools : Nat
  orphaned : Nat
  deriving DecidableEq, Repr

/-- What came of merging a page after a reconnection. -/
structure SyncOutcome where
  synced : Nat
  truncated : Bool
  deriving DecidableEq, Repr

/-- The counts of a load as a value. -/
def HistoryLoad.encode (load : HistoryLoad) : Json :=
  Json.ofMembers [("loaded", Json.ofNat load.loaded), ("open_tools", Json.ofNat load.openTools),
    ("orphaned", Json.ofNat load.orphaned)]

/-- What came of a merge as a value. -/
def SyncOutcome.encode (outcome : SyncOutcome) : Json :=
  Json.ofMembers [("synced", Json.ofNat outcome.synced), ("truncated", .bool outcome.truncated)]

/-- The reason for orphans when history shows that the session is over. -/
def terminatedReason : String := "session was terminated"

/-- The reason for orphans when a session enters a state. -/
def SessionState.orphanReason : SessionState → String
  | .error => "session ended with an error"
  | .created => "session was restarted"
  | _ => terminatedReason

namespace MessageStore

/-- No session has a log. -/
def empty : MessageStore := ⟨{}⟩

/-- The log of a session, where it has one. -/
def log? (store : MessageStore) (sessionId : String) : Option Log := store.logs.find? sessionId

/-- The log of a session, or a new one. -/
def log (store : MessageStore) (sessionId : String) : Log :=
  (store.log? sessionId).getD (Log.new sessionId)

/-- Write a session's log. -/
def put (store : MessageStore) (sessionId : String) (log : Log) : MessageStore :=
  ⟨store.logs.insert sessionId log⟩

/-- Change the tool calls of a session. -/
def onTracker (store : MessageStore) (sessionId : String) (change : Tracker → Tracker) :
    MessageStore :=
  store.put sessionId ((store.log sessionId).onTracker change)

/-- Change the tool calls of a session by a change that has an answer. -/
def askTracker {α : Type} (store : MessageStore) (sessionId : String)
    (change : Tracker → Tracker × α) : MessageStore × α :=
  let log := store.log sessionId
  let (tracker, answer) := change log.tracker
  (store.put sessionId { log with tracker }, answer)

/-! ## Messages -/

/-- Load a page of history.  If the session is known to be over, the tools that
are then unfinished become orphans. -/
def loadHistory (store : MessageStore) (sessionId : String) (page : List Message)
    (stateOf : String → Option SessionState) : MessageStore × HistoryLoad :=
  let log := (store.log sessionId).loadPage page
  let counts : HistoryLoad :=
    { loaded := log.messages.length, openTools := log.tracker.unfinished.size, orphaned := 0 }
  if (stateOf sessionId).any fun state => !state.isLive then
    let (tracker, ids) := log.tracker.orphanUnfinished terminatedReason
    (store.put sessionId { log with tracker }, { counts with orphaned := ids.length })
  else (store.put sessionId log, counts)

/-- Take in one live message; whether it was new comes second. -/
def addMessage (store : MessageStore) (sessionId : String) (message : Message) :
    MessageStore × Bool :=
  let (log, isNew) := (store.log sessionId).add message
  (store.put sessionId log, isNew)

/-- Merge a page that was fetched after a reconnection. -/
def mergeSync (store : MessageStore) (sessionId : String) (page : List Message)
    (truncated : Bool) : MessageStore × SyncOutcome :=
  let (log, synced) := (store.log sessionId).merge page
  (store.put sessionId log, { synced, truncated })

/-- Forget a session's log. -/
def clear (store : MessageStore) (sessionId : String) : MessageStore :=
  ⟨store.logs.erase sessionId⟩

/-! ## Tools -/

/-- Apply a whole display block. -/
def applyDisplay (store : MessageStore) (sessionId : String) (display : Display) : MessageStore :=
  store.onTracker sessionId fun tracker =>
    (tracker.applyDisplayLinks display).applyDisplayStates display

/-- A session has entered a state: in a state that is not live its unfinished
tools become orphans.  Their ids come second. -/
def onSessionState (store : MessageStore) (sessionId : String) (state : SessionState) :
    MessageStore × List String :=
  if state.isLive then (store, [])
  else
    match store.log? sessionId with
    | none => (store, [])
    | some log =>
        let (tracker, ids) := log.tracker.orphanUnfinished state.orphanReason
        (store.put sessionId { log with tracker }, ids)

/-- Expand or collapse a tool call; the new value comes second. -/
def toggleExpanded (store : MessageStore) (sessionId toolId : String) :
    MessageStore × Option Bool :=
  match store.log? sessionId with
  | none => (store, none)
  | some log =>
      let (tracker, expanded) := log.tracker.toggleExpanded toolId
      (store.put sessionId { log with tracker }, expanded)

/-! ## Reading -/

/-- The messages of a session. -/
def messages (store : MessageStore) (sessionId : String) : List Message :=
  ((store.log? sessionId).map Log.messages).getD []

/-- The number of messages of a session. -/
def size (store : MessageStore) (sessionId : String) : Nat := (store.messages sessionId).length

/-- The tool calls of a session in the order of their creation. -/
def toolCalls (store : MessageStore) (sessionId : String) : List ToolCall :=
  ((store.log? sessionId).map fun log => log.tracker.inOrder).getD []

/-- A tool call of a session. -/
def toolCall? (store : MessageStore) (sessionId toolId : String) : Option ToolCall :=
  (store.log? sessionId).bind fun log => log.tracker.call? toolId

/-- Why a tool use of a session will have no result. -/
def orphan? (store : MessageStore) (sessionId toolId : String) : Option Orphan :=
  (store.log? sessionId).bind fun log => log.tracker.orphans.find? toolId

/-- The watermark of a session. -/
def watermark? (store : MessageStore) (sessionId : String) : Option Int :=
  (store.log? sessionId).bind Log.watermark

/-- The data of a session's start. -/
def initData? (store : MessageStore) (sessionId : String) : Option Json :=
  (store.log? sessionId).bind Log.initData

end MessageStore

end SessionSync
