import SessionSync.Engine.Snapshot
import SessionSync.Report.Line

/-!
# Watching a session

A watcher prints what has changed since it printed last.  Messages are known by
their ids and printed once; a tool call is printed again when its state is another
one.  What exactly has changed is looked up in the snapshot, for announcements only
name it.
-/

set_option autoImplicit false

namespace SessionSync.CommandLine

/-- What was printed: the ids of the messages, and the state in which every tool
call was printed last. -/
structure Watcher where
  messages : Table Unit
  tools : Table (ToolStatus × Bool)
  deriving DecidableEq, Repr

namespace Watcher

/-- A watcher that has printed nothing. -/
def new : Watcher := { messages := {}, tools := {} }

/-- The lines for messages that were not printed. -/
def printMessages (watcher : Watcher) (snapshot : Snapshot) : Watcher × List String :=
  snapshot.messages.foldl
    (fun (watcher, lines) message =>
      if (watcher.messages.find? message.messageId).isSome then (watcher, lines)
      else
        ({ watcher with messages := watcher.messages.insert message.messageId () },
          lines ++ [Report.messageLine false message]))
    (watcher, [])

/-- The lines for tool calls that were not printed in their state. -/
def printTools (watcher : Watcher) (snapshot : Snapshot) : Watcher × List String :=
  snapshot.toolCalls.foldl
    (fun (watcher, lines) call =>
      let state := (call.effectiveStatus, call.orphaned)
      if watcher.tools.find? call.toolId = some state then (watcher, lines)
      else
        ({ watcher with tools := watcher.tools.insert call.toolId state },
          lines ++ [Report.toolLine false call]))
    (watcher, [])

/-- Print all that is there. -/
def catchUp (watcher : Watcher) (snapshot : Snapshot) : Watcher × List String :=
  let (watcher, messages) := watcher.printMessages snapshot
  let (watcher, tools) := watcher.printTools snapshot
  (watcher, messages ++ tools)

/-- The line for an announcement that says all there is to print. -/
def eventLine? : StoreEvent → Option String
  | .permissionRequested sessionId requestId toolId =>
      some (Report.permissionHint false sessionId requestId toolId)
  | .sessionChanged sessionId state => some s!"  session {sessionId} → {state.name}"
  | .connectionChanged slot status => some ("  " ++ Report.connectionLine false slot status)
  | .syncCompleted _ report =>
      let note := if report.truncated then " (gap truncated)" else ""
      if 0 < report.synced ∨ report.truncated then
        some s!"  synced {report.synced} missed messages{note}"
      else none
  | .syncFailed _ error => some s!"  sync failed: {error}"
  | .serverError _ message => some s!"  server: {message}"
  | _ => none

/-- Print what an announcement is about. -/
def onEvent (watcher : Watcher) (snapshot : Snapshot) (event : StoreEvent) :
    Watcher × List String :=
  match event with
  | .messagesChanged _ | .historyLoaded .. => watcher.printMessages snapshot
  | .toolCallsChanged _ | .toolsOrphaned .. => watcher.printTools snapshot
  | event => (watcher, (eventLine? event).toList)

/-- Print what announcements are about, one after another. -/
def onEvents (watcher : Watcher) (snapshot : Snapshot) (events : List StoreEvent) :
    Watcher × List String :=
  events.foldl
    (fun (watcher, lines) event =>
      let (watcher, more) := watcher.onEvent snapshot event
      (watcher, lines ++ more))
    (watcher, [])

end Watcher

end SessionSync.CommandLine
