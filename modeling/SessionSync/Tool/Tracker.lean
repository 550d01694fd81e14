import SessionSync.Sorting
import SessionSync.Text.Blank
import SessionSync.Tool.Call

/-!
# The table of a session's tool calls

A tool use has one call, which is created when its id is first seen and changed
in place after that.  Every event only assigns fields, so an event that arrives
again changes nothing, and the older protocol's four records can be mixed with
the newer protocol's events.

Beside the calls the tracker keeps what follows from them: an index from
signatures to the calls that have them, in the order of creation; the tool use
that each permission request asked for; the orphans; and the calls that are
unfinished.
-/

set_option autoImplicit false

namespace SessionSync

/-- The tool calls of one session. -/
structure Tracker where
  sessionId : String
  calls : Table ToolCall
  /-- The ids of the calls with each signature. -/
  signatures : Table (List String)
  /-- The tool use that a permission request asks for. -/
  links : Table String
  orphans : Table Orphan
  /-- The tool uses without a final result. -/
  unfinished : KeySet
  nextSeq : Nat
  deriving DecidableEq, Repr

namespace Tracker

/-- A tracker that has seen nothing. -/
def new (sessionId : String) : Tracker :=
  { sessionId, calls := {}, signatures := {}, links := {}, orphans := {}, unfinished := {},
    nextSeq := 0 }

/-! ## Looking up -/

/-- The call of a tool use. -/
def call? (tracker : Tracker) (toolId : String) : Option ToolCall := tracker.calls.find? toolId

/-- The tool use that a permission request asks for. -/
def requested? (tracker : Tracker) (requestId : String) : Option String :=
  tracker.links.find? requestId

/-- Whether a tool use is known to be without a result for good. -/
def isOrphaned (tracker : Tracker) (toolId : String) : Bool := tracker.orphans.contains toolId

/-- The calls in the order of their creation. -/
def inOrder (tracker : Tracker) : List ToolCall :=
  sortByKey (fun call => call.seq) tracker.calls.values

/-- The calls that wait for a result and are no orphans, counted from the table
itself. -/
def unfinishedCalls (tracker : Tracker) : Table ToolCall :=
  tracker.calls.filter fun toolId call => !call.status.isTerminal && !tracker.isOrphaned toolId

/-! ## The signature index -/

/-- Put an id at the end of a signature's ids, unless it is among them. -/
def indexSignature (tracker : Tracker) (toolId signature : String) : Tracker :=
  let ids := (tracker.signatures.find? signature).getD []
  if ids.contains toolId then tracker
  else { tracker with signatures := tracker.signatures.insert signature (ids ++ [toolId]) }

/-- Take an id from a signature's ids; a signature without ids has no entry. -/
def unindexSignature (tracker : Tracker) (toolId signature : String) : Tracker :=
  match tracker.signatures.find? signature with
  | none => tracker
  | some ids =>
      let left := ids.filter fun id => id != toolId
      if left.isEmpty then { tracker with signatures := tracker.signatures.erase signature }
      else { tracker with signatures := tracker.signatures.insert signature left }

/-- The newest unfinished tool use with a signature, or the newest of all when
every one is finished. -/
def findBySignature (tracker : Tracker) (signature : String) : Option String := do
  let ids ← tracker.signatures.find? signature
  let unfinished := fun id => (tracker.call? id).any fun call => !call.status.isTerminal
  (ids.reverse.find? unfinished).or ids.getLast?

/-! ## Changing calls -/

/-- Change the call of a tool use, where there is one. -/
def modify (tracker : Tracker) (toolId : String) (change : ToolCall → ToolCall) : Tracker :=
  { tracker with calls := tracker.calls.adjust toolId change }

/-- Count a tool use as unfinished. -/
def reopen (tracker : Tracker) (toolId : String) : Tracker :=
  { tracker with unfinished := tracker.unfinished.insert toolId () }

/-- Count a tool use as finished. -/
def close (tracker : Tracker) (toolId : String) : Tracker :=
  { tracker with unfinished := tracker.unfinished.erase toolId }

/-- Remember which tool use a permission request asks for. -/
def link (tracker : Tracker) (requestId toolId : String) : Tracker :=
  { tracker with links := tracker.links.insert requestId toolId }

/-- Create the call of a tool use unless it exists. -/
def ensure (tracker : Tracker) (toolId toolName : String) (input : Json) : Tracker :=
  if tracker.calls.contains toolId then tracker
  else
    let indexed := tracker.indexSignature toolId (toolSignature toolName input)
    let call := ToolCall.start tracker.sessionId toolId toolName input tracker.nextSeq
    { indexed with
      calls := indexed.calls.insert toolId call
      unfinished := indexed.unfinished.insert toolId ()
      nextSeq := tracker.nextSeq + 1 }

/-- Move a tool use in the index from the signature it had to the one it has. -/
def reindex (tracker : Tracker) (toolId before after : String) : Tracker :=
  if before = after then tracker
  else (tracker.unindexSignature toolId before).indexSignature toolId after

/-! ## The four records of the older protocol -/

/-- A tool use: its first sight creates the call, a later one only brings name
and input up to date. -/
def onToolUse (tracker : Tracker) (toolUse : ToolUse) : Tracker :=
  match tracker.call? toolUse.toolId with
  | none => tracker.ensure toolUse.toolId toolUse.name toolUse.input
  | some call =>
      let signature := toolSignature toolUse.name toolUse.input
      if call.signature = signature then tracker
      else
        (tracker.reindex toolUse.toolId call.signature signature).modify toolUse.toolId fun call =>
          { call with toolName := toolUse.name, input := toolUse.input }

/-- The tool use that a permission request is about: the one it names, the one
its id is linked to, or the one its signature finds. -/
def requestTarget? (tracker : Tracker) (request : PermissionRequest) : Option String :=
  request.toolId.or ((tracker.requested? request.requestId).or
    (tracker.findBySignature (toolSignature request.toolName request.input)))

/-- What a permission request changes in its call: a tool that is past the
question is not asked again. -/
def askFor (request : PermissionRequest) (call : ToolCall) : ToolCall :=
  let suggestions := if request.suggestions.isEmpty then call.suggestions else request.suggestions
  let call := { call with requestId := some request.requestId, suggestions }
  match call.status with
  | .pending | .permissionRequired => { call with status := .permissionRequired, expanded := true }
  | .executing | .completed | .error => call

/-- A permission request; the tool use it was attached to comes second. -/
def onPermissionRequest (tracker : Tracker) (request : PermissionRequest) :
    Tracker × Option String :=
  match tracker.requestTarget? request with
  | none => (tracker, none)
  | some toolId =>
      (((tracker.link request.requestId toolId).ensure toolId request.toolName request.input).modify
        toolId (askFor request), some toolId)

/-- The outcome of a tool that was denied. -/
def denialOutcome (reasoning : Option String) : ToolOutcome :=
  let text := match reasoning with
    | some reason =>
        if (Text.trim reason).isEmpty then "Permission denied" else "Permission denied: " ++ reason
    | none => "Permission denied"
  { content := .string text, isError := true }

/-- What the answer to a permission request changes in its call. -/
def answerWith (response : PermissionResponse) (call : ToolCall) : ToolCall :=
  let call := { call with requestId := some response.requestId, decision := some response.decision }
  if call.status.isTerminal then call
  else
    match response.decision with
    | .allow => { call with status := .executing }
    | .deny =>
        { call with
          status := .completed
          outcome := some (denialOutcome response.reasoning)
          expanded := false }

/-- The answer to a permission request; the tool use it reached comes second. -/
def onPermissionResponse (tracker : Tracker) (response : PermissionResponse) :
    Tracker × Option String :=
  match response.toolId.or (tracker.requested? response.requestId) with
  | none => (tracker, none)
  | some toolId =>
      let linked := tracker.link response.requestId toolId
      match linked.call? toolId with
      | none => (linked, none)
      | some call =>
          let answered := linked.modify toolId (answerWith response)
          let closes := !call.status.isTerminal && response.decision == .deny
          (if closes then answered.close toolId else answered, some toolId)

/-- A result finishes its tool use, and it beats an earlier verdict that there
would be none. -/
def onToolResult (tracker : Tracker) (result : ToolResult) : Tracker :=
  let finished := (tracker.ensure result.toolId "" .null).modify result.toolId fun call =>
    { call with
      status := if result.isError then .error else .completed
      outcome := some { content := result.content, isError := result.isError }
      expanded := false
      orphaned := false
      orphanReason := none }
  { finished with orphans := finished.orphans.erase result.toolId }.close result.toolId

/-! ## Events with the whole state -/

/-- What an event changes in its call: every part that the event carries
replaces the one before. -/
def assignEvent (event : ToolEvent) (call : ToolCall) : ToolCall :=
  let status := ToolStatus.ofState event.state
  let denied := event.state = .permissionDenied
  let asked : ToolCall := match event.permission with
    | none => call
    | some permission =>
        { call with
          requestId := some permission.requestId
          decision := permission.decision.or call.decision
          suggestions :=
            if permission.suggestions.isEmpty then call.suggestions else permission.suggestions }
  let answered : ToolCall := match event.outcome with
    | some outcome =>
        { asked with outcome := some outcome, orphaned := false, orphanReason := none }
    | none =>
        if denied ∧ asked.outcome.isNone then
          { asked with
            outcome := some (denialOutcome (event.permission.bind ToolPermission.reasoning)) }
        else asked
  { answered with
    toolName := event.toolName
    input := if event.input = .null then answered.input else event.input
    status
    decision := if denied then some .deny else answered.decision
    expanded := !status.isTerminal }

/-- An event with a tool use's whole state. -/
def onToolEvent (tracker : Tracker) (event : ToolEvent) : Tracker :=
  let ensured := tracker.ensure event.toolId event.toolName event.input
  let assigned := ensured.modify event.toolId (assignEvent event)
  let linked := match event.permission with
    | some permission => assigned.link permission.requestId event.toolId
    | none => assigned
  let settled := if event.outcome.isSome then
      { linked with orphans := linked.orphans.erase event.toolId }
    else linked
  let indexed := match tracker.call? event.toolId, assigned.call? event.toolId with
    | some before, some after => settled.reindex event.toolId before.signature after.signature
    | _, _ => settled
  if (ToolStatus.ofState event.state).isTerminal then indexed.close event.toolId
  else indexed.reopen event.toolId

/-! ## Orphans -/

/-- Show in a call that it is an orphan. -/
def orphanCall (reason : String) (call : ToolCall) : ToolCall :=
  { call with orphaned := true, orphanReason := some reason, expanded := false }

/-- Record that a tool use will never have a result. -/
def recordOrphan (tracker : Tracker) (toolId : String) (orphan : Orphan) : Tracker :=
  let marked := tracker.modify toolId (orphanCall orphan.reason)
  { marked with orphans := marked.orphans.insert toolId orphan }.close toolId

/-- Record an orphan with a reason and, perhaps, a message. -/
def markOrphaned (tracker : Tracker) (toolId reason : String) (message : Option String) : Tracker :=
  tracker.recordOrphan toolId { reason, message := message.getD Orphan.defaultMessage }

/-- Orphan every unfinished tool use; the ids come second, in ascending order. -/
def orphanUnfinished (tracker : Tracker) (reason : String) : Tracker × List String :=
  let ids := tracker.unfinished.keys.filter fun toolId => !tracker.isOrphaned toolId
  (ids.foldl (fun tracker toolId => tracker.markOrphaned toolId reason none) tracker, ids)

/-- Take every orphan back. -/
def forgetOrphans (tracker : Tracker) : Tracker :=
  let restored := tracker.calls.mapValues fun toolId call =>
    if tracker.isOrphaned toolId then { call with orphaned := false, orphanReason := none } else call
  { tracker with calls := restored, orphans := {} }

/-- Replace all orphans by a list. -/
def replaceOrphans (tracker : Tracker) (notices : List OrphanNotice) : Tracker :=
  notices.foldl (fun tracker notice => tracker.markOrphaned notice.toolId notice.reason
    notice.message) tracker.forgetOrphans

/-! ## The display block -/

/-- Permission links of a display block; they go in before anything is inferred. -/
def applyDisplayLinks (tracker : Tracker) (display : Display) : Tracker :=
  match display.links with
  | none => tracker
  | some links =>
      links.entries.foldl (fun tracker entry => tracker.link entry.1 entry.2) tracker

/-- The backend's state of one tool use. -/
def applyDisplayedTool (tracker : Tracker) (toolId : String) (tool : DisplayedTool) : Tracker :=
  let status := ToolStatus.ofState tool.state
  let ensured := tracker.ensure toolId (tool.toolName.getD "") .null
  let assigned := ensured.modify toolId fun call =>
    { call with
      toolName := if call.toolName.isEmpty then tool.toolName.getD call.toolName else call.toolName
      status
      requestId := tool.requestId.or call.requestId
      expanded := if status.isTerminal then false else call.expanded }
  let counted := if status.isTerminal then assigned.close toolId else assigned.reopen toolId
  match tool.requestId with
  | some requestId => counted.link requestId toolId
  | none => counted

/-- The backend's tool states, in the order in which the block is walked, and then its
orphans; they go in last, so that they stay. -/
def applyDisplayStates (tracker : Tracker) (display : Display) : Tracker :=
  let told := match display.tools with
    | none => tracker
    | some tools => tools.entries.foldl
        (fun tracker entry => tracker.applyDisplayedTool entry.1 entry.2) tracker
  match display.orphans with
  | none => told
  | some notices => told.replaceOrphans notices

/-! ## Other changes -/

/-- Count the unfinished tool uses anew, from the calls and the orphans. -/
def recountUnfinished (tracker : Tracker) : Tracker :=
  { tracker with unfinished := tracker.unfinishedCalls.mapValues fun _ _ => () }

/-- Expand or collapse a call; the new value comes second. -/
def toggleExpanded (tracker : Tracker) (toolId : String) : Tracker × Option Bool :=
  match tracker.call? toolId with
  | none => (tracker, none)
  | some call =>
      (tracker.modify toolId fun call => { call with expanded := !call.expanded },
        some !call.expanded)

end Tracker

end SessionSync
