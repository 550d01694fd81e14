import SessionSync.Proofs.Tracker.Records

/-!
# Two protocols, one tracker

An older backend tells of a tool use in records: the use, requests for permission, an
answer, results.  A newer one sends events with the tool use's whole state.  A session
can bring both, even for one tool use.

`protocols_agree` says that it does not matter which of the two tells a step.  Take any run
in which the records of one tool use, from its first sight to its results, stand between
changes that concern other tool uses, and put the event with the same data in the place
of any of the records: the tracker at the end is the same in every part.

The proof follows the tool use through three stages (`Stage`).  In each stage the records
that can come next do exactly what their events do, and lead to a stage; changes that
concern other tool uses do not leave it.
-/

set_option autoImplicit false

namespace SessionSync

/-! ## Changes about a tool use -/

namespace TrackerChange

/-- Whether a change names a tool use as one that it is about. -/
def names (change : TrackerChange) (toolId : String) : Bool :=
  match change with
  | .toolUse used => used.toolId == toolId
  | .permissionRequest request => request.toolId == some toolId
  | .permissionResponse response => response.toolId == some toolId
  | .toolResult result => result.toolId == toolId
  | .toolEvent event => event.toolId == toolId
  | .displayStates display =>
      (display.tools.any fun tools => tools.contains toolId) ||
        display.orphans.any fun notices => notices.any fun notice => notice.toolId == toolId
  | .markOrphaned orphanId _ _ => orphanId == toolId
  | .toggle toggledId => toggledId == toolId
  | .displayLinks _ | .orphanUnfinished _ | .recount => false

/-- Whether a change names every tool use that it is about.  A request or an answer
without an id is about a tool use that has to be found, and the end of a session is about
all that are unfinished. -/
def isExplicit : TrackerChange → Bool
  | .permissionRequest request => request.toolId.isSome
  | .permissionResponse response => response.toolId.isSome
  | .orphanUnfinished _ => false
  | _ => true

end TrackerChange

/-! ## One tool use in either protocol -/

/-- The records of a tool use from its first sight to its results: any number of requests
for permission, at most one answer, and any number of results. -/
structure Lifecycle where
  toolUse : ToolUse
  requests : List PermissionRequest
  response : Option PermissionResponse
  results : List ToolResult
  asks : ∀ request ∈ requests, request.toolId = some toolUse.toolId
  answers : ∀ answer, response = some answer → answer.toolId = some toolUse.toolId
  reports : ∀ result ∈ results, result.toolId = toolUse.toolId

/-- The records in their order. -/
def Lifecycle.records (life : Lifecycle) : List TrackerChange :=
  .toolUse life.toolUse ::
    (life.requests.map .permissionRequest ++
      (life.response.toList.map .permissionResponse ++ life.results.map .toolResult))

namespace ToolUse

variable (toolUse : ToolUse) (sessionId : Option String) (timestamp : Option Timestamp)

/-- An event about a tool use, with its name and its input. -/
def event (state : ToolState) (permission : Option ToolPermission) (outcome : Option ToolOutcome) :
    ToolEvent :=
  { toolId := toolUse.toolId, sessionId, toolName := toolUse.name, input := toolUse.input, state
    permission, outcome, timestamp }

/-- The event of the first sight. -/
def useEvent : ToolEvent := toolUse.event sessionId timestamp .pending none none

/-- The event of a request for permission. -/
def requestEvent (request : PermissionRequest) : ToolEvent :=
  toolUse.event sessionId timestamp .awaitingPermission
    (some
      { requestId := request.requestId, decision := none, suggestions := request.suggestions
        reasoning := none })
    none

/-- The event of an answer. -/
def responseEvent (response : PermissionResponse) : ToolEvent :=
  toolUse.event sessionId timestamp
    (match response.decision with
      | .allow => .permissionGranted
      | .deny => .permissionDenied)
    (some
      { requestId := response.requestId, decision := some response.decision, suggestions := []
        reasoning := response.reasoning })
    none

/-- The event of a result. -/
def resultEvent (result : ToolResult) : ToolEvent :=
  toolUse.event sessionId timestamp (if result.isError then .failed else .completed) none
    (some { content := result.content, isError := result.isError })

end ToolUse

/-- The event that carries the data of a record about a tool use. -/
def TrackerChange.restated (toolUse : ToolUse) (sessionId : Option String)
    (timestamp : Option Timestamp) : TrackerChange → TrackerChange
  | .toolUse _ => .toolEvent (toolUse.useEvent sessionId timestamp)
  | .permissionRequest request => .toolEvent (toolUse.requestEvent sessionId timestamp request)
  | .permissionResponse response => .toolEvent (toolUse.responseEvent sessionId timestamp response)
  | .toolResult result => .toolEvent (toolUse.resultEvent sessionId timestamp result)
  | other => other

/-- A change that stands for another in a run: it is the same, or the other is a record of
the tool use and it is the event with the same data. -/
def Restates (toolUse : ToolUse) (change instead : TrackerChange) : Prop :=
  instead = change ∨ change.names toolUse.toolId = true ∧
    ∃ sessionId timestamp, instead = change.restated toolUse sessionId timestamp

namespace Tracker

/-! ## What an event does to a call that it repeats -/

section Events

variable {tracker : Tracker} {toolUse : ToolUse} {call : ToolCall}

/-- Whether a call has the name and the input of a tool use. -/
def Named (toolUse : ToolUse) (call : ToolCall) : Prop :=
  call.toolName = toolUse.name ∧ call.input = toolUse.input

theorem modify_congr {toolId : String} {first second : ToolCall → ToolCall}
    (held : tracker.call? toolId = some call) (same : first call = second call) :
    tracker.modify toolId first = tracker.modify toolId second := by
  unfold call? at held
  unfold modify Table.adjust
  rw [held]
  dsimp only
  rw [same]

theorem input_assignEvent (event : ToolEvent) (call : ToolCall) :
    (assignEvent event call).input = if event.input = .null then call.input else event.input := by
  unfold assignEvent
  cases event.outcome with
  | some outcome => cases event.permission <;> rfl
  | none => cases event.permission <;> simp [apply_ite ToolCall.input]

/-- An event that repeats the name and the input of its call creates no call and moves
nothing in the index. -/
theorem onToolEvent_of_named {event : ToolEvent} (held : tracker.call? event.toolId = some call)
    (name : call.toolName = event.toolName) (input : call.input = event.input) :
    tracker.onToolEvent event =
      let assigned := tracker.modify event.toolId (assignEvent event)
      let linked := match event.permission with
        | some permission => assigned.link permission.requestId event.toolId
        | none => assigned
      let settled := if event.outcome.isSome then
          { linked with orphans := linked.orphans.erase event.toolId }
        else linked
      if (ToolStatus.ofState event.state).isTerminal then settled.close event.toolId
      else settled.reopen event.toolId := by
  unfold onToolEvent
  rw [ensure_of_call held]
  extract_lets known assigned linked settled indexed
  have becomes : assigned.call? event.toolId = some (assignEvent event call) := by
    rw [call?_modify, if_pos rfl, held]
    rfl
  have named : (assignEvent event call).toolName = event.toolName := rfl
  have same : call.signature = (assignEvent event call).signature := by
    unfold ToolCall.signature
    rw [named, input_assignEvent, name, input, ite_self]
  have unmoved : indexed = settled := by
    unfold indexed
    rw [held, becomes]
    exact if_pos same
  exact congrArg (fun left : Tracker =>
    if (ToolStatus.ofState event.state).isTerminal then left.close event.toolId
    else left.reopen event.toolId) unmoved

variable (sessionId : Option String) (timestamp : Option Timestamp)

/-- The event of the first sight does what the tool use does. -/
theorem onToolEvent_useEvent (unseen : tracker.call? toolUse.toolId = none) :
    tracker.onToolEvent (toolUse.useEvent sessionId timestamp) = tracker.onToolUse toolUse := by
  have created : (tracker.ensure toolUse.toolId toolUse.name toolUse.input).call? toolUse.toolId =
      some (ToolCall.start tracker.sessionId toolUse.toolId toolUse.name toolUse.input
        tracker.nextSeq) := by
    rw [call?_ensure, if_pos rfl, unseen]
    rfl
  have counted : (tracker.ensure toolUse.toolId toolUse.name
      toolUse.input).unfinished.contains toolUse.toolId = true := by
    rw [contains_unfinished_ensure, unseen]
    simp
  have fixed : assignEvent (toolUse.useEvent sessionId timestamp)
      (ToolCall.start tracker.sessionId toolUse.toolId toolUse.name toolUse.input
        tracker.nextSeq) =
      ToolCall.start tracker.sessionId toolUse.toolId toolUse.name toolUse.input
        tracker.nextSeq := by
    simp [assignEvent, ToolUse.useEvent, ToolUse.event, ToolCall.start, ToolStatus.ofState,
      ToolStatus.isTerminal]
  have steps : tracker.onToolEvent (toolUse.useEvent sessionId timestamp) =
      ((tracker.ensure toolUse.toolId toolUse.name toolUse.input).modify toolUse.toolId
        (assignEvent (toolUse.useEvent sessionId timestamp))).reopen toolUse.toolId := by
    unfold onToolEvent
    dsimp only [ToolUse.useEvent, ToolUse.event]
    rw [unseen]
    rfl
  rw [steps, modify_of_fixed created fixed, reopen_of_contains counted]
  unfold onToolUse
  rw [unseen]

variable (held : tracker.call? toolUse.toolId = some call) (named : Named toolUse call)
include held named

-- An event sets all that its state implies: it expands a call that is not finished and
-- counts it as unfinished.  A record changes less, so the laws below ask that the call is
-- expanded and counted already.

/-- The event of a request does what the request does, if the call waits for it. -/
theorem onToolEvent_requestEvent {request : PermissionRequest}
    (asks : request.toolId = some toolUse.toolId) (early : isUnanswered call = true)
    (counted : tracker.unfinished.contains toolUse.toolId = true) :
    tracker.onToolEvent (toolUse.requestEvent sessionId timestamp request) =
      (tracker.onPermissionRequest request).1 := by
  have target := tracker.requestTarget?_of_toolId asks
  have linked : (tracker.link request.requestId toolUse.toolId).call? toolUse.toolId = some call :=
    held
  have asked : assignEvent (toolUse.requestEvent sessionId timestamp request) call =
      askFor request call := by
    rw [askFor_of_unanswered early]
    simp [assignEvent, ToolUse.requestEvent, ToolUse.event, ToolStatus.ofState,
      ToolStatus.isTerminal, named.1, named.2]
  have steps : tracker.onToolEvent (toolUse.requestEvent sessionId timestamp request) =
      ((tracker.modify toolUse.toolId
        (assignEvent (toolUse.requestEvent sessionId timestamp request))).link
          request.requestId toolUse.toolId).reopen toolUse.toolId :=
    onToolEvent_of_named held named.1 named.2
  unfold onPermissionRequest
  rw [steps, modify_congr held asked, target]
  dsimp only
  rw [ensure_of_call linked]
  exact reopen_of_contains counted

/-- The event of an answer does what the answer does, if the call waits for it and is shown
as waiting. -/
theorem onToolEvent_responseEvent {response : PermissionResponse}
    (answers : response.toolId = some toolUse.toolId) (waiting : call.status.isTerminal = false)
    (without : call.outcome = none) (expanded : call.expanded = true)
    (counted : tracker.unfinished.contains toolUse.toolId = true) :
    tracker.onToolEvent (toolUse.responseEvent sessionId timestamp response) =
      (tracker.onPermissionResponse response).1 := by
  have target : response.toolId.or (tracker.requested? response.requestId) =
      some toolUse.toolId :=
    tracker.responseTarget?_of_toolId answers
  have linked : (tracker.link response.requestId toolUse.toolId).call? toolUse.toolId = some call :=
    held
  have answered : assignEvent (toolUse.responseEvent sessionId timestamp response) call =
      answerWith response call := by
    cases decided : response.decision with
    | allow =>
        rw [answerWith_of_allow waiting decided]
        simp [assignEvent, ToolUse.responseEvent, ToolUse.event, ToolStatus.ofState,
          ToolStatus.isTerminal, decided, named.1, named.2, expanded]
    | deny =>
        rw [answerWith_of_deny waiting decided]
        simp [assignEvent, ToolUse.responseEvent, ToolUse.event, ToolStatus.ofState,
          ToolStatus.isTerminal, decided, named.1, named.2, without]
  have steps : tracker.onToolEvent (toolUse.responseEvent sessionId timestamp response) =
      let linked := (tracker.modify toolUse.toolId
        (assignEvent (toolUse.responseEvent sessionId timestamp response))).link
          response.requestId toolUse.toolId
      if response.decision = .deny then linked.close toolUse.toolId
      else linked.reopen toolUse.toolId := by
    rw [onToolEvent_of_named held named.1 named.2]
    unfold ToolUse.responseEvent
    cases response.decision <;> rfl
  unfold onPermissionResponse
  rw [steps, modify_congr held answered, target]
  dsimp only
  rw [linked]
  dsimp only
  rw [waiting]
  cases response.decision with
  | allow => exact reopen_of_contains counted
  | deny => rfl

/-- The event of a result does what the result does. -/
theorem onToolEvent_resultEvent {result : ToolResult} (reports : result.toolId = toolUse.toolId) :
    tracker.onToolEvent (toolUse.resultEvent sessionId timestamp result) =
      tracker.onToolResult result := by
  have finished : assignEvent (toolUse.resultEvent sessionId timestamp result) call =
      finishWith result call := by
    unfold finishWith
    cases failed : result.isError <;>
      simp [assignEvent, ToolUse.resultEvent, ToolUse.event, ToolStatus.ofState,
        ToolStatus.isTerminal, failed, named.1, named.2]
  have steps : tracker.onToolEvent (toolUse.resultEvent sessionId timestamp result) =
      let assigned := tracker.modify toolUse.toolId
        (assignEvent (toolUse.resultEvent sessionId timestamp result))
      { assigned with orphans := assigned.orphans.erase toolUse.toolId }.close toolUse.toolId := by
    rw [onToolEvent_of_named held named.1 named.2]
    unfold ToolUse.resultEvent
    cases result.isError <;> rfl
  unfold onToolResult
  rw [steps, modify_congr held finished, reports, ensure_of_call held]
  rfl

end Events

/-! ## The stages of a tool use -/

/-- How far the records of a tool use have come. -/
inductive Stage where
  /-- Before the tool use. -/
  | unseen
  /-- After the tool use; requests, the answer and results can come. -/
  | waiting
  /-- After the answer or a result; only results can come. -/
  | known

/-- Which records can come in a stage, and to which stage they lead. -/
inductive Leads (toolUse : ToolUse) : Stage → TrackerChange → Stage → Prop where
  | used : Leads toolUse .unseen (.toolUse toolUse) .waiting
  | asked {request : PermissionRequest} (asks : request.toolId = some toolUse.toolId) :
      Leads toolUse .waiting (.permissionRequest request) .waiting
  | answered {response : PermissionResponse} (answers : response.toolId = some toolUse.toolId) :
      Leads toolUse .waiting (.permissionResponse response) .known
  | reported {stage : Stage} {result : ToolResult} (seen : stage ≠ .unseen)
      (reports : result.toolId = toolUse.toolId) : Leads toolUse stage (.toolResult result) .known

/-- Records that can come one after another from a stage on. -/
inductive Path (toolUse : ToolUse) : Stage → List TrackerChange → Prop where
  | nil {stage : Stage} : Path toolUse stage []
  | cons {stage next : Stage} {record : TrackerChange} {rest : List TrackerChange}
      (leads : Leads toolUse stage record next) (path : Path toolUse next rest) :
      Path toolUse stage (record :: rest)

/-- What a tracker has of a tool use in a stage: just what makes the records that can come
do what their events do. -/
inductive Fits (toolUse : ToolUse) (tracker : Tracker) : Stage → Prop where
  | unseen (new : tracker.call? toolUse.toolId = none) : Fits toolUse tracker .unseen
  | waiting {call : ToolCall} (held : tracker.call? toolUse.toolId = some call)
      (named : Named toolUse call) (early : isUnanswered call = true) (without : call.outcome = none)
      (expanded : call.expanded = true)
      (counted : tracker.unfinished.contains toolUse.toolId = true) :
      Fits toolUse tracker .waiting
  | known {call : ToolCall} (held : tracker.call? toolUse.toolId = some call)
      (named : Named toolUse call) : Fits toolUse tracker .known

/-- A tracker has followed a tool use to a stage, and there is no verdict on it. -/
structure Follows (toolUse : ToolUse) (tracker : Tracker) (stage : Stage) : Prop where
  unjudged : tracker.isOrphaned toolUse.toolId = false
  fits : Fits toolUse tracker stage

section Stages

variable {toolUse : ToolUse} {tracker : Tracker} {stage next : Stage}

/-- In either stage after the first there is a call. -/
theorem Fits.call (fits : Fits toolUse tracker stage) (seen : stage ≠ .unseen) :
    ∃ call, tracker.call? toolUse.toolId = some call ∧ Named toolUse call := by
  cases fits with
  | unseen => exact absurd rfl seen
  | waiting held named => exact ⟨_, held, named⟩
  | known held named => exact ⟨_, held, named⟩

/-- **Lockstep.**  In every stage a record that can come does what its event does. -/
theorem Follows.after_restated (follows : Follows toolUse tracker stage) {record : TrackerChange}
    (leads : Leads toolUse stage record next) (sessionId : Option String)
    (timestamp : Option Timestamp) :
    tracker.after (record.restated toolUse sessionId timestamp) = tracker.after record := by
  cases leads with
  | used =>
      cases follows.fits with
      | unseen new => exact onToolEvent_useEvent sessionId timestamp new
  | asked asks =>
      cases follows.fits with
      | waiting held named early _ _ counted =>
          exact onToolEvent_requestEvent sessionId timestamp held named asks early counted
  | answered answers =>
      cases follows.fits with
      | waiting held named early without expanded counted =>
          exact onToolEvent_responseEvent sessionId timestamp held named answers
            (isTerminal_of_isUnanswered early) without expanded counted
  | reported seen reports =>
      obtain ⟨call, held, named⟩ := follows.fits.call seen
      exact onToolEvent_resultEvent sessionId timestamp held named reports

theorem Follows.onToolUse (follows : Follows toolUse tracker .unseen) :
    Follows toolUse (tracker.onToolUse toolUse) .waiting := by
  cases follows.fits with
  | unseen new =>
      have creates : tracker.onToolUse toolUse =
          tracker.ensure toolUse.toolId toolUse.name toolUse.input := by
        unfold Tracker.onToolUse
        rw [new]
      have held : (tracker.onToolUse toolUse).call? toolUse.toolId =
          some (ToolCall.start tracker.sessionId toolUse.toolId toolUse.name toolUse.input
            tracker.nextSeq) := by
        rw [creates, call?_ensure, if_pos rfl, new]
        rfl
      have counted : (tracker.onToolUse toolUse).unfinished.contains toolUse.toolId = true := by
        rw [creates, contains_unfinished_ensure, new]
        simp
      have unjudged : (tracker.onToolUse toolUse).isOrphaned toolUse.toolId = false := by
        unfold isOrphaned
        rw [orphans_onToolUse]
        exact follows.unjudged
      exact ⟨unjudged, Fits.waiting held ⟨rfl, rfl⟩ rfl rfl rfl counted⟩

theorem Follows.onPermissionRequest (follows : Follows toolUse tracker .waiting)
    {request : PermissionRequest} (asks : request.toolId = some toolUse.toolId) :
    Follows toolUse (tracker.onPermissionRequest request).1 .waiting := by
  cases follows.fits with
  | waiting held named early without expanded counted =>
      have becomes := tracker.call?_onPermissionRequest (tracker.requestTarget?_of_toolId asks)
      rw [callOrStart_of_call held, askFor_of_unanswered early] at becomes
      have still : (tracker.onPermissionRequest request).1.unfinished.contains
          toolUse.toolId = true := by
        rw [← onToolEvent_requestEvent none none held named asks early counted]
        exact contains_unfinished_onToolEvent tracker (toolUse.requestEvent none none request)
      have unjudged : (tracker.onPermissionRequest request).1.isOrphaned toolUse.toolId =
          false := by
        unfold isOrphaned
        rw [orphans_onPermissionRequest]
        exact follows.unjudged
      exact ⟨unjudged, Fits.waiting becomes named rfl without rfl still⟩

theorem Follows.onPermissionResponse (follows : Follows toolUse tracker .waiting)
    {response : PermissionResponse} (answers : response.toolId = some toolUse.toolId) :
    Follows toolUse (tracker.onPermissionResponse response).1 .known := by
  cases follows.fits with
  | waiting held named early =>
      have becomes :=
        tracker.call?_onPermissionResponse (tracker.responseTarget?_of_toolId answers)
      rw [held, Option.map_some] at becomes
      have unjudged : (tracker.onPermissionResponse response).1.isOrphaned toolUse.toolId =
          false := by
        unfold isOrphaned
        rw [orphans_onPermissionResponse]
        exact follows.unjudged
      refine ⟨unjudged, Fits.known becomes ?_⟩
      cases decided : response.decision with
      | allow =>
          rw [answerWith_of_allow (isTerminal_of_isUnanswered early) decided]
          exact named
      | deny =>
          rw [answerWith_of_deny (isTerminal_of_isUnanswered early) decided]
          exact named

theorem Follows.onToolResult (follows : Follows toolUse tracker stage) (seen : stage ≠ .unseen)
    {result : ToolResult} (reports : result.toolId = toolUse.toolId) :
    Follows toolUse (tracker.onToolResult result) .known := by
  obtain ⟨call, held, named⟩ := follows.fits.call seen
  have becomes := tracker.call?_onToolResult result
  rw [reports, callOrStart_of_call held] at becomes
  have pardoned : (tracker.onToolResult result).isOrphaned toolUse.toolId = false := by
    unfold isOrphaned
    rw [orphans_onToolResult, reports, Table.contains_erase, bne_self_eq_false, Bool.false_and]
  exact ⟨pardoned, Fits.known becomes named⟩

/-- A record that can come leads to its next stage. -/
theorem Follows.after_record (follows : Follows toolUse tracker stage) {record : TrackerChange}
    (leads : Leads toolUse stage record next) : Follows toolUse (tracker.after record) next := by
  cases leads with
  | used => exact follows.onToolUse
  | asked asks => exact follows.onPermissionRequest asks
  | answered answers => exact follows.onPermissionResponse answers
  | reported seen reports => exact follows.onToolResult seen reports

/-- What concerns other tool uses leaves the stage. -/
theorem Follows.of_sameAt {after : Tracker} (follows : Follows toolUse tracker stage)
    (same : SameAt after tracker toolUse.toolId) : Follows toolUse after stage := by
  refine ⟨same.isOrphaned.trans follows.unjudged, ?_⟩
  cases follows.fits with
  | unseen new => exact Fits.unseen (same.call.trans new)
  | waiting held named early without expanded counted =>
      exact Fits.waiting (same.call.trans held) named early without expanded
        (same.unfinished.trans counted)
  | known held named => exact Fits.known (same.call.trans held) named

theorem Follows.after_elsewhere (follows : Follows toolUse tracker stage) {change : TrackerChange}
    (explicit : change.isExplicit = true) (elsewhere : change.names toolUse.toolId = false) :
    Follows toolUse (tracker.after change) stage := by
  cases change with
  | toolUse used => exact follows.of_sameAt (sameAt_onToolUse _ (ne_of_beq_false elsewhere).symm)
  | permissionRequest request =>
      refine follows.of_sameAt (sameAt_onPermissionRequest _ fun target => ?_)
      obtain ⟨toolId, asks⟩ := Option.isSome_iff_exists.1 explicit
      rw [tracker.requestTarget?_of_toolId asks] at target
      exact ne_of_beq_false elsewhere (asks.trans target)
  | permissionResponse response =>
      refine follows.of_sameAt (sameAt_onPermissionResponse _ fun target => ?_)
      obtain ⟨toolId, answers⟩ := Option.isSome_iff_exists.1 explicit
      rw [tracker.responseTarget?_of_toolId answers] at target
      exact ne_of_beq_false elsewhere (answers.trans target)
  | toolResult result =>
      exact follows.of_sameAt (sameAt_onToolResult _ (ne_of_beq_false elsewhere).symm)
  | toolEvent event =>
      exact follows.of_sameAt (sameAt_onToolEvent _ (ne_of_beq_false elsewhere).symm)
  | displayLinks display => exact follows.of_sameAt (sameAt_applyDisplayLinks _ display)
  | displayStates display =>
      obtain ⟨untold, unlisted⟩ := Bool.or_eq_false_iff.1 elsewhere
      exact follows.of_sameAt (sameAt_applyDisplayStates _ follows.unjudged untold unlisted)
  | markOrphaned orphanId reason message =>
      exact follows.of_sameAt (sameAt_recordOrphan _ (ne_of_beq_false elsewhere).symm _)
  | orphanUnfinished reason => cases explicit
  | recount =>
      refine ⟨follows.unjudged, ?_⟩
      cases follows.fits with
      | unseen new => exact Fits.unseen new
      | waiting held named early without expanded counted =>
          refine Fits.waiting held named early without expanded ?_
          have waits : tracker.awaits toolUse.toolId = true := by
            unfold awaits
            rw [held, Option.any_some, isTerminal_of_isUnanswered early]
            rfl
          refine (Table.contains_mapValues _ _ _).trans ?_
          rw [contains_unfinishedCalls, waits, follows.unjudged]
          rfl
      | known held named => exact Fits.known held named
  | toggle toggledId =>
      exact follows.of_sameAt (sameAt_toggleExpanded _ (ne_of_beq_false elsewhere).symm)

end Stages

/-! ## Runs -/

section Paths

variable {toolUse : ToolUse}

theorem path_results {results : List ToolResult} {stage : Stage} (seen : stage ≠ .unseen)
    (reports : ∀ result ∈ results, result.toolId = toolUse.toolId) :
    Path toolUse stage (results.map .toolResult) := by
  induction results generalizing stage with
  | nil => exact Path.nil
  | cons result rest ih =>
      have later : ∀ next ∈ rest, next.toolId = toolUse.toolId := fun next member =>
        reports next (List.mem_cons_of_mem _ member)
      exact Path.cons (Leads.reported seen (reports result List.mem_cons_self))
        (ih Stage.noConfusion later)

theorem path_requests {requests : List PermissionRequest} {rest : List TrackerChange}
    (asks : ∀ request ∈ requests, request.toolId = some toolUse.toolId)
    (path : Path toolUse .waiting rest) :
    Path toolUse .waiting (requests.map .permissionRequest ++ rest) := by
  induction requests with
  | nil => exact path
  | cons request others ih =>
      have later : ∀ next ∈ others, next.toolId = some toolUse.toolId := fun next member =>
        asks next (List.mem_cons_of_mem _ member)
      exact Path.cons (Leads.asked (asks request List.mem_cons_self)) (ih later)

/-- The records of a tool use can come one after another. -/
theorem path_records (life : Lifecycle) : Path life.toolUse .unseen life.records := by
  refine Path.cons Leads.used (path_requests life.asks ?_)
  cases answered : life.response with
  | none => exact path_results Stage.noConfusion life.reports
  | some response =>
      exact Path.cons (Leads.answered (life.answers response answered))
        (path_results Stage.noConfusion life.reports)

theorem Follows.run_restated {tracker : Tracker} {stage : Stage}
    (follows : Follows toolUse tracker stage) {changes instead : List TrackerChange}
    (restates : List.Forall₂ (Restates toolUse) changes instead)
    (path : Path toolUse stage (changes.filter fun change => change.names toolUse.toolId))
    (explicit : ∀ change ∈ changes, change.isExplicit = true) :
    tracker.run instead = tracker.run changes := by
  -- Both runs are in one tracker all the time; the stage says which record can come next.
  induction restates generalizing tracker stage with
  | nil => rfl
  | @cons change restated rest others restates _ ih =>
      have later : ∀ next ∈ rest, next.isExplicit = true := fun next member =>
        explicit next (List.mem_cons_of_mem _ member)
      rw [run_cons, run_cons]
      cases own : change.names toolUse.toolId with
      | false =>
          have same : restated = change := by
            rcases restates with same | ⟨named, _⟩
            · exact same
            · rw [own] at named
              cases named
          rw [List.filter_cons_of_neg (by simp [own])] at path
          rw [same]
          exact ih (follows.after_elsewhere (explicit change List.mem_cons_self) own) path later
      | true =>
          rw [List.filter_cons_of_pos (by simp [own])] at path
          cases path with
          | cons leads path =>
              have same : tracker.after restated = tracker.after change := by
                rcases restates with same | ⟨_, sessionId, timestamp, same⟩
                · rw [same]
                · rw [same]
                  exact follows.after_restated leads sessionId timestamp
              rw [same]
              exact ih (follows.after_record leads) path later

end Paths

/-- **The protocols agree.**  Take a tracker without a call of a tool use and without a
verdict on it, and a run in which the changes that name the tool use are its records and
every other change names what it is about.  Put for any of the records the event with the
same data: the tracker after the run is the same. -/
theorem protocols_agree (life : Lifecycle) {tracker : Tracker}
    (unseen : tracker.call? life.toolUse.toolId = none)
    (unjudged : tracker.isOrphaned life.toolUse.toolId = false)
    {changes instead : List TrackerChange}
    (own : (changes.filter fun change => change.names life.toolUse.toolId) = life.records)
    (explicit : ∀ change ∈ changes, change.isExplicit = true)
    (restates : List.Forall₂ (Restates life.toolUse) changes instead) :
    tracker.run instead = tracker.run changes := by
  have follows : Follows life.toolUse tracker .unseen := ⟨unjudged, Fits.unseen unseen⟩
  refine follows.run_restated restates ?_ explicit
  rw [own]
  exact path_records life

/-- A use of a tool that is asked for, allowed and reported. -/
def allowedBash : Lifecycle where
  toolUse := { toolId := "t1", name := "Bash", input := Json.ofMembers [] }
  requests :=
    [{ requestId := "r", toolName := "Bash", input := Json.ofMembers [], toolId := some "t1"
       suggestions := [.string "allow"] }]
  response := some
    { requestId := "r", decision := .allow, reasoning := none, toolId := some "t1"
      clarification := none, appliedUpdates := [] }
  results := [{ toolId := "t1", content := .string "done", isError := false }]
  asks := by simp
  answers := by rintro _ ⟨⟩; rfl
  reports := by simp

/-- Another tool use goes on before the answer; the request and the result come as
events. -/
theorem protocols_agree_of_mixedBash :
    let between : List TrackerChange :=
      [.toolUse { toolId := "t2", name := "Read", input := .null }, .markOrphaned "t2" "gone" none]
    let answer := allowedBash.response.toList.map TrackerChange.permissionResponse
    let older : List TrackerChange :=
      .toolUse allowedBash.toolUse :: allowedBash.requests.map .permissionRequest ++ between ++
        answer ++ allowedBash.results.map .toolResult
    let mixed : List TrackerChange :=
      .toolUse allowedBash.toolUse ::
        allowedBash.requests.map
          (fun request => .toolEvent (allowedBash.toolUse.requestEvent none none request)) ++
        between ++ answer ++
        allowedBash.results.map
          (fun result => .toolEvent (allowedBash.toolUse.resultEvent (some "s") none result))
    (Tracker.new "s").call? "t1" = none ∧ (Tracker.new "s").isOrphaned "t1" = false ∧
      (older.filter fun change => change.names "t1") = allowedBash.records ∧
      (∀ change ∈ older, change.isExplicit = true) ∧
      List.Forall₂ (Restates allowedBash.toolUse) older mixed ∧
      (Tracker.new "s").run mixed = (Tracker.new "s").run older := by
  intro between answer older mixed
  have own : (older.filter fun change => change.names "t1") = allowedBash.records := rfl
  have explicit : ∀ change ∈ older, change.isExplicit = true := by
    simp [older, between, answer, allowedBash, TrackerChange.isExplicit]
  have restates : List.Forall₂ (Restates allowedBash.toolUse) older mixed :=
    .cons (.inl rfl) <| .cons (.inr ⟨rfl, none, none, rfl⟩) <| .cons (.inl rfl) <|
      .cons (.inl rfl) <| .cons (.inl rfl) <| .cons (.inr ⟨rfl, some "s", none, rfl⟩) .nil
  exact ⟨rfl, rfl, own, explicit, restates,
    protocols_agree allowedBash rfl rfl own explicit restates⟩

end Tracker

end SessionSync
