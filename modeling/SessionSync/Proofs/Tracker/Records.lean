import SessionSync.Proofs.Tracker.Stranded

/-!
# What a change makes of one call

The four records of the older protocol, a link and a toggle each concern one tool
use.  For each of them this module says which tool use that is, what its call
becomes, and that every other tool use is left as it was.

A record that reaches a tool use without a call first creates one, so a law speaks
of the call that is there or would be created (`Tracker.callOrStart`).  An answer is
the exception: it changes a call only if there is one.
-/

set_option autoImplicit false

namespace SessionSync.Tracker

/-- A call with another name and another input. -/
def renamed (toolName : String) (input : Json) (call : ToolCall) : ToolCall :=
  { call with toolName, input }

/-- What a tool use makes of a call: it brings name and input up to date, unless the
call has their signature already. -/
def nameAs (toolUse : ToolUse) (call : ToolCall) : ToolCall :=
  if call.signature = toolSignature toolUse.name toolUse.input then call
  else renamed toolUse.name toolUse.input call

/-- What a result makes of a call. -/
def finishWith (result : ToolResult) (call : ToolCall) : ToolCall :=
  { call with
    status := if result.isError then .error else .completed
    outcome := some { content := result.content, isError := result.isError }
    expanded := false
    orphaned := false
    orphanReason := none }

/-! ## Requests and answers, by the status they meet -/

section Meeting

variable {call : ToolCall}

/-- Whether a call is still before the answer to its permission request. -/
def isUnanswered (call : ToolCall) : Bool :=
  call.status == .pending || call.status == .permissionRequired

theorem status_of_isUnanswered (early : isUnanswered call = true) :
    call.status = .pending ∨ call.status = .permissionRequired := by
  simpa [isUnanswered] using early

theorem isTerminal_of_isUnanswered (early : isUnanswered call = true) :
    call.status.isTerminal = false := by
  rcases status_of_isUnanswered early with held | held <;> rw [held] <;> rfl

theorem askFor_of_unanswered {request : PermissionRequest} (early : isUnanswered call = true) :
    askFor request call =
      { call with
        requestId := some request.requestId
        suggestions := if request.suggestions.isEmpty then call.suggestions else request.suggestions
        status := .permissionRequired
        expanded := true } := by
  unfold askFor
  cases held : call.status with
  | pending => rfl
  | permissionRequired => rfl
  | executing => simp [isUnanswered, held] at early
  | completed => simp [isUnanswered, held] at early
  | error => simp [isUnanswered, held] at early

theorem askFor_of_answered {request : PermissionRequest} (late : isUnanswered call = false) :
    askFor request call =
      { call with
        requestId := some request.requestId
        suggestions :=
          if request.suggestions.isEmpty then call.suggestions else request.suggestions } := by
  unfold askFor
  cases held : call.status with
  | pending => simp [isUnanswered, held] at late
  | permissionRequired => simp [isUnanswered, held] at late
  | executing => rfl
  | completed => rfl
  | error => rfl

/-- A request changes what it is about and how far its call is, and nothing else. -/
theorem askFor_eq (request : PermissionRequest) (call : ToolCall) :
    ∃ suggestions status expanded, askFor request call =
      { call with requestId := some request.requestId, suggestions, status, expanded } := by
  cases early : isUnanswered call with
  | true => exact ⟨_, _, _, askFor_of_unanswered early⟩
  | false => exact ⟨_, _, _, askFor_of_answered early⟩

variable {response : PermissionResponse}

theorem answerWith_of_finished (finished : call.status.isTerminal = true) :
    answerWith response call =
      { call with requestId := some response.requestId, decision := some response.decision } :=
  if_pos finished

theorem answerWith_of_allow (waiting : call.status.isTerminal = false)
    (decided : response.decision = .allow) :
    answerWith response call =
      { call with
        requestId := some response.requestId
        decision := some .allow
        status := .executing } := by
  unfold answerWith
  rw [if_neg (by simp [waiting]), decided]

theorem answerWith_of_deny (waiting : call.status.isTerminal = false)
    (decided : response.decision = .deny) :
    answerWith response call =
      { call with
        requestId := some response.requestId
        decision := some .deny
        status := .completed
        outcome := some (denialOutcome response.reasoning)
        expanded := false } := by
  unfold answerWith
  rw [if_neg (by simp [waiting]), decided]

/-- An answer changes what it is about and how far its call is, and nothing else. -/
theorem answerWith_eq (response : PermissionResponse) (call : ToolCall) :
    ∃ status outcome expanded, answerWith response call =
      { call with
        requestId := some response.requestId
        decision := some response.decision
        status, outcome, expanded } := by
  cases finished : call.status.isTerminal with
  | true => exact ⟨_, _, _, answerWith_of_finished finished⟩
  | false =>
      cases decided : response.decision with
      | allow => exact ⟨_, _, _, answerWith_of_allow finished decided⟩
      | deny => exact ⟨_, _, _, answerWith_of_deny finished decided⟩

end Meeting

/-! ## Tool uses -/

section Records

variable (tracker : Tracker) {probe : String}

theorem callOrStart_of_call {tracker : Tracker} {toolId : String} {call : ToolCall}
    (known : tracker.call? toolId = some call) (toolName : String) (input : Json) :
    tracker.callOrStart toolId toolName input = call := by
  simp [callOrStart, known]

theorem callOrStart_of_new {tracker : Tracker} {toolId : String}
    (unknown : tracker.call? toolId = none) (toolName : String) (input : Json) :
    tracker.callOrStart toolId toolName input =
      ToolCall.start tracker.sessionId toolId toolName input tracker.nextSeq := by
  simp [callOrStart, unknown]

theorem call?_onToolUse (toolUse : ToolUse) :
    (tracker.onToolUse toolUse).call? toolUse.toolId =
      some (nameAs toolUse
        (tracker.callOrStart toolUse.toolId toolUse.name toolUse.input)) := by
  unfold onToolUse
  cases held : tracker.call? toolUse.toolId with
  | none =>
      have named : (ToolCall.start tracker.sessionId toolUse.toolId toolUse.name toolUse.input
          tracker.nextSeq).signature = toolSignature toolUse.name toolUse.input := rfl
      dsimp only
      rw [callOrStart_of_new held, nameAs, if_pos named, call?_ensure, if_pos rfl, held]
      rfl
  | some call =>
      dsimp only
      rw [callOrStart_of_call held, nameAs]
      split
      · exact held
      · rw [call?_modify, if_pos rfl, call?_reindex, held]
        rfl

theorem sameAt_onToolUse {toolUse : ToolUse} (elsewhere : probe ≠ toolUse.toolId) :
    SameAt (tracker.onToolUse toolUse) tracker probe := by
  unfold onToolUse
  cases tracker.call? toolUse.toolId with
  | none => exact tracker.sameAt_ensure elsewhere _ _
  | some call =>
      dsimp only
      split
      · exact ⟨rfl, rfl, rfl⟩
      · exact (sameAt_modify _ elsewhere _).trans (tracker.sameAt_reindex _ _)

theorem orphans_onToolUse (toolUse : ToolUse) :
    (tracker.onToolUse toolUse).orphans = tracker.orphans := by
  unfold onToolUse
  cases tracker.call? toolUse.toolId with
  | none => simp
  | some call =>
      dsimp only
      split
      · rfl
      · simp

theorem links_onToolUse (toolUse : ToolUse) :
    (tracker.onToolUse toolUse).links = tracker.links := by
  unfold onToolUse
  cases tracker.call? toolUse.toolId with
  | none => exact tracker.links_ensure _ _ _
  | some call =>
      dsimp only
      split
      · rfl
      · obtain ⟨signatures, same⟩ := tracker.reindex_eq toolUse.toolId call.signature
          (toolSignature toolUse.name toolUse.input)
        rw [same]
        rfl

/-! ## Requests and answers -/

/-- A request that names its tool use is about that one. -/
theorem requestTarget?_of_toolId {request : PermissionRequest} {toolId : String}
    (names : request.toolId = some toolId) : tracker.requestTarget? request = some toolId := by
  unfold requestTarget?
  rw [names]
  rfl

/-- An answer that names its tool use is about that one. -/
theorem responseTarget?_of_toolId {response : PermissionResponse} {toolId : String}
    (names : response.toolId = some toolId) : tracker.responseTarget? response = some toolId := by
  unfold responseTarget?
  rw [names]
  rfl

theorem call?_onPermissionRequest {request : PermissionRequest} {toolId : String}
    (target : tracker.requestTarget? request = some toolId) :
    (tracker.onPermissionRequest request).1.call? toolId =
      some (askFor request (tracker.callOrStart toolId request.toolName request.input)) := by
  unfold onPermissionRequest
  rw [target]
  exact call?_modify_ensure (tracker.link request.requestId toolId) toolId _ _ _

theorem sameAt_onPermissionRequest {request : PermissionRequest}
    (elsewhere : tracker.requestTarget? request ≠ some probe) :
    SameAt (tracker.onPermissionRequest request).1 tracker probe := by
  unfold onPermissionRequest
  cases target : tracker.requestTarget? request with
  | none => exact ⟨rfl, rfl, rfl⟩
  | some toolId =>
      have other : probe ≠ toolId := fun same => elsewhere (same ▸ target)
      exact (sameAt_modify _ other _).trans
        ((sameAt_ensure _ other _ _).trans (tracker.sameAt_link _))

theorem requested?_onPermissionRequest {request : PermissionRequest} {toolId : String}
    (target : tracker.requestTarget? request = some toolId) (requestId : String) :
    (tracker.onPermissionRequest request).1.requested? requestId =
      if requestId = request.requestId then some toolId else tracker.requested? requestId := by
  have ensured := (tracker.link request.requestId toolId).links_ensure toolId request.toolName
    request.input
  unfold onPermissionRequest requested?
  rw [target]
  show ((tracker.link request.requestId toolId).ensure toolId request.toolName
    request.input).links.find? requestId = _
  rw [ensured]
  exact tracker.requested?_link _ _ _

theorem orphans_onPermissionRequest (request : PermissionRequest) :
    (tracker.onPermissionRequest request).1.orphans = tracker.orphans := by
  unfold onPermissionRequest
  cases tracker.requestTarget? request with
  | none => rfl
  | some toolId => simp

theorem call?_onPermissionResponse {response : PermissionResponse} {toolId : String}
    (target : tracker.responseTarget? response = some toolId) :
    (tracker.onPermissionResponse response).1.call? toolId =
      (tracker.call? toolId).map (answerWith response) := by
  unfold responseTarget? at target
  unfold onPermissionResponse
  rw [target]
  dsimp only
  have linked : (tracker.link response.requestId toolId).call? toolId = tracker.call? toolId := rfl
  rw [linked]
  cases held : tracker.call? toolId with
  | none => exact held
  | some call =>
      have answered : ((tracker.link response.requestId toolId).modify toolId
          (answerWith response)).call? toolId = some (answerWith response call) := by
        rw [call?_modify, if_pos rfl, linked, held]
        rfl
      dsimp only
      split
      · exact answered
      · exact answered

theorem sameAt_onPermissionResponse {response : PermissionResponse}
    (elsewhere : tracker.responseTarget? response ≠ some probe) :
    SameAt (tracker.onPermissionResponse response).1 tracker probe := by
  unfold responseTarget? at elsewhere
  unfold onPermissionResponse
  cases target : response.toolId.or (tracker.requested? response.requestId) with
  | none => exact ⟨rfl, rfl, rfl⟩
  | some toolId =>
      have other : probe ≠ toolId := fun same => elsewhere (same ▸ target)
      have linked : SameAt (tracker.link response.requestId toolId) tracker probe :=
        tracker.sameAt_link _
      dsimp only
      cases (tracker.link response.requestId toolId).call? toolId with
      | none => exact linked
      | some call =>
          dsimp only
          split
          · exact (sameAt_close _ other).trans ((sameAt_modify _ other _).trans linked)
          · exact (sameAt_modify _ other _).trans linked

theorem requested?_onPermissionResponse {response : PermissionResponse} {toolId : String}
    (target : tracker.responseTarget? response = some toolId) (requestId : String) :
    (tracker.onPermissionResponse response).1.requested? requestId =
      if requestId = response.requestId then some toolId else tracker.requested? requestId := by
  have linked := tracker.requested?_link toolId response.requestId requestId
  unfold responseTarget? at target
  unfold onPermissionResponse
  rw [target]
  dsimp only
  cases (tracker.link response.requestId toolId).call? toolId with
  | none => exact linked
  | some call =>
      dsimp only
      split
      · exact linked
      · exact linked

theorem orphans_onPermissionResponse (response : PermissionResponse) :
    (tracker.onPermissionResponse response).1.orphans = tracker.orphans := by
  unfold onPermissionResponse
  cases response.toolId.or (tracker.requested? response.requestId) with
  | none => rfl
  | some toolId =>
      dsimp only
      cases (tracker.link response.requestId toolId).call? toolId with
      | none => rfl
      | some call =>
          dsimp only
          split <;> rfl

/-! ## Results -/

theorem call?_onToolResult (result : ToolResult) :
    (tracker.onToolResult result).call? result.toolId =
      some (finishWith result (tracker.callOrStart result.toolId "" .null)) :=
  call?_modify_ensure tracker result.toolId "" .null (finishWith result)

theorem orphans_onToolResult (result : ToolResult) :
    (tracker.onToolResult result).orphans = tracker.orphans.erase result.toolId := by
  have ensured := tracker.orphans_ensure result.toolId "" .null
  show (tracker.ensure result.toolId "" .null).orphans.erase result.toolId = _
  rw [ensured]

theorem links_onToolResult (result : ToolResult) :
    (tracker.onToolResult result).links = tracker.links :=
  tracker.links_ensure result.toolId "" .null

/-! ## Links and toggles -/

theorem call?_toggleExpanded (toolId : String) :
    (tracker.toggleExpanded toolId).1.call? toolId =
      (tracker.call? toolId).map fun call => { call with expanded := !call.expanded } := by
  unfold toggleExpanded
  cases held : tracker.call? toolId with
  | none => exact held
  | some call =>
      dsimp only
      rw [call?_modify, if_pos rfl, held]

theorem sameAt_toggleExpanded {toolId : String} (elsewhere : probe ≠ toolId) :
    SameAt (tracker.toggleExpanded toolId).1 tracker probe := by
  unfold toggleExpanded
  cases tracker.call? toolId with
  | none => exact ⟨rfl, rfl, rfl⟩
  | some call => exact tracker.sameAt_modify elsewhere _

/-- Steps that leave a tool use alone one by one leave it alone together. -/
theorem sameAt_foldl {α : Type} {step : Tracker → α → Tracker} {items : List α}
    (leaves : ∀ item ∈ items, ∀ tracker, SameAt (step tracker item) tracker probe) :
    SameAt (items.foldl step tracker) tracker probe :=
  List.foldlRecOn items step ⟨rfl, rfl, rfl⟩ fun before same item member =>
    (leaves item member before).trans same

theorem sameAt_applyDisplayLinks (display : Display) :
    SameAt (tracker.applyDisplayLinks display) tracker probe := by
  unfold applyDisplayLinks
  cases display.links with
  | none => exact ⟨rfl, rfl, rfl⟩
  | some links => exact tracker.sameAt_foldl fun entry _ tracker => tracker.sameAt_link entry.1

/-! ## Display blocks -/

theorem call?_forgetOrphans (toolId : String) :
    tracker.forgetOrphans.call? toolId = (tracker.call? toolId).map fun call =>
      if tracker.isOrphaned toolId then { call with orphaned := false, orphanReason := none }
      else call :=
  Table.find?_mapValues tracker.calls _ toolId

/-- Taking all verdicts back changes nothing about a tool use without one. -/
theorem sameAt_forgetOrphans (unjudged : tracker.isOrphaned probe = false) :
    SameAt tracker.forgetOrphans tracker probe := by
  refine ⟨?_, (Table.contains_eq_false_iff.1 unjudged).symm, rfl⟩
  rw [call?_forgetOrphans, unjudged]
  simp

theorem sameAt_applyDisplayStates {display : Display} (unjudged : tracker.isOrphaned probe = false)
    (untold : (display.tools.any fun tools => tools.contains probe) = false)
    (unlisted : (display.orphans.any fun notices =>
      notices.any fun notice => notice.toolId == probe) = false) :
    SameAt (tracker.applyDisplayStates display) tracker probe := by
  have told : SameAt (tracker.applyDisplayedTools display) tracker probe := by
    unfold applyDisplayedTools applyDisplayStates
    cases shown : display.tools with
    | none => exact ⟨rfl, rfl, rfl⟩
    | some tools =>
        rw [shown, Option.any_some] at untold
        refine tracker.sameAt_foldl fun entry member tracker => ?_
        refine tracker.sameAt_applyDisplayedTool (fun here => ?_) entry.2
        have listed : probe ∈ tools.keys := List.mem_map.2 ⟨entry, member, here.symm⟩
        rw [WalkedMap.mem_keys_iff.1 listed] at untold
        cases untold
  rw [applyDisplayStates_eq]
  cases judged : display.orphans with
  | none => exact told
  | some notices =>
      rw [judged, Option.any_some, List.any_eq_false] at unlisted
      -- A list takes all earlier verdicts back first, named by it or not.
      have pardoned : SameAt (tracker.applyDisplayedTools display).forgetOrphans tracker probe :=
        (sameAt_forgetOrphans _ (told.isOrphaned.trans unjudged)).trans told
      refine SameAt.trans (sameAt_foldl _ fun notice member tracker => ?_) pardoned
      refine tracker.sameAt_recordOrphan (fun here => ?_) _
      exact unlisted notice member (beq_iff_eq.2 here.symm)

end Records

end SessionSync.Tracker
