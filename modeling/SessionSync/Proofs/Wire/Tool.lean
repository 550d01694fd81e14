import SessionSync.Proofs.Wire.Record
import SessionSync.Wire.Tool

/-!
# The records of a tool's life are read again

Every record that tells of a tool is read exactly where it is proper, from the use of the tool
to the display block that shows its state.  Proper records are those whose free values are in
normal form; a display block also walks its tools in the order of their ids, as a reading does.
-/

set_option autoImplicit false

namespace SessionSync

open Wire

/-! ## Words and timestamps -/

theorem Timestamp.exact : Exact Timestamp.decode? Timestamp.encode fun _ => True :=
  .of_always Timestamp.decode?_encode

theorem optional_timestamp {view : View} {name : String} {value : Option Timestamp}
    (given : view.get? name = (Table.ofList (whenSome name Timestamp.encode value)).find? name) :
    view.optional name Timestamp.decode? = some value :=
  Timestamp.exact.optional rfl (fun _ _ => trivial) given

theorem Decision.exact (origin : Origin) :
    Exact (Decision.decode? origin) Decision.encode fun _ => True :=
  exact_word origin Decision.ofName?_name

theorem ToolState.exact (origin : Origin) :
    Exact (ToolState.decode? origin) ToolState.encode fun _ => True :=
  exact_word origin ToolState.ofName?_name

/-! ## Uses, permissions and results -/

/-- A tool use as it can be read. -/
def ToolUse.Proper (toolUse : ToolUse) : Prop := toolUse.input.IsNormal

theorem ToolUse.exact : Exact ToolUse.decode? ToolUse.encode ToolUse.Proper := by
  refine .record (by decide) (fun _ => by simp [Aligned, ToolUse.fields, ToolUse.members]) ?_ ?_
  · rintro ⟨toolId, name, input⟩ view proper ⟨givenToolId, givenName, givenInput, -⟩
    simp [exact_string.required trivial givenToolId, exact_string.required trivial givenName,
      exact_freeValue.orElse proper givenInput]
  · intro view toolUse got
    simp only [Option.bind_eq_bind, Option.bind_eq_some_iff, Option.pure_def,
      Option.some.injEq] at got
    obtain ⟨_, -, _, -, input, gotInput, rfl⟩ := got
    exact exact_freeValue.proper_of_orElse Json.isNormal_null gotInput

/-- A tool result as it can be read. -/
def ToolResult.Proper (result : ToolResult) : Prop := result.content.IsNormal

theorem ToolResult.exact : Exact ToolResult.decode? ToolResult.encode ToolResult.Proper := by
  refine .record (by decide) (fun _ => by simp [Aligned, ToolResult.fields, ToolResult.members])
    ?_ ?_
  · rintro ⟨toolId, content, isError⟩ view proper ⟨givenToolId, givenContent, givenIsError, -⟩
    simp [exact_string.required trivial givenToolId, exact_freeValue.orElse proper givenContent,
      exact_bool.orElse trivial givenIsError]
  · intro view result got
    simp only [Option.bind_eq_bind, Option.bind_eq_some_iff, Option.pure_def,
      Option.some.injEq] at got
    obtain ⟨_, -, content, gotContent, _, -, rfl⟩ := got
    exact exact_freeValue.proper_of_orElse Json.isNormal_null gotContent

/-- A permission request as it can be read. -/
structure PermissionRequest.Proper (request : PermissionRequest) : Prop where
  input : request.input.IsNormal
  suggestions : ∀ suggestion ∈ request.suggestions, suggestion.IsNormal

theorem PermissionRequest.exact :
    Exact PermissionRequest.decode? PermissionRequest.encode PermissionRequest.Proper := by
  refine .record (by decide) (fun _ => by simp [Aligned, PermissionRequest.fields]) ?_ ?_
  · rintro ⟨requestId, toolName, input, toolId, suggestions⟩ view proper
      ⟨givenRequestId, givenToolName, givenInput, givenToolId, givenSuggestions, -⟩
    simp [exact_string.required trivial givenRequestId,
      exact_string.required trivial givenToolName,
      exact_freeValue.orElse proper.input givenInput, optional_string givenToolId,
      exact_freeValue.filled proper.suggestions givenSuggestions]
  · intro view request got
    simp only [Option.bind_eq_bind, Option.bind_eq_some_iff, Option.pure_def,
      Option.some.injEq] at got
    obtain ⟨_, -, _, -, input, gotInput, _, -, suggestions, gotSuggestions, rfl⟩ := got
    exact ⟨exact_freeValue.proper_of_orElse Json.isNormal_null gotInput,
      exact_freeValue.proper_of_filled gotSuggestions⟩

/-- A permission response as it can be read. -/
def PermissionResponse.Proper (response : PermissionResponse) : Prop :=
  ∀ update ∈ response.appliedUpdates, update.IsNormal

theorem PermissionResponse.exact (origin : Origin) :
    Exact (PermissionResponse.decode? origin) PermissionResponse.encode
      PermissionResponse.Proper := by
  refine .record (by decide) (fun _ => by simp [Aligned, PermissionResponse.fields]) ?_ ?_
  · rintro ⟨requestId, decision, reasoning, toolId, clarification, updates⟩ view proper
      ⟨givenRequestId, givenDecision, givenReasoning, givenToolId, givenClarification,
        givenUpdates, -⟩
    simp [exact_string.required trivial givenRequestId,
      (Decision.exact origin).required trivial givenDecision, optional_string givenReasoning,
      optional_string givenToolId, optional_string givenClarification,
      exact_freeValue.filled proper givenUpdates]
  · intro view response got
    simp only [Option.bind_eq_bind, Option.bind_eq_some_iff, Option.pure_def,
      Option.some.injEq] at got
    obtain ⟨_, -, _, -, _, -, _, -, _, -, updates, gotUpdates, rfl⟩ := got
    exact exact_freeValue.proper_of_filled gotUpdates

/-! ## Events with the whole state -/

/-- The permission part of a tool event as it can be read. -/
def ToolPermission.Proper (permission : ToolPermission) : Prop :=
  ∀ suggestion ∈ permission.suggestions, suggestion.IsNormal

theorem ToolPermission.exact (origin : Origin) :
    Exact (ToolPermission.decode? origin) ToolPermission.encode ToolPermission.Proper := by
  refine .record (by decide) (fun _ => by simp [Aligned, ToolPermission.fields]) ?_ ?_
  · rintro ⟨requestId, decision, suggestions, reasoning⟩ view proper
      ⟨givenRequestId, givenDecision, givenSuggestions, givenReasoning, -⟩
    simp [exact_string.required trivial givenRequestId,
      (Decision.exact origin).optional rfl (fun _ _ => trivial) givenDecision,
      exact_freeValue.filled proper givenSuggestions, optional_string givenReasoning]
  · intro view permission got
    simp only [Option.bind_eq_bind, Option.bind_eq_some_iff, Option.pure_def,
      Option.some.injEq] at got
    obtain ⟨_, -, _, -, suggestions, gotSuggestions, _, -, rfl⟩ := got
    exact exact_freeValue.proper_of_filled gotSuggestions

/-- What a tool has returned as it can be read. -/
def ToolOutcome.Proper (outcome : ToolOutcome) : Prop := outcome.content.IsNormal

theorem ToolOutcome.exact : Exact ToolOutcome.decode? ToolOutcome.encode ToolOutcome.Proper := by
  refine .record (by decide) (fun _ => by simp [Aligned, ToolOutcome.fields]) ?_ ?_
  · rintro ⟨content, isError⟩ view proper ⟨givenContent, givenIsError, -⟩
    simp [exact_freeValue.orElse proper givenContent, exact_bool.orElse trivial givenIsError]
  · intro view outcome got
    simp only [Option.bind_eq_bind, Option.bind_eq_some_iff, Option.pure_def,
      Option.some.injEq] at got
    obtain ⟨content, gotContent, _, -, rfl⟩ := got
    exact exact_freeValue.proper_of_orElse Json.isNormal_null gotContent

/-- A tool event as it can be read. -/
structure ToolEvent.Proper (event : ToolEvent) : Prop where
  input : event.input.IsNormal
  permission : ∀ permission ∈ event.permission, permission.Proper
  outcome : ∀ outcome ∈ event.outcome, outcome.Proper

theorem ToolEvent.exact (origin : Origin) :
    Exact (ToolEvent.decode? origin) ToolEvent.encode ToolEvent.Proper := by
  refine .record (by decide) (fun _ => by simp [Aligned, ToolEvent.fields]) ?_ ?_
  · rintro ⟨toolId, sessionId, toolName, input, state, permission, outcome, timestamp⟩ view proper
      ⟨givenToolId, givenSessionId, givenToolName, givenInput, givenState, givenPermission,
        givenOutcome, givenTimestamp, -⟩
    simp [exact_string.required trivial givenToolId, optional_string givenSessionId,
      exact_string.required trivial givenToolName, exact_freeValue.orElse proper.input givenInput,
      (ToolState.exact origin).required trivial givenState,
      (ToolPermission.exact origin).optional rfl proper.permission givenPermission,
      ToolOutcome.exact.optional rfl proper.outcome givenOutcome,
      optional_timestamp givenTimestamp]
  · intro view event got
    simp only [Option.bind_eq_bind, Option.bind_eq_some_iff, Option.pure_def,
      Option.some.injEq] at got
    obtain ⟨_, -, _, -, _, -, input, gotInput, _, -, permission, gotPermission, outcome,
      gotOutcome, _, -, rfl⟩ := got
    exact ⟨exact_freeValue.proper_of_orElse Json.isNormal_null gotInput,
      (ToolPermission.exact origin).proper_of_optional gotPermission,
      ToolOutcome.exact.proper_of_optional gotOutcome⟩

/-! ## The display block -/

theorem DisplayedTool.exact (origin : Origin) :
    Exact (DisplayedTool.decode? origin) DisplayedTool.encode fun _ => True := by
  refine .record (by decide) (fun _ => by simp [Aligned, DisplayedTool.fields]) ?_
    fun _ => trivial
  rintro ⟨state, toolName, requestId⟩ view - ⟨givenState, givenToolName, givenRequestId, -⟩
  simp [(ToolState.exact origin).required trivial givenState, optional_string givenToolName,
    optional_string givenRequestId]

theorem OrphanNotice.exact : Exact OrphanNotice.decode? OrphanNotice.encode fun _ => True := by
  refine .record (by decide) (fun _ => by simp [Aligned, OrphanNotice.fields]) ?_ fun _ => trivial
  rintro ⟨toolId, reason, message⟩ view - ⟨givenToolId, givenReason, givenMessage, -⟩
  simp [exact_string.required trivial givenToolId, exact_string.required trivial givenReason,
    optional_string givenMessage]

/-- A display block as it can be read: a reading walks the tools in the order of their ids. -/
def Display.Proper (display : Display) : Prop := ∀ tools ∈ display.tools, KeyOrdered tools.entries

theorem Display.exact (origin : Origin) :
    Exact (Display.decode? origin) Display.encode Display.Proper := by
  refine .record (by decide) (fun _ => by simp [Aligned, Display.fields]) ?_ ?_
  · rintro ⟨tools, orphans, links⟩ view proper ⟨givenTools, givenOrphans, givenLinks, -⟩
    have ordered : ∀ walked ∈ tools, KeyOrdered walked.entries ∧ ∀ entry ∈ walked.entries, True :=
      fun walked held => ⟨proper walked held, fun _ _ => trivial⟩
    simp [(DisplayedTool.exact origin).map.optional rfl ordered givenTools,
      OrphanNotice.exact.list.optional rfl (fun _ _ _ _ => trivial) givenOrphans,
      exact_string.table.optional rfl (fun _ _ _ _ => trivial) givenLinks]
  · intro view display got
    simp only [Option.bind_eq_bind, Option.bind_eq_some_iff, Option.pure_def,
      Option.some.injEq] at got
    obtain ⟨tools, gotTools, _, -, _, -, rfl⟩ := got
    intro walked held
    exact ((DisplayedTool.exact origin).map.proper_of_optional gotTools walked held).1

/-- A display block that walks its tools in the order of their ids. -/
def Display.inKeyOrder (display : Display) : Display :=
  { display with tools := display.tools.map fun tools => WalkedMap.ofTable tools.toTable }

theorem Display.encode_inKeyOrder (display : Display) :
    display.inKeyOrder.encode = display.encode := by
  obtain ⟨tools, orphans, links⟩ := display
  cases tools with
  | none => rfl
  | some tools => simp [inKeyOrder, encode, whenSome, encodeMap]

/-- **Every display block is read from what it is written as**, but for the order in which it
walks its tools. -/
theorem Display.decode?_encode (origin : Origin) (display : Display) :
    Display.decode? origin display.encode = some display.inKeyOrder := by
  have ordered : display.inKeyOrder.Proper := by
    intro walked held
    obtain ⟨tools, -, rfl⟩ := Option.map_eq_some_iff.1 held
    exact tools.toTable.ordered
  rw [← display.encode_inKeyOrder]
  exact (Display.exact origin).reads ordered

end SessionSync
