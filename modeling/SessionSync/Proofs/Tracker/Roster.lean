import SessionSync.Proofs.Sorting
import SessionSync.Proofs.Tracker.Displays
import SessionSync.Proofs.Tracker.Events

/-!
# Which calls there are, and in what order

A call is created when its tool use is first sighted, and from then on its id, its session
and its rank stay as they are.  So the calls of a tracker, and their ranks, follow from the
tool uses that its run has sighted (`Tracker.seenIn`) and from nothing else: the calls in
their order are the distinct tool uses in the order of their first sight
(`Roster.inOrder_toolId`), and their ranks count from zero without a gap
(`Roster.inOrder_seq`).

Every handler is one sight or none, together with steps that keep the roster as it is.
-/

set_option autoImplicit false

namespace SessionSync

/-- What nothing changes about a call: its tool use, its session and its rank. -/
def ToolCall.identity (call : ToolCall) : String × String × Nat :=
  (call.toolId, call.sessionId, call.seq)

namespace Tracker

/-- The identity of the call of a tool use. -/
def identity? (tracker : Tracker) (toolId : String) : Option (String × String × Nat) :=
  (tracker.call? toolId).map ToolCall.identity

/-- The tool uses that a change sights, in its order; those without a call get one. -/
def sightings (tracker : Tracker) : TrackerChange → List String
  | .toolUse toolUse => [toolUse.toolId]
  | .permissionRequest request => (tracker.requestTarget? request).toList
  | .toolResult result => [result.toolId]
  | .toolEvent event => [event.toolId]
  | .displayStates display => display.shown.map Prod.fst
  | _ => []

/-- The tool uses that a run sights, in its order. -/
def seenIn (tracker : Tracker) : List TrackerChange → List String
  | [] => []
  | change :: rest => tracker.sightings change ++ (tracker.after change).seenIn rest

/-! ## What a change assigns keeps the identity of a call -/

section Identities

variable (call : ToolCall)

theorem identity_askFor (request : PermissionRequest) :
    (askFor request call).identity = call.identity := by
  obtain ⟨_, _, _, asked⟩ := askFor_eq request call
  rw [asked]
  rfl

theorem identity_answerWith (response : PermissionResponse) :
    (answerWith response call).identity = call.identity := by
  obtain ⟨_, _, _, answered⟩ := answerWith_eq response call
  rw [answered]
  rfl

theorem identity_assignEvent (event : ToolEvent) :
    (assignEvent event call).identity = call.identity := by
  rw [assignEvent_eq]
  rfl

theorem identity_ruleOn (verdict : Option Orphan) (known : Bool) :
    (ruleOn verdict known call).identity = call.identity := by
  obtain ⟨_, _, _, ruled⟩ := ruleOn_eq verdict known call
  rw [ruled]
  rfl

end Identities

/-! ## Steps that keep the roster -/

/-- A step has created no call and changed no identity. -/
structure SameRoster (before after : Tracker) : Prop where
  session : after.sessionId = before.sessionId
  counted : after.nextSeq = before.nextSeq
  identities : ∀ toolId, after.identity? toolId = before.identity? toolId

theorem SameRoster.trans {first second third : Tracker} (earlier : SameRoster first second)
    (later : SameRoster second third) : SameRoster first third :=
  ⟨later.session.trans earlier.session, later.counted.trans earlier.counted,
    fun toolId => (later.identities toolId).trans (earlier.identities toolId)⟩

section Kept

variable (tracker : Tracker)

theorem sameRoster_modify (toolId : String) {change : ToolCall → ToolCall}
    (keeps : ∀ call, (change call).identity = call.identity) :
    SameRoster tracker (tracker.modify toolId change) :=
  ⟨rfl, rfl, fun probe => tracker.map_call?_modify toolId probe ToolCall.identity keeps⟩

theorem sameRoster_reindex (toolId before after : String) :
    SameRoster tracker (tracker.reindex toolId before after) := by
  obtain ⟨signatures, same⟩ := tracker.reindex_eq toolId before after
  rw [same]
  exact ⟨rfl, rfl, fun _ => rfl⟩

theorem sameRoster_markOrphaned (toolId reason : String) (message : Option String) :
    SameRoster tracker (tracker.markOrphaned toolId reason message) := by
  have keeps : ∀ call, (orphanCall reason call).identity = call.identity := fun _ => rfl
  have marked := tracker.sameRoster_modify toolId keeps
  exact ⟨marked.session, marked.counted, marked.identities⟩

theorem sameRoster_foldl {α : Type} {step : Tracker → α → Tracker}
    (keeps : ∀ tracker item, SameRoster tracker (step tracker item)) (items : List α) :
    SameRoster tracker (items.foldl step tracker) :=
  List.foldlRecOn items step ⟨rfl, rfl, fun _ => rfl⟩ fun before same item _ =>
    same.trans (keeps before item)

theorem sameRoster_replaceOrphans (notices : List OrphanNotice) :
    SameRoster tracker (tracker.replaceOrphans notices) := by
  refine ⟨by simp, by simp, fun toolId => ?_⟩
  unfold identity?
  rw [call?_replaceOrphans, Option.map_map]
  congr 1
  funext call
  exact identity_ruleOn call _ _

theorem sameRoster_onPermissionResponse (response : PermissionResponse) :
    SameRoster tracker (tracker.onPermissionResponse response).1 := by
  unfold onPermissionResponse
  cases response.toolId.or (tracker.requested? response.requestId) with
  | none => exact ⟨rfl, rfl, fun _ => rfl⟩
  | some toolId =>
      have linked : SameRoster tracker (tracker.link response.requestId toolId) :=
        ⟨rfl, rfl, fun _ => rfl⟩
      have answered := linked.trans (sameRoster_modify _ toolId
        fun call => identity_answerWith call response)
      dsimp only
      cases (tracker.link response.requestId toolId).call? toolId with
      | none => exact linked
      | some call =>
          dsimp only
          split
          · exact ⟨answered.session, answered.counted, answered.identities⟩
          · exact answered

end Kept

/-! ## Steps that sight a tool use -/

/-- A step has created the call of a tool use, unless there was one, and no other. -/
structure Sighted (toolId : String) (before after : Tracker) : Prop where
  session : after.sessionId = before.sessionId
  counted : after.nextSeq = before.nextSeq + if (before.call? toolId).isSome then 0 else 1
  here : after.identity? toolId =
    some ((before.identity? toolId).getD (toolId, before.sessionId, before.nextSeq))
  elsewhere : ∀ probe, probe ≠ toolId → after.identity? probe = before.identity? probe

namespace Sighted

variable {toolId : String} {before middle after : Tracker}

theorem kept (sighted : Sighted toolId before middle) (same : SameRoster middle after) :
    Sighted toolId before after :=
  ⟨same.session.trans sighted.session, same.counted.trans sighted.counted,
    (same.identities toolId).trans sighted.here,
    fun probe other => (same.identities probe).trans (sighted.elsewhere probe other)⟩

/-- A tool use with a call can be sighted without a step. -/
theorem of_known {call : ToolCall} (known : before.call? toolId = some call)
    (same : SameRoster before after) : Sighted toolId before after := by
  refine ⟨same.session, ?_, ?_, fun probe _ => same.identities probe⟩
  · rw [known]
    exact same.counted
  · have held : before.identity? toolId = some call.identity := congrArg _ known
    rw [same.identities, held]
    rfl

end Sighted

section Sights

variable (tracker : Tracker)

theorem sighted_ensure (toolId toolName : String) (input : Json) :
    Sighted toolId tracker (tracker.ensure toolId toolName input) := by
  obtain ⟨signatures, calls, unfinished, same⟩ := tracker.ensure_eq toolId toolName input
  refine ⟨by rw [same], by rw [same], ?_, fun probe other => ?_⟩
  · unfold identity?
    rw [call?_ensure, if_pos rfl]
    cases tracker.call? toolId <;> rfl
  · unfold identity?
    rw [call?_ensure, if_neg other]

theorem sighted_onToolUse (toolUse : ToolUse) :
    Sighted toolUse.toolId tracker (tracker.onToolUse toolUse) := by
  unfold onToolUse
  cases held : tracker.call? toolUse.toolId with
  | none => exact tracker.sighted_ensure _ _ _
  | some call =>
      refine Sighted.of_known held ?_
      dsimp only
      split
      · exact ⟨rfl, rfl, fun _ => rfl⟩
      · exact (tracker.sameRoster_reindex _ _ _).trans (sameRoster_modify _ _ fun _ => rfl)

theorem sighted_onPermissionRequest {request : PermissionRequest} {toolId : String}
    (target : tracker.requestTarget? request = some toolId) :
    Sighted toolId tracker (tracker.onPermissionRequest request).1 := by
  unfold onPermissionRequest
  rw [target]
  -- Nothing here depends on the links.
  have ensured := (tracker.link request.requestId toolId).sighted_ensure toolId request.toolName
    request.input
  have first : Sighted toolId tracker ((tracker.link request.requestId toolId).ensure toolId
      request.toolName request.input) :=
    ⟨ensured.session, ensured.counted, ensured.here, ensured.elsewhere⟩
  exact first.kept (sameRoster_modify _ _ fun call => identity_askFor call request)

theorem sighted_onToolResult (result : ToolResult) :
    Sighted result.toolId tracker (tracker.onToolResult result) := by
  have keeps : ∀ call, (finishWith result call).identity = call.identity := fun _ => rfl
  have finished := (tracker.sighted_ensure result.toolId "" .null).kept
    (sameRoster_modify _ result.toolId keeps)
  exact ⟨finished.session, finished.counted, finished.here, finished.elsewhere⟩

theorem sighted_onToolEvent (event : ToolEvent) :
    Sighted event.toolId tracker (tracker.onToolEvent event) := by
  obtain ⟨_, _, _, _, same⟩ := tracker.onToolEvent_eq event
  refine ⟨by rw [same], by rw [same], ?_, fun probe other => ?_⟩
  · unfold identity?
    rw [call?_onToolEvent, Option.map_some, identity_assignEvent]
    unfold callOrStart
    cases tracker.call? event.toolId <;> rfl
  · exact congrArg _ (tracker.sameAt_onToolEvent other).call

theorem sighted_applyDisplayedTool (toolId : String) (tool : DisplayedTool) :
    Sighted toolId tracker (tracker.applyDisplayedTool toolId tool) := by
  unfold applyDisplayedTool
  extract_lets status ensured assigned counted
  have first : Sighted toolId tracker assigned :=
    (tracker.sighted_ensure toolId _ _).kept (sameRoster_modify _ _ fun _ => rfl)
  have second : Sighted toolId tracker counted := by
    unfold counted
    split
    · exact ⟨first.session, first.counted, first.here, first.elsewhere⟩
    · exact ⟨first.session, first.counted, first.here, first.elsewhere⟩
  split
  · exact ⟨second.session, second.counted, second.here, second.elsewhere⟩
  · exact second

end Sights

/-! ## The roster of a run -/

/-- The calls are those of the tool uses that were seen, ranked by their first sight. -/
structure Roster (sessionId : String) (seen : List String) (tracker : Tracker) : Prop where
  session : tracker.sessionId = sessionId
  counted : tracker.nextSeq = seen.eraseDups.length
  identities : ∀ toolId, tracker.identity? toolId =
    if toolId ∈ seen then some (toolId, sessionId, seen.eraseDups.idxOf toolId) else none

namespace Roster

variable {sessionId : String} {seen : List String} {tracker after : Tracker}

theorem kept (roster : Roster sessionId seen tracker) (same : SameRoster tracker after) :
    Roster sessionId seen after :=
  ⟨same.session.trans roster.session, same.counted.trans roster.counted,
    fun toolId => (same.identities toolId).trans (roster.identities toolId)⟩

theorem isSome_call?_iff (roster : Roster sessionId seen tracker) (toolId : String) :
    (tracker.call? toolId).isSome = true ↔ toolId ∈ seen := by
  have known : (tracker.identity? toolId).isSome = (tracker.call? toolId).isSome := by
    unfold identity?
    rw [Option.isSome_map]
  rw [← known, roster.identities]
  split <;> simp_all

/-- One sight more: a tool use that is new gets the next rank. -/
theorem sighted {toolId : String} (roster : Roster sessionId seen tracker)
    (sight : Sighted toolId tracker after) : Roster sessionId (seen ++ [toolId]) after := by
  refine ⟨sight.session.trans roster.session, ?counted, fun probe => ?identities⟩
  case counted =>
    rw [sight.counted, roster.counted, eraseDups_concat]
    by_cases known : toolId ∈ seen
    · rw [if_pos ((roster.isSome_call?_iff toolId).2 known), if_pos known]
      rfl
    · have fresh : ¬ (tracker.call? toolId).isSome = true :=
        fun held => known ((roster.isSome_call?_iff toolId).1 held)
      rw [if_neg fresh, if_neg known, List.length_append, List.length_singleton]
  case identities =>
    by_cases here : probe = toolId
    · subst here
      rw [sight.here, roster.identities, if_pos (List.mem_append_right _ List.mem_cons_self)]
      by_cases known : probe ∈ seen
      · rw [if_pos known, idxOf_eraseDups_append known]
        rfl
      · rw [if_neg known, idxOf_eraseDups_concat_self known, roster.session, roster.counted]
        rfl
    · rw [sight.elsewhere probe here, roster.identities]
      by_cases known : probe ∈ seen
      · rw [if_pos known, if_pos (List.mem_append_left _ known), idxOf_eraseDups_append known]
      · rw [if_neg known, if_neg (by simp [known, here])]

/-- The states of a display block are sights one after another. -/
theorem applyShown (roster : Roster sessionId seen tracker)
    (entries : List (String × DisplayedTool)) :
    Roster sessionId (seen ++ entries.map Prod.fst) (tracker.applyShown entries) := by
  induction entries generalizing seen tracker with
  | nil =>
      rw [List.map_nil, List.append_nil]
      exact roster
  | cons entry rest ih =>
      rw [List.map_cons, List.append_cons]
      exact ih (roster.sighted (tracker.sighted_applyDisplayedTool entry.1 entry.2))

/-- **One change** sights what it sights, and keeps the roster in all else. -/
theorem step (roster : Roster sessionId seen tracker) (change : TrackerChange) :
    Roster sessionId (seen ++ tracker.sightings change) (tracker.after change) := by
  have unsighted : ∀ {after : Tracker}, SameRoster tracker after →
      Roster sessionId (seen ++ []) after := by
    intro after same
    rw [List.append_nil]
    exact roster.kept same
  cases change with
  | toolUse toolUse => exact roster.sighted (tracker.sighted_onToolUse toolUse)
  | permissionRequest request =>
      cases target : tracker.requestTarget? request with
      | none =>
          have unattached : (tracker.onPermissionRequest request).1 = tracker := by
            unfold onPermissionRequest
            rw [target]
          simp only [sightings, after, target, unattached]
          exact unsighted ⟨rfl, rfl, fun _ => rfl⟩
      | some toolId =>
          simp only [sightings, after, target]
          exact roster.sighted (tracker.sighted_onPermissionRequest target)
  | permissionResponse response =>
      exact unsighted (tracker.sameRoster_onPermissionResponse response)
  | toolResult result => exact roster.sighted (tracker.sighted_onToolResult result)
  | toolEvent event => exact roster.sighted (tracker.sighted_onToolEvent event)
  | displayLinks display =>
      refine unsighted ?_
      simp only [after, applyDisplayLinks]
      split
      · exact ⟨rfl, rfl, fun _ => rfl⟩
      · refine tracker.sameRoster_foldl (fun tracker entry => ?_) _
        exact ⟨rfl, rfl, fun _ => rfl⟩
  | displayStates display =>
      have told := roster.applyShown display.shown
      simp only [sightings, after, applyDisplayStates_eq, applyDisplayedTools_eq]
      cases display.orphans with
      | none => exact told
      | some notices => exact told.kept (sameRoster_replaceOrphans _ notices)
  | markOrphaned toolId reason message =>
      exact unsighted (tracker.sameRoster_markOrphaned toolId reason message)
  | orphanUnfinished reason =>
      exact unsighted (tracker.sameRoster_foldl
        (fun tracker toolId => tracker.sameRoster_markOrphaned toolId reason none) _)
  | recount => exact unsighted ⟨rfl, rfl, fun _ => rfl⟩
  | toggle toolId =>
      refine unsighted ?_
      simp only [after, toggleExpanded]
      split
      · exact ⟨rfl, rfl, fun _ => rfl⟩
      · exact tracker.sameRoster_modify toolId fun _ => rfl

theorem run (roster : Roster sessionId seen tracker) (changes : List TrackerChange) :
    Roster sessionId (seen ++ tracker.seenIn changes) (tracker.run changes) := by
  induction changes generalizing seen tracker with
  | nil =>
      rw [seenIn, List.append_nil]
      exact roster
  | cons change rest ih =>
      rw [seenIn, ← List.append_assoc, run_cons]
      exact ih (roster.step change)

/-! ## What the roster says about calls -/

variable (roster : Roster sessionId seen tracker)
include roster

theorem identity_of_call {toolId : String} {call : ToolCall}
    (held : tracker.call? toolId = some call) :
    toolId ∈ seen ∧ call.toolId = toolId ∧ call.sessionId = sessionId ∧
      call.seq = seen.eraseDups.idxOf toolId := by
  have known : toolId ∈ seen := (roster.isSome_call?_iff toolId).1 (by rw [held]; rfl)
  have same : some call.identity =
      some (toolId, sessionId, seen.eraseDups.idxOf toolId) := by
    have told := roster.identities toolId
    rw [if_pos known] at told
    unfold identity? at told
    rwa [held] at told
  simpa [ToolCall.identity, known] using same

theorem of_mem_values {call : ToolCall} (member : call ∈ tracker.calls.values) :
    tracker.call? call.toolId = some call := by
  obtain ⟨⟨toolId, held⟩, entry, rfl⟩ := List.mem_map.1 member
  have found : tracker.call? toolId = some held := Table.mem_entries_iff.1 entry
  rw [(roster.identity_of_call found).2.1]
  exact found

theorem values_toolId : tracker.calls.values.map ToolCall.toolId = tracker.calls.keys := by
  unfold Table.values Table.keys
  rw [List.map_map]
  apply List.map_congr_left
  rintro ⟨toolId, call⟩ member
  exact (roster.identity_of_call (Table.mem_entries_iff.1 member)).2.1

theorem keys_perm : tracker.calls.keys.Perm seen.eraseDups := by
  refine (List.perm_ext_iff_of_nodup tracker.calls.nodup_keys (nodup_eraseDups _)).2 ?_
  intro toolId
  rw [Table.mem_keys_iff, List.mem_eraseDups, ← roster.isSome_call?_iff toolId]
  rfl

theorem size_calls : seen.eraseDups.length = tracker.calls.size :=
  roster.keys_perm.length_eq.symm.trans (List.length_map _)

/-- The calls in their order are the tool uses in the order of their first sight. -/
theorem inOrder_toolId : tracker.inOrder.map ToolCall.toolId = seen.eraseDups := by
  have sorted : tracker.inOrder.Perm tracker.calls.values := sortByKey_perm _ _
  have rank : ∀ call ∈ tracker.inOrder, call.seq = seen.eraseDups.idxOf call.toolId :=
    fun call member =>
      (roster.identity_of_call (roster.of_mem_values (sorted.mem_iff.1 member))).2.2.2
  have ascending : (tracker.inOrder.map ToolCall.toolId).Pairwise fun left right =>
      seen.eraseDups.idxOf left ≤ seen.eraseDups.idxOf right := by
    rw [List.pairwise_map]
    have bySeq := ascending_sortByKey (fun call : ToolCall => (call.seq : Int))
      tracker.calls.values
    refine List.Pairwise.imp_of_mem ?_ bySeq
    intro left right first second before
    rw [← rank left first, ← rank right second]
    exact Int.ofNat_le.1 before
  have distinct := (pairwise_idxOf (nodup_eraseDups seen)).imp fun before => Nat.le_of_lt before
  refine List.Perm.eq_of_pairwise ?_ ascending distinct
    ((sorted.map ToolCall.toolId).trans (roster.values_toolId ▸ roster.keys_perm))
  intro left right _ member below above
  exact ((List.idxOf_inj member).1 (Nat.le_antisymm above below)).symm

/-- The ranks count from zero without a gap. -/
theorem inOrder_seq : tracker.inOrder.map ToolCall.seq = List.range tracker.calls.size := by
  have sorted : tracker.inOrder.Perm tracker.calls.values := sortByKey_perm _ _
  have ranks : tracker.inOrder.map ToolCall.seq =
      (tracker.inOrder.map ToolCall.toolId).map seen.eraseDups.idxOf := by
    rw [List.map_map]
    apply List.map_congr_left
    intro call member
    exact (roster.identity_of_call (roster.of_mem_values (sorted.mem_iff.1 member))).2.2.2
  rw [ranks, roster.inOrder_toolId, map_idxOf_of_nodup (nodup_eraseDups seen), roster.size_calls]

end Roster

theorem roster_new (sessionId : String) : Roster sessionId [] (new sessionId) :=
  ⟨rfl, rfl, fun _ => rfl⟩

/-- The roster of a tracker that began empty. -/
theorem roster_run (sessionId : String) (changes : List TrackerChange) :
    Roster sessionId ((new sessionId).seenIn changes) ((new sessionId).run changes) :=
  (roster_new sessionId).run changes

end Tracker

end SessionSync
