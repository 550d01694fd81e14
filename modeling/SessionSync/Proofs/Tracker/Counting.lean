import SessionSync.Proofs.Log.Extraction
import SessionSync.Proofs.Tracker.Changes

/-!
# The count of unfinished tool uses has no part in reading

What a tracker counts as unfinished decides only which tool uses become orphans
when a session ends.  Trackers that differ in nothing else stay so under every
other change (`AlikeButCount.after`), and a new count makes no other difference
(`alikeButCount_recountUnfinished`).  So two ways to deliver messages that read the
same messages give the same calls, links and orphans, also if one of them counts
anew in between.
-/

set_option autoImplicit false

namespace SessionSync

/-- Whether a change looks at what is counted as unfinished. -/
def TrackerChange.looksAtCount : TrackerChange → Bool
  | .orphanUnfinished _ => true
  | _ => false

namespace Tracker

/-- Two trackers differ at most in what they count as unfinished. -/
def AlikeButCount (left right : Tracker) : Prop :=
  ∃ unfinished, right = { left with unfinished }

namespace AlikeButCount

variable {left right : Tracker}

theorem refl (tracker : Tracker) : AlikeButCount tracker tracker := ⟨tracker.unfinished, rfl⟩

theorem symm (same : AlikeButCount left right) : AlikeButCount right left := by
  obtain ⟨unfinished, rfl⟩ := same
  exact ⟨left.unfinished, rfl⟩

theorem trans {third : Tracker} (earlier : AlikeButCount left right)
    (later : AlikeButCount right third) : AlikeButCount left third := by
  obtain ⟨_, rfl⟩ := earlier
  obtain ⟨unfinished, rfl⟩ := later
  exact ⟨unfinished, rfl⟩

/-! ## What is alike -/

theorem calls (same : AlikeButCount left right) : left.calls = right.calls := by
  obtain ⟨_, rfl⟩ := same
  rfl

theorem links (same : AlikeButCount left right) : left.links = right.links := by
  obtain ⟨_, rfl⟩ := same
  rfl

theorem orphans (same : AlikeButCount left right) : left.orphans = right.orphans := by
  obtain ⟨_, rfl⟩ := same
  rfl

theorem call? (same : AlikeButCount left right) (toolId : String) :
    left.call? toolId = right.call? toolId :=
  congrArg (fun calls => Table.find? calls toolId) same.calls

theorem requested? (same : AlikeButCount left right) (requestId : String) :
    left.requested? requestId = right.requested? requestId :=
  congrArg (fun links => Table.find? links requestId) same.links

theorem requestTarget? (same : AlikeButCount left right) (request : PermissionRequest) :
    left.requestTarget? request = right.requestTarget? request := by
  obtain ⟨_, rfl⟩ := same
  rfl

/-! ## Elementary steps -/

section Steps

variable (same : AlikeButCount left right) (toolId : String)
include same

theorem modify (change : ToolCall → ToolCall) :
    AlikeButCount (left.modify toolId change) (right.modify toolId change) := by
  obtain ⟨unfinished, rfl⟩ := same
  exact ⟨unfinished, rfl⟩

theorem link (requestId : String) :
    AlikeButCount (left.link requestId toolId) (right.link requestId toolId) := by
  obtain ⟨unfinished, rfl⟩ := same
  exact ⟨unfinished, rfl⟩

theorem reopen : AlikeButCount (left.reopen toolId) (right.reopen toolId) := by
  obtain ⟨unfinished, rfl⟩ := same
  exact ⟨_, rfl⟩

theorem close : AlikeButCount (left.close toolId) (right.close toolId) := by
  obtain ⟨unfinished, rfl⟩ := same
  exact ⟨_, rfl⟩

theorem pardon :
    AlikeButCount { left with orphans := left.orphans.erase toolId }
      { right with orphans := right.orphans.erase toolId } := by
  obtain ⟨unfinished, rfl⟩ := same
  exact ⟨unfinished, rfl⟩

theorem indexSignature (signature : String) :
    AlikeButCount (left.indexSignature toolId signature)
      (right.indexSignature toolId signature) := by
  obtain ⟨unfinished, rfl⟩ := same
  refine ⟨unfinished, ?_⟩
  unfold Tracker.indexSignature
  dsimp only
  split
  · rfl
  · rfl

theorem unindexSignature (signature : String) :
    AlikeButCount (left.unindexSignature toolId signature)
      (right.unindexSignature toolId signature) := by
  obtain ⟨unfinished, rfl⟩ := same
  refine ⟨unfinished, ?_⟩
  unfold Tracker.unindexSignature
  dsimp only
  cases left.signatures.find? signature with
  | none => rfl
  | some ids =>
      dsimp only
      split
      · rfl
      · rfl

theorem reindex (before after : String) :
    AlikeButCount (left.reindex toolId before after) (right.reindex toolId before after) := by
  unfold Tracker.reindex
  split
  · exact same
  · exact (same.unindexSignature toolId before).indexSignature toolId after

theorem ensure (toolName : String) (input : Json) :
    AlikeButCount (left.ensure toolId toolName input) (right.ensure toolId toolName input) := by
  have indexed := same.indexSignature toolId (toolSignature toolName input)
  unfold Tracker.ensure
  rw [same.calls]
  split
  · exact same
  · obtain ⟨_, grown⟩ := indexed
    obtain ⟨_, rfl⟩ := same
    exact ⟨_, by rw [grown]⟩

theorem markOrphaned (reason : String) (message : Option String) :
    AlikeButCount (left.markOrphaned toolId reason message)
      (right.markOrphaned toolId reason message) := by
  obtain ⟨unfinished, rfl⟩ := same
  exact ⟨_, rfl⟩

omit toolId in
theorem forgetOrphans : AlikeButCount left.forgetOrphans right.forgetOrphans := by
  obtain ⟨unfinished, rfl⟩ := same
  exact ⟨unfinished, rfl⟩

end Steps

/-- Steps that keep trackers alike keep them alike one after another. -/
theorem foldl {α : Type} {step : Tracker → α → Tracker}
    (keeps : ∀ {left right : Tracker}, AlikeButCount left right → ∀ item,
      AlikeButCount (step left item) (step right item))
    (same : AlikeButCount left right) (items : List α) :
    AlikeButCount (items.foldl step left) (items.foldl step right) := by
  induction items generalizing left right with
  | nil => exact same
  | cons item rest ih => exact ih (keeps same item)

/-! ## What messages do -/

section Reading

variable (same : AlikeButCount left right)
include same

theorem onToolUse (toolUse : ToolUse) :
    AlikeButCount (left.onToolUse toolUse) (right.onToolUse toolUse) := by
  unfold Tracker.onToolUse
  rw [same.call?]
  cases right.call? toolUse.toolId with
  | none => exact same.ensure _ _ _
  | some call =>
      dsimp only
      split
      · exact same
      · exact (same.reindex _ _ _).modify _ _

theorem onPermissionRequest (request : PermissionRequest) :
    AlikeButCount (left.onPermissionRequest request).1 (right.onPermissionRequest request).1 := by
  unfold Tracker.onPermissionRequest
  rw [same.requestTarget?]
  cases right.requestTarget? request with
  | none => exact same
  | some toolId => exact ((same.link _ _).ensure _ _ _).modify _ _

theorem onPermissionResponse (response : PermissionResponse) :
    AlikeButCount (left.onPermissionResponse response).1
      (right.onPermissionResponse response).1 := by
  unfold Tracker.onPermissionResponse
  rw [same.requested?]
  cases response.toolId.or (right.requested? response.requestId) with
  | none => exact same
  | some toolId =>
      have linked := same.link toolId response.requestId
      dsimp only
      rw [linked.call?]
      cases (right.link response.requestId toolId).call? toolId with
      | none => exact linked
      | some call =>
          dsimp only
          split
          · exact (linked.modify _ _).close _
          · exact linked.modify _ _

theorem onToolResult (result : ToolResult) :
    AlikeButCount (left.onToolResult result) (right.onToolResult result) :=
  (((same.ensure _ _ _).modify _ _).pardon _).close _

theorem onToolEvent (event : ToolEvent) :
    AlikeButCount (left.onToolEvent event) (right.onToolEvent event) := by
  have assigned := (same.ensure event.toolId event.toolName event.input).modify event.toolId
    (assignEvent event)
  unfold Tracker.onToolEvent
  extract_lets leftEnsured leftAssigned leftLinked leftSettled leftIndexed rightEnsured
    rightAssigned rightLinked rightSettled rightIndexed
  have linked : AlikeButCount leftLinked rightLinked := by
    unfold leftLinked rightLinked
    cases event.permission with
    | none => exact assigned
    | some permission => exact assigned.link _ _
  have settled : AlikeButCount leftSettled rightSettled := by
    unfold leftSettled rightSettled
    split
    · exact linked.pardon _
    · exact linked
  have indexed : AlikeButCount leftIndexed rightIndexed := by
    unfold leftIndexed rightIndexed
    rw [same.call?, AlikeButCount.call? assigned]
    cases right.call? event.toolId with
    | none => exact settled
    | some before =>
        cases rightAssigned.call? event.toolId with
        | none => exact settled
        | some after => exact settled.reindex _ _ _
  split
  · exact indexed.close _
  · exact indexed.reopen _

theorem applyDisplayLinks (display : Display) :
    AlikeButCount (left.applyDisplayLinks display) (right.applyDisplayLinks display) := by
  unfold Tracker.applyDisplayLinks
  cases display.links with
  | none => exact same
  | some links => exact same.foldl (fun alike entry => alike.link entry.2 entry.1) links.entries

theorem applyDisplayedTool (toolId : String) (tool : DisplayedTool) :
    AlikeButCount (left.applyDisplayedTool toolId tool)
      (right.applyDisplayedTool toolId tool) := by
  unfold Tracker.applyDisplayedTool
  extract_lets status leftEnsured leftAssigned leftCounted rightEnsured rightAssigned rightCounted
  have counted : AlikeButCount leftCounted rightCounted := by
    have assigned : AlikeButCount leftAssigned rightAssigned := (same.ensure _ _ _).modify _ _
    unfold leftCounted rightCounted
    split
    · exact assigned.close _
    · exact assigned.reopen _
  cases tool.requestId with
  | none => exact counted
  | some requestId => exact counted.link _ _

theorem replaceOrphans (notices : List OrphanNotice) :
    AlikeButCount (left.replaceOrphans notices) (right.replaceOrphans notices) :=
  same.forgetOrphans.foldl (fun alike notice => alike.markOrphaned _ notice.reason notice.message)
    notices

theorem applyDisplayStates (display : Display) :
    AlikeButCount (left.applyDisplayStates display) (right.applyDisplayStates display) := by
  unfold Tracker.applyDisplayStates
  extract_lets leftTold rightTold
  have told : AlikeButCount leftTold rightTold := by
    unfold leftTold rightTold
    cases display.tools with
    | none => exact same
    | some tools =>
        exact same.foldl (fun alike entry => alike.applyDisplayedTool entry.1 entry.2)
          tools.entries
  cases display.orphans with
  | none => exact told
  | some notices => exact told.replaceOrphans notices

theorem toggleExpanded (toolId : String) :
    AlikeButCount (left.toggleExpanded toolId).1 (right.toggleExpanded toolId).1 := by
  unfold Tracker.toggleExpanded
  rw [same.call?]
  cases right.call? toolId with
  | none => exact same
  | some call => exact same.modify _ _

end Reading

end AlikeButCount

/-- A new count makes a difference to the count only. -/
theorem alikeButCount_recountUnfinished (tracker : Tracker) :
    AlikeButCount tracker tracker.recountUnfinished := ⟨_, rfl⟩

/-! ## Runs -/

/-- **A change that does not look at the count keeps trackers alike.** -/
theorem AlikeButCount.after {left right : Tracker} (same : AlikeButCount left right)
    {change : TrackerChange} (blind : change.looksAtCount = false) :
    AlikeButCount (left.after change) (right.after change) := by
  cases change with
  | toolUse toolUse => exact same.onToolUse toolUse
  | permissionRequest request => exact same.onPermissionRequest request
  | permissionResponse response => exact same.onPermissionResponse response
  | toolResult result => exact same.onToolResult result
  | toolEvent event => exact same.onToolEvent event
  | displayLinks display => exact same.applyDisplayLinks display
  | displayStates display => exact same.applyDisplayStates display
  | markOrphaned toolId reason message => exact same.markOrphaned toolId reason message
  | orphanUnfinished reason => cases blind
  | recount =>
      exact (alikeButCount_recountUnfinished left).symm.trans
        (same.trans (alikeButCount_recountUnfinished right))
  | toggle toolId => exact same.toggleExpanded toolId

theorem AlikeButCount.run {left right : Tracker} (same : AlikeButCount left right)
    {changes : List TrackerChange} (blind : ∀ change ∈ changes, change.looksAtCount = false) :
    AlikeButCount (left.run changes) (right.run changes) := by
  induction changes generalizing left right with
  | nil => exact same
  | cons change rest ih =>
      exact ih (same.after (blind change List.mem_cons_self)) fun next member =>
        blind next (List.mem_cons_of_mem _ member)

end Tracker

/-- What messages say never looks at the count. -/
theorem Message.looksAtCount_changes {message : Message} {change : TrackerChange}
    (member : change ∈ message.changes) : change.looksAtCount = false := by
  have read := Message.isRead_changes member
  cases change with
  | orphanUnfinished reason => cases read
  | _ => rfl

end SessionSync
