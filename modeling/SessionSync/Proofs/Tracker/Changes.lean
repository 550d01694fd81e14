import SessionSync.Proofs.Table
import SessionSync.Tool.Tracker

/-!
# Runs of a tracker

Everything that can happen to the tool calls of a session is one of eleven
changes.  A run is a list of them.

The laws below say what each elementary step of a tracker leaves of a call, of
an orphan, of the links and of the set of unfinished tool uses.  Statements about runs are
proved from them, one change at a time, and do not open the steps again.
-/

set_option autoImplicit false

namespace SessionSync

/-- Something that happens to the tool calls of a session. -/
inductive TrackerChange where
  | toolUse (toolUse : ToolUse)
  | permissionRequest (request : PermissionRequest)
  | permissionResponse (response : PermissionResponse)
  | toolResult (result : ToolResult)
  | toolEvent (event : ToolEvent)
  | displayLinks (display : Display)
  | displayStates (display : Display)
  | markOrphaned (toolId reason : String) (message : Option String)
  | orphanUnfinished (reason : String)
  | recount
  | toggle (toolId : String)

namespace Tracker

/-- The tracker after a change. -/
def after (tracker : Tracker) : TrackerChange → Tracker
  | .toolUse toolUse => tracker.onToolUse toolUse
  | .permissionRequest request => (tracker.onPermissionRequest request).1
  | .permissionResponse response => (tracker.onPermissionResponse response).1
  | .toolResult result => tracker.onToolResult result
  | .toolEvent event => tracker.onToolEvent event
  | .displayLinks display => tracker.applyDisplayLinks display
  | .displayStates display => tracker.applyDisplayStates display
  | .markOrphaned toolId reason message => tracker.markOrphaned toolId reason message
  | .orphanUnfinished reason => (tracker.orphanUnfinished reason).1
  | .recount => tracker.recountUnfinished
  | .toggle toolId => (tracker.toggleExpanded toolId).1

/-- The tracker after a run of changes. -/
def run (tracker : Tracker) (changes : List TrackerChange) : Tracker := changes.foldl after tracker

@[simp] theorem run_nil (tracker : Tracker) : tracker.run [] = tracker := rfl

@[simp] theorem run_cons (tracker : Tracker) (change : TrackerChange)
    (changes : List TrackerChange) :
    tracker.run (change :: changes) = (tracker.after change).run changes := rfl

theorem run_append (tracker : Tracker) (earlier later : List TrackerChange) :
    tracker.run (earlier ++ later) = (tracker.run earlier).run later := List.foldl_append

/-! ## The signature index is kept apart from all else -/

theorem indexSignature_eq (tracker : Tracker) (toolId signature : String) :
    ∃ signatures, tracker.indexSignature toolId signature = { tracker with signatures } := by
  unfold indexSignature
  dsimp only
  split
  · exact ⟨tracker.signatures, rfl⟩
  · exact ⟨_, rfl⟩

theorem unindexSignature_eq (tracker : Tracker) (toolId signature : String) :
    ∃ signatures, tracker.unindexSignature toolId signature = { tracker with signatures } := by
  unfold unindexSignature
  split
  · exact ⟨tracker.signatures, rfl⟩
  · dsimp only
    split
    · exact ⟨_, rfl⟩
    · exact ⟨_, rfl⟩

theorem reindex_eq (tracker : Tracker) (toolId before after : String) :
    ∃ signatures, tracker.reindex toolId before after = { tracker with signatures } := by
  unfold reindex
  split
  · exact ⟨tracker.signatures, rfl⟩
  · obtain ⟨first, removed⟩ := tracker.unindexSignature_eq toolId before
    obtain ⟨second, added⟩ :=
      (tracker.unindexSignature toolId before).indexSignature_eq toolId after
    exact ⟨second, by rw [added, removed]⟩

section Reindex

variable (tracker : Tracker) (toolId before after probe : String)

@[simp] theorem call?_reindex :
    (tracker.reindex toolId before after).call? probe = tracker.call? probe := by
  obtain ⟨signatures, same⟩ := tracker.reindex_eq toolId before after
  rw [same]
  rfl

@[simp] theorem orphans_reindex :
    (tracker.reindex toolId before after).orphans = tracker.orphans := by
  obtain ⟨signatures, same⟩ := tracker.reindex_eq toolId before after
  rw [same]

@[simp] theorem unfinished_reindex :
    (tracker.reindex toolId before after).unfinished = tracker.unfinished := by
  obtain ⟨signatures, same⟩ := tracker.reindex_eq toolId before after
  rw [same]

end Reindex

/-! ## First sight of a tool use -/

theorem ensure_of_call {tracker : Tracker} {toolId : String} {call : ToolCall}
    (known : tracker.call? toolId = some call) (toolName : String) (input : Json) :
    tracker.ensure toolId toolName input = tracker := by
  unfold ensure
  rw [Table.contains_of_find? known, if_pos rfl]

theorem ensure_of_new {tracker : Tracker} {toolId : String}
    (unknown : tracker.call? toolId = none) (toolName : String) (input : Json) :
    ∃ signatures, tracker.ensure toolId toolName input =
      { tracker with
        signatures
        calls := tracker.calls.insert toolId
          (ToolCall.start tracker.sessionId toolId toolName input tracker.nextSeq)
        unfinished := tracker.unfinished.insert toolId ()
        nextSeq := tracker.nextSeq + 1 } := by
  obtain ⟨signatures, same⟩ := tracker.indexSignature_eq toolId (toolSignature toolName input)
  refine ⟨signatures, ?_⟩
  unfold ensure
  rw [Table.contains_eq_false_iff.2 unknown, same]
  rfl

/-! ## Calls -/

section Calls

variable (tracker : Tracker) (toolId probe : String)

theorem call?_modify (change : ToolCall → ToolCall) :
    (tracker.modify toolId change).call? probe =
      if probe = toolId then (tracker.call? toolId).map change else tracker.call? probe :=
  Table.find?_adjust tracker.calls toolId change probe

/-- A change of calls that keeps a part of them keeps it in the table. -/
theorem map_call?_modify {part : Type} (view : ToolCall → part) {change : ToolCall → ToolCall}
    (keeps : ∀ call, view (change call) = view call) :
    ((tracker.modify toolId change).call? probe).map view = (tracker.call? probe).map view := by
  rw [call?_modify]
  split
  · rename_i here
    rw [here, Option.map_map]
    congr 1
    funext call
    exact keeps call
  · rfl

@[simp] theorem call?_reopen : (tracker.reopen toolId).call? probe = tracker.call? probe := rfl

@[simp] theorem call?_close : (tracker.close toolId).call? probe = tracker.call? probe := rfl

@[simp] theorem call?_link (requestId : String) :
    (tracker.link requestId toolId).call? probe = tracker.call? probe := rfl

theorem call?_ensure (toolName : String) (input : Json) :
    (tracker.ensure toolId toolName input).call? probe =
      if probe = toolId then
        some ((tracker.call? toolId).getD
          (ToolCall.start tracker.sessionId toolId toolName input tracker.nextSeq))
      else tracker.call? probe := by
  cases held : tracker.call? toolId with
  | some call =>
      rw [ensure_of_call held]
      by_cases here : probe = toolId
      · simp [here, held]
      · simp [here]
  | none =>
      obtain ⟨signatures, same⟩ := ensure_of_new held toolName input
      rw [same]
      exact Table.find?_insert tracker.calls toolId _ probe

theorem call?_recordOrphan (orphan : Orphan) :
    (tracker.recordOrphan toolId orphan).call? probe =
      if probe = toolId then (tracker.call? toolId).map (orphanCall orphan.reason)
      else tracker.call? probe :=
  call?_modify tracker toolId probe _

end Calls

/-! ## Steps that change nothing -/

section Again

variable {tracker : Tracker} {toolId : String}

theorem modify_of_fixed {call : ToolCall} {change : ToolCall → ToolCall}
    (held : tracker.call? toolId = some call) (fixed : change call = call) :
    tracker.modify toolId change = tracker := by
  have same : tracker.calls.adjust toolId change = tracker.calls := by
    apply Table.ext_find?
    intro probe
    rw [Table.find?_adjust]
    split
    · rename_i here
      unfold call? at held
      rw [here, held, Option.map_some, fixed]
    · rfl
  unfold modify
  rw [same]

theorem reopen_of_contains (counted : tracker.unfinished.contains toolId = true) :
    tracker.reopen toolId = tracker := by
  have same : tracker.unfinished.insert toolId () = tracker.unfinished :=
    KeySet.add_of_contains counted
  unfold reopen
  rw [same]

theorem close_of_not_contains (uncounted : tracker.unfinished.contains toolId = false) :
    tracker.close toolId = tracker := by
  have same : tracker.unfinished.erase toolId = tracker.unfinished :=
    Table.erase_of_find? (Table.contains_eq_false_iff.1 uncounted)
  unfold close
  rw [same]

theorem link_of_requested {requestId : String}
    (linked : tracker.requested? requestId = some toolId) :
    tracker.link requestId toolId = tracker := by
  have same : tracker.links.insert requestId toolId = tracker.links :=
    Table.insert_of_find? linked
  unfold link
  rw [same]

end Again

/-! ## Orphans -/

section Orphans

variable (tracker : Tracker) (toolId probe : String)

@[simp] theorem orphans_modify (change : ToolCall → ToolCall) :
    (tracker.modify toolId change).orphans = tracker.orphans := rfl

@[simp] theorem orphans_reopen : (tracker.reopen toolId).orphans = tracker.orphans := rfl

@[simp] theorem orphans_close : (tracker.close toolId).orphans = tracker.orphans := rfl

@[simp] theorem orphans_link (requestId : String) :
    (tracker.link requestId toolId).orphans = tracker.orphans := rfl

@[simp] theorem orphans_ensure (toolName : String) (input : Json) :
    (tracker.ensure toolId toolName input).orphans = tracker.orphans := by
  cases held : tracker.call? toolId with
  | some call => rw [ensure_of_call held]
  | none =>
      obtain ⟨signatures, same⟩ := ensure_of_new held toolName input
      rw [same]

theorem orphans_recordOrphan (orphan : Orphan) :
    (tracker.recordOrphan toolId orphan).orphans = tracker.orphans.insert toolId orphan := rfl

theorem isOrphaned_recordOrphan (orphan : Orphan) :
    (tracker.recordOrphan toolId orphan).isOrphaned probe =
      (probe == toolId || tracker.isOrphaned probe) :=
  Table.contains_insert _ _ _ _

end Orphans

/-! ## Links -/

section Links

variable (tracker : Tracker) (toolId : String)

@[simp] theorem links_ensure (toolName : String) (input : Json) :
    (tracker.ensure toolId toolName input).links = tracker.links := by
  cases held : tracker.call? toolId with
  | some call => rw [ensure_of_call held]
  | none =>
      obtain ⟨signatures, same⟩ := ensure_of_new held toolName input
      rw [same]

theorem requested?_link (requestId probe : String) :
    (tracker.link requestId toolId).requested? probe =
      if probe = requestId then some toolId else tracker.requested? probe :=
  Table.find?_insert _ _ _ _

end Links

/-! ## Unfinished tool uses -/

section Unfinished

variable (tracker : Tracker) (toolId probe : String)

@[simp] theorem unfinished_modify (change : ToolCall → ToolCall) :
    (tracker.modify toolId change).unfinished = tracker.unfinished := rfl

@[simp] theorem unfinished_link (requestId : String) :
    (tracker.link requestId toolId).unfinished = tracker.unfinished := rfl

theorem contains_unfinished_reopen :
    (tracker.reopen toolId).unfinished.contains probe =
      (probe == toolId || tracker.unfinished.contains probe) :=
  Table.contains_insert _ _ _ _

theorem contains_unfinished_close :
    (tracker.close toolId).unfinished.contains probe =
      (probe != toolId && tracker.unfinished.contains probe) :=
  Table.contains_erase _ _ _

theorem contains_unfinished_ensure (toolName : String) (input : Json) :
    (tracker.ensure toolId toolName input).unfinished.contains probe =
      ((probe == toolId && (tracker.call? toolId).isNone) ||
        tracker.unfinished.contains probe) := by
  cases held : tracker.call? toolId with
  | some call => simp [ensure_of_call held]
  | none =>
      obtain ⟨signatures, same⟩ := ensure_of_new held toolName input
      rw [same, Option.isNone_none, Bool.and_true]
      exact Table.contains_insert _ _ _ _

theorem contains_unfinished_recordOrphan (orphan : Orphan) :
    (tracker.recordOrphan toolId orphan).unfinished.contains probe =
      (probe != toolId && tracker.unfinished.contains probe) :=
  Table.contains_erase _ _ _

end Unfinished

/-! ## What a step about one tool use leaves alone -/

/-- Two trackers agree about a tool use: on its call, on its orphan, and on
whether it is counted as unfinished. -/
structure SameAt (left right : Tracker) (toolId : String) : Prop where
  call : left.call? toolId = right.call? toolId
  orphan : left.orphans.find? toolId = right.orphans.find? toolId
  unfinished : left.unfinished.contains toolId = right.unfinished.contains toolId

namespace SameAt

variable {first second third : Tracker} {probe : String}

theorem trans (earlier : SameAt first second probe) (later : SameAt second third probe) :
    SameAt first third probe :=
  ⟨earlier.call.trans later.call, earlier.orphan.trans later.orphan,
    earlier.unfinished.trans later.unfinished⟩

theorem isOrphaned (same : SameAt first second probe) :
    first.isOrphaned probe = second.isOrphaned probe :=
  congrArg Option.isSome same.orphan

end SameAt

section Elsewhere

variable (tracker : Tracker) {toolId probe : String}

theorem sameAt_link (requestId : String) :
    SameAt (tracker.link requestId toolId) tracker probe :=
  ⟨rfl, rfl, rfl⟩

theorem sameAt_reindex (before after : String) :
    SameAt (tracker.reindex toolId before after) tracker probe :=
  ⟨by simp, by simp, by simp⟩

variable (elsewhere : probe ≠ toolId)
include elsewhere

theorem sameAt_modify (change : ToolCall → ToolCall) :
    SameAt (tracker.modify toolId change) tracker probe :=
  ⟨by simp [call?_modify, elsewhere], rfl, rfl⟩

theorem sameAt_ensure (toolName : String) (input : Json) :
    SameAt (tracker.ensure toolId toolName input) tracker probe :=
  ⟨by simp [call?_ensure, elsewhere], by simp,
    by simp [contains_unfinished_ensure, beq_false_of_ne elsewhere]⟩

theorem sameAt_reopen : SameAt (tracker.reopen toolId) tracker probe :=
  ⟨rfl, rfl, by simp [contains_unfinished_reopen, beq_false_of_ne elsewhere]⟩

theorem sameAt_close : SameAt (tracker.close toolId) tracker probe :=
  ⟨rfl, rfl, by simp [contains_unfinished_close, bne_iff_ne.2 elsewhere]⟩

/-- Taking a verdict back concerns one tool use only. -/
theorem sameAt_pardon :
    SameAt { tracker with orphans := tracker.orphans.erase toolId } tracker probe :=
  ⟨rfl, by simp [Table.find?_erase, elsewhere], rfl⟩

theorem sameAt_recordOrphan (orphan : Orphan) :
    SameAt (tracker.recordOrphan toolId orphan) tracker probe :=
  ⟨by simp [call?_recordOrphan, elsewhere],
    by simp [orphans_recordOrphan, Table.find?_insert, elsewhere],
    by simp [contains_unfinished_recordOrphan, bne_iff_ne.2 elsewhere]⟩

end Elsewhere

section Elsewhere

variable (tracker : Tracker) {probe : String}

/-- A result concerns its own tool use only. -/
theorem sameAt_onToolResult {result : ToolResult} (elsewhere : probe ≠ result.toolId) :
    SameAt (tracker.onToolResult result) tracker probe :=
  (sameAt_close _ elsewhere).trans ((sameAt_pardon _ elsewhere).trans
    ((sameAt_modify _ elsewhere _).trans (sameAt_ensure _ elsewhere _ _)))

/-- An event with a whole state concerns its own tool use only. -/
theorem sameAt_onToolEvent {event : ToolEvent} (elsewhere : probe ≠ event.toolId) :
    SameAt (tracker.onToolEvent event) tracker probe := by
  unfold onToolEvent
  extract_lets ensured assigned linked settled indexed
  have first : SameAt assigned tracker probe :=
    (sameAt_modify _ elsewhere _).trans (sameAt_ensure _ elsewhere _ _)
  have second : SameAt linked tracker probe := by
    unfold linked
    split
    · exact (sameAt_link _ _).trans first
    · exact first
  have third : SameAt settled tracker probe := by
    unfold settled
    split
    · exact (sameAt_pardon _ elsewhere).trans second
    · exact second
  have fourth : SameAt indexed tracker probe := by
    unfold indexed
    split
    · exact (sameAt_reindex _ _ _).trans third
    · exact third
  split
  · exact (sameAt_close _ elsewhere).trans fourth
  · exact (sameAt_reopen _ elsewhere).trans fourth

/-- The backend's state of a tool use concerns that tool use only. -/
theorem sameAt_applyDisplayedTool {toolId : String} (elsewhere : probe ≠ toolId)
    (tool : DisplayedTool) : SameAt (tracker.applyDisplayedTool toolId tool) tracker probe := by
  unfold applyDisplayedTool
  extract_lets status ensured assigned counted
  have first : SameAt assigned tracker probe :=
    (sameAt_modify _ elsewhere _).trans (sameAt_ensure _ elsewhere _ _)
  have second : SameAt counted tracker probe := by
    unfold counted
    split
    · exact (sameAt_close _ elsewhere).trans first
    · exact (sameAt_reopen _ elsewhere).trans first
  split
  · exact (sameAt_link _ _).trans second
  · exact second

end Elsewhere

/-! ## What a step about a tool use makes of it -/

section Here

variable (tracker : Tracker)

/-- The call of a tool use, or the one that its first sight would create. -/
def callOrStart (tracker : Tracker) (toolId toolName : String) (input : Json) : ToolCall :=
  (tracker.call? toolId).getD
    (ToolCall.start tracker.sessionId toolId toolName input tracker.nextSeq)

theorem call?_modify_ensure (toolId toolName : String) (input : Json)
    (change : ToolCall → ToolCall) :
    ((tracker.ensure toolId toolName input).modify toolId change).call? toolId =
      some (change (tracker.callOrStart toolId toolName input)) := by
  rw [call?_modify, if_pos rfl, call?_ensure, if_pos rfl]
  rfl

theorem call?_onToolEvent (event : ToolEvent) :
    (tracker.onToolEvent event).call? event.toolId =
      some (assignEvent event
        (tracker.callOrStart event.toolId event.toolName event.input)) := by
  rw [← call?_modify_ensure]
  unfold onToolEvent
  extract_lets ensured assigned linked settled indexed
  have second : linked.call? event.toolId = assigned.call? event.toolId := by
    unfold linked
    split <;> rfl
  have third : settled.call? event.toolId = assigned.call? event.toolId := by
    unfold settled
    split <;> exact second
  have fourth : indexed.call? event.toolId = assigned.call? event.toolId := by
    unfold indexed
    split
    · rw [call?_reindex, third]
    · exact third
  split <;> exact fourth

theorem contains_unfinished_onToolEvent (event : ToolEvent) :
    (tracker.onToolEvent event).unfinished.contains event.toolId =
      !(ToolStatus.ofState event.state).isTerminal := by
  unfold onToolEvent
  extract_lets ensured assigned linked settled indexed
  split
  · rename_i final
    simp [contains_unfinished_close, final]
  · rename_i waiting
    simp [contains_unfinished_reopen, waiting]

theorem call?_applyDisplayedTool (toolId : String) (tool : DisplayedTool) :
    ((tracker.applyDisplayedTool toolId tool).call? toolId).map ToolCall.status =
      some (ToolStatus.ofState tool.state) := by
  unfold applyDisplayedTool
  extract_lets status ensured assigned counted
  have first : (assigned.call? toolId).map ToolCall.status = some status := by
    rw [call?_modify_ensure]
    rfl
  have second : (counted.call? toolId).map ToolCall.status = some status := by
    unfold counted
    split <;> exact first
  split <;> exact second

theorem contains_unfinished_applyDisplayedTool (toolId : String) (tool : DisplayedTool) :
    (tracker.applyDisplayedTool toolId tool).unfinished.contains toolId =
      !(ToolStatus.ofState tool.state).isTerminal := by
  unfold applyDisplayedTool
  extract_lets status ensured assigned counted
  have counting : counted.unfinished.contains toolId = !status.isTerminal := by
    unfold counted
    split
    · rename_i final
      simp [contains_unfinished_close, final]
    · rename_i waiting
      simp [contains_unfinished_reopen, waiting]
  split <;> exact counting

end Here

end Tracker

end SessionSync
