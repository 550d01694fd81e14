import SessionSync.Proofs.Tracker.History

/-!
# Tool uses that are left behind

When a session ends, the tool uses that are counted as unfinished become orphans
(`Tracker.orphanUnfinished`).  A call that waits for a result, is no orphan, and
is not counted as unfinished is then passed over: it is stranded.

Tool uses get stranded in one way only.  A display block that brings a list of
orphans takes back every verdict that is not on the list, but it does not count
the tool uses concerned as unfinished again.  A stranded tool use stays so until
something takes it up: a result, a denial, an event with its whole state, a state
or a verdict of its own, or a new count.  So a run strands a tool use exactly when
some display block in it released the tool use and nothing after that took it up
(`isStranded_run_iff`).
-/

set_option autoImplicit false

namespace SessionSync.Tracker

/-! ## Waiting and stranded calls -/

/-- Whether a tool use has a call that waits for a result. -/
def awaits (tracker : Tracker) (toolId : String) : Bool :=
  (tracker.call? toolId).any fun call => !call.status.isTerminal

/-- Whether a tool use has a call that waits for a result and is no orphan, and
yet is not counted as unfinished. -/
def isStranded (tracker : Tracker) (toolId : String) : Bool :=
  tracker.unfinishedCalls.contains toolId && !tracker.unfinished.contains toolId

section Laws

variable (tracker : Tracker) (toolId probe : String)

theorem contains_unfinishedCalls :
    tracker.unfinishedCalls.contains toolId =
      (tracker.awaits toolId && !tracker.isOrphaned toolId) := by
  unfold unfinishedCalls awaits call? Table.contains
  rw [Table.find?_filter]
  cases held : tracker.calls.find? toolId with
  | none => rfl
  | some call =>
      cases waiting : !call.status.isTerminal && !tracker.isOrphaned toolId <;>
        simp [Option.filter, waiting]

theorem isStranded_eq :
    tracker.isStranded toolId =
      (tracker.awaits toolId && !tracker.isOrphaned toolId &&
        !tracker.unfinished.contains toolId) := by
  unfold isStranded
  rw [contains_unfinishedCalls]

theorem awaits_modify (change : ToolCall → ToolCall) :
    (tracker.modify toolId change).awaits probe =
      if probe = toolId then
        ((tracker.call? toolId).map change).any fun call => !call.status.isTerminal
      else tracker.awaits probe := by
  unfold awaits
  rw [call?_modify]
  split <;> rfl

/-- A change that does not finish calls and does not take them up again leaves
every tool use as stranded as it was. -/
theorem isStranded_modify {change : ToolCall → ToolCall}
    (keeps : ∀ call, (change call).status.isTerminal = call.status.isTerminal) :
    (tracker.modify toolId change).isStranded probe = tracker.isStranded probe := by
  have same : (tracker.modify toolId change).awaits probe = tracker.awaits probe := by
    rw [awaits_modify]
    split
    · rename_i here
      subst here
      unfold awaits
      cases tracker.call? probe with
      | none => rfl
      | some call => simp [keeps]
    · rfl
  rw [isStranded_eq, isStranded_eq, same, unfinished_modify]
  rfl

theorem SameAt.isStranded {left right : Tracker} (same : SameAt left right probe) :
    left.isStranded probe = right.isStranded probe := by
  rw [isStranded_eq, isStranded_eq, same.isOrphaned, same.unfinished]
  simp [awaits, same.call]

/-- A tool use without a call is not stranded. -/
theorem isStranded_of_unknown {tracker : Tracker} {toolId : String}
    (unknown : tracker.call? toolId = none) : tracker.isStranded toolId = false := by
  simp [isStranded_eq, awaits, unknown]

/-- A tool use that is counted as unfinished is not stranded. -/
theorem isStranded_of_unfinished {tracker : Tracker} {toolId : String}
    (counted : tracker.unfinished.contains toolId = true) :
    tracker.isStranded toolId = false := by
  simp [isStranded, counted]

/-- A tool use that waits for nothing is not stranded. -/
theorem isStranded_of_not_awaits {tracker : Tracker} {toolId : String}
    (settled : tracker.awaits toolId = false) : tracker.isStranded toolId = false := by
  simp [isStranded_eq, settled]

@[simp] theorem isStranded_link (requestId : String) :
    (tracker.link requestId toolId).isStranded probe = tracker.isStranded probe := rfl

@[simp] theorem isStranded_reindex (before after : String) :
    (tracker.reindex toolId before after).isStranded probe = tracker.isStranded probe :=
  (tracker.sameAt_reindex before after).isStranded

@[simp] theorem isStranded_ensure (toolName : String) (input : Json) :
    (tracker.ensure toolId toolName input).isStranded probe = tracker.isStranded probe := by
  cases held : tracker.call? toolId with
  | some call => rw [ensure_of_call held]
  | none =>
      by_cases here : probe = toolId
      · subst here
        rw [isStranded_of_unknown held]
        apply isStranded_of_unfinished
        simp [contains_unfinished_ensure, held]
      · exact (tracker.sameAt_ensure here toolName input).isStranded

/-- Counting a tool use as finished strands nothing if it waits for nothing. -/
theorem isStranded_close {tracker : Tracker} {toolId : String}
    (settled : tracker.awaits toolId = false) (probe : String) :
    (tracker.close toolId).isStranded probe = tracker.isStranded probe := by
  by_cases here : probe = toolId
  · subst here
    rw [isStranded_of_not_awaits settled]
    exact isStranded_of_not_awaits settled
  · exact (tracker.sameAt_close here).isStranded

/-- A change that finishes a call takes its tool use up, and no other. -/
theorem isStranded_modify_of_terminal {change : ToolCall → ToolCall}
    (finishes : ∀ call, (change call).status.isTerminal = true) :
    (tracker.modify toolId change).isStranded probe =
      (tracker.isStranded probe && probe != toolId) := by
  by_cases here : probe = toolId
  · subst here
    have settled : (tracker.modify probe change).awaits probe = false := by
      rw [awaits_modify, if_pos rfl]
      cases tracker.call? probe <;> simp [finishes]
    simp [isStranded_of_not_awaits settled]
  · rw [(tracker.sameAt_modify here change).isStranded, bne_iff_ne.2 here, Bool.and_true]

end Laws

/-! ## The older protocol -/

theorem isStranded_onToolUse (tracker : Tracker) (toolUse : ToolUse) (probe : String) :
    (tracker.onToolUse toolUse).isStranded probe = tracker.isStranded probe := by
  unfold onToolUse
  cases tracker.call? toolUse.toolId with
  | none => simp
  | some call =>
      dsimp only
      split
      · rfl
      · rw [isStranded_modify, isStranded_reindex]
        exact fun _ => rfl

/-- A request does not finish a call. -/
theorem isTerminal_askFor (request : PermissionRequest) (call : ToolCall) :
    (askFor request call).status.isTerminal = call.status.isTerminal := by
  unfold askFor
  cases call.status <;> simp [ToolStatus.isTerminal]

theorem isStranded_onPermissionRequest (tracker : Tracker) (request : PermissionRequest)
    (probe : String) :
    (tracker.onPermissionRequest request).1.isStranded probe = tracker.isStranded probe := by
  unfold onPermissionRequest
  cases tracker.requestTarget? request with
  | none => rfl
  | some toolId =>
      dsimp only
      rw [isStranded_modify _ _ _ (isTerminal_askFor request), isStranded_ensure, isStranded_link]

/-- The tool use that an answer is about: the one it names, or the one that its
request was linked to. -/
def responseTarget? (tracker : Tracker) (response : PermissionResponse) : Option String :=
  response.toolId.or (tracker.requested? response.requestId)

/-- An answer finishes a call exactly if it denies. -/
theorem isTerminal_answerWith (response : PermissionResponse) (call : ToolCall) :
    (answerWith response call).status.isTerminal =
      (call.status.isTerminal || response.decision == .deny) := by
  unfold answerWith
  cases settled : call.status.isTerminal with
  | true => simp [settled]
  | false =>
      cases response.decision with
      | allow => simp only [settled, Bool.false_eq_true, if_false]; rfl
      | deny => simp only [settled, Bool.false_eq_true, if_false]; rfl

theorem isStranded_onPermissionResponse (tracker : Tracker) (response : PermissionResponse)
    (probe : String) :
    (tracker.onPermissionResponse response).1.isStranded probe =
      (tracker.isStranded probe &&
        !(response.decision == .deny && tracker.responseTarget? response == some probe)) := by
  unfold onPermissionResponse
  have named : response.toolId.or (tracker.requested? response.requestId) =
    tracker.responseTarget? response := rfl
  rw [named]
  cases tracker.responseTarget? response with
  | none => simp
  | some toolId =>
      dsimp only
      cases held : (tracker.link response.requestId toolId).call? toolId with
      | none =>
          have unknown : tracker.call? toolId = none := held
          by_cases here : toolId = probe
          · subst here
            simp [isStranded_of_unknown unknown]
          · simp [here]
      | some call =>
          dsimp only
          cases decided : response.decision with
          | allow =>
              have keeps : ∀ call,
                  (answerWith response call).status.isTerminal = call.status.isTerminal := by
                intro call
                simp [isTerminal_answerWith, decided]
              simp [isStranded_modify _ _ _ keeps]
          | deny =>
              have finishes : ∀ call, (answerWith response call).status.isTerminal = true := by
                intro call
                simp [isTerminal_answerWith, decided]
              have settled : ((tracker.link response.requestId toolId).modify toolId
                  (answerWith response)).awaits toolId = false := by
                rw [awaits_modify, if_pos rfl, held]
                simp [finishes]
              have answered := isStranded_modify_of_terminal
                (tracker.link response.requestId toolId) toolId probe finishes
              rw [isStranded_link] at answered
              have same : (probe != toolId) = !(some toolId == some probe) := by
                by_cases here : probe = toolId <;> simp [here, bne, Ne.symm]
              split
              · simp [isStranded_close settled, answered, same]
              · simp [answered, same]

theorem isStranded_onToolResult (tracker : Tracker) (result : ToolResult) (probe : String) :
    (tracker.onToolResult result).isStranded probe =
      (tracker.isStranded probe && probe != result.toolId) := by
  by_cases here : probe = result.toolId
  · subst here
    have finished : ((tracker.ensure result.toolId "" .null).modify result.toolId fun call =>
        { call with
          status := if result.isError then .error else .completed
          outcome := some { content := result.content, isError := result.isError }
          expanded := false
          orphaned := false
          orphanReason := none }).awaits result.toolId = false := by
      unfold awaits
      rw [call?_modify_ensure]
      cases result.isError <;> simp [ToolStatus.isTerminal]
    have settled : (tracker.onToolResult result).awaits result.toolId = false := finished
    simp [isStranded_of_not_awaits settled]
  · rw [(sameAt_onToolResult tracker here).isStranded, bne_iff_ne.2 here, Bool.and_true]

/-! ## Events with the whole state -/

theorem isStranded_onToolEvent (tracker : Tracker) (event : ToolEvent) (probe : String) :
    (tracker.onToolEvent event).isStranded probe =
      (tracker.isStranded probe && probe != event.toolId) := by
  by_cases here : probe = event.toolId
  · subst here
    have told : (tracker.onToolEvent event).isStranded event.toolId = false := by
      cases final : (ToolStatus.ofState event.state).isTerminal with
      | true =>
          apply isStranded_of_not_awaits
          unfold awaits
          rw [call?_onToolEvent]
          simp [assignEvent, final]
      | false =>
          apply isStranded_of_unfinished
          rw [contains_unfinished_onToolEvent, final]
          rfl
    simp [told]
  · rw [(sameAt_onToolEvent tracker here).isStranded, bne_iff_ne.2 here, Bool.and_true]

/-! ## The display block -/

theorem isStranded_applyDisplayLinks (tracker : Tracker) (display : Display) (probe : String) :
    (tracker.applyDisplayLinks display).isStranded probe = tracker.isStranded probe := by
  unfold applyDisplayLinks
  cases display.links with
  | none => rfl
  | some links =>
      dsimp only
      induction links.entries generalizing tracker with
      | nil => rfl
      | cons entry rest ih => rw [List.foldl_cons, ih, isStranded_link]

theorem isStranded_applyDisplayedTool (tracker : Tracker) (toolId : String) (tool : DisplayedTool)
    (probe : String) :
    (tracker.applyDisplayedTool toolId tool).isStranded probe =
      (tracker.isStranded probe && probe != toolId) := by
  by_cases here : probe = toolId
  · subst here
    have told : (tracker.applyDisplayedTool probe tool).isStranded probe = false := by
      have status := call?_applyDisplayedTool tracker probe tool
      cases final : (ToolStatus.ofState tool.state).isTerminal with
      | true =>
          apply isStranded_of_not_awaits
          unfold awaits
          cases held : (tracker.applyDisplayedTool probe tool).call? probe with
          | none => rfl
          | some call =>
              rw [held] at status
              simp only [Option.map_some, Option.some.injEq] at status
              simp [status, final]
      | false =>
          apply isStranded_of_unfinished
          rw [contains_unfinished_applyDisplayedTool, final]
          rfl
    simp [told]
  · rw [(sameAt_applyDisplayedTool tracker here tool).isStranded, bne_iff_ne.2 here,
      Bool.and_true]

/-- The tool states of a display block, without its orphans. -/
def applyDisplayedTools (tracker : Tracker) (display : Display) : Tracker :=
  tracker.applyDisplayStates { display with orphans := none }

theorem applyDisplayStates_eq (tracker : Tracker) (display : Display) :
    tracker.applyDisplayStates display =
      match display.orphans with
      | none => tracker.applyDisplayedTools display
      | some notices => (tracker.applyDisplayedTools display).replaceOrphans notices := rfl

theorem isStranded_applyDisplayedTools (tracker : Tracker) (display : Display) (probe : String) :
    (tracker.applyDisplayedTools display).isStranded probe =
      (tracker.isStranded probe && !display.tools.any fun tools => tools.contains probe) := by
  unfold applyDisplayedTools applyDisplayStates
  cases display.tools with
  | none => simp
  | some tools =>
      dsimp only [Option.any_some]
      have listed : tools.contains probe = (tools.entries.map Prod.fst).contains probe :=
        (tools.contains_keys probe).symm
      rw [listed]
      induction tools.entries generalizing tracker with
      | nil => simp
      | cons entry rest ih =>
          rw [List.foldl_cons, ih, isStranded_applyDisplayedTool, List.map_cons,
            List.contains_cons, Bool.not_or, Bool.and_assoc]
          rfl

/-! ## Orphans -/

section Verdicts

variable (tracker : Tracker) (probe : String)

@[simp] theorem isTerminal_orphanCall (reason : String) (call : ToolCall) :
    (orphanCall reason call).status.isTerminal = call.status.isTerminal := rfl

theorem awaits_recordOrphan (toolId : String) (orphan : Orphan) :
    (tracker.recordOrphan toolId orphan).awaits probe = tracker.awaits probe := by
  unfold awaits
  rw [call?_recordOrphan]
  split
  · rename_i here
    subst here
    cases tracker.call? probe <;> rfl
  · rfl

theorem isStranded_markOrphaned (toolId reason : String) (message : Option String) :
    (tracker.markOrphaned toolId reason message).isStranded probe =
      (tracker.isStranded probe && probe != toolId) := by
  unfold markOrphaned
  by_cases here : probe = toolId
  · subst here
    simp [isStranded_eq, isOrphaned_recordOrphan]
  · rw [(sameAt_recordOrphan tracker here _).isStranded, bne_iff_ne.2 here, Bool.and_true]

/-- Verdicts on a list of tool uses take up those on the list. -/
theorem isStranded_foldl_markOrphaned {α : Type} (toolId reason : α → String)
    (message : α → Option String) (verdicts : List α) :
    (verdicts.foldl (fun tracker verdict => tracker.markOrphaned (toolId verdict) (reason verdict)
        (message verdict)) tracker).isStranded probe =
      (tracker.isStranded probe && !verdicts.any fun verdict => toolId verdict == probe) := by
  induction verdicts generalizing tracker with
  | nil => simp
  | cons verdict rest ih =>
      have same : (probe != toolId verdict) = !(toolId verdict == probe) := by
        rw [bne, Bool.beq_comm]
      rw [List.foldl_cons, ih, isStranded_markOrphaned, List.any_cons, Bool.not_or, same,
        Bool.and_assoc]

/-- Once every verdict is taken back, a waiting call that is not counted as
unfinished is stranded. -/
theorem isStranded_forgetOrphans :
    tracker.forgetOrphans.isStranded probe =
      (tracker.awaits probe && !tracker.unfinished.contains probe) := by
  have waiting : tracker.forgetOrphans.awaits probe = tracker.awaits probe := by
    unfold awaits
    show ((tracker.calls.mapValues _).find? probe).any _ = (tracker.calls.find? probe).any _
    rw [Table.find?_mapValues]
    cases tracker.calls.find? probe with
    | none => rfl
    | some call => cases tracker.isOrphaned probe <;> rfl
  have pardoned : tracker.forgetOrphans.isOrphaned probe = false := rfl
  have counted : tracker.forgetOrphans.unfinished = tracker.unfinished := rfl
  rw [isStranded_eq, waiting, pardoned, counted, Bool.not_false, Bool.and_true]

theorem isStranded_replaceOrphans (notices : List OrphanNotice) :
    (tracker.replaceOrphans notices).isStranded probe =
      (tracker.awaits probe && !tracker.unfinished.contains probe &&
        !notices.any fun notice => notice.toolId == probe) := by
  unfold replaceOrphans
  rw [isStranded_foldl_markOrphaned _ _ OrphanNotice.toolId OrphanNotice.reason
    OrphanNotice.message, isStranded_forgetOrphans]

/-- Orphaning what is counted as unfinished passes a stranded tool use over. -/
theorem isStranded_orphanUnfinished (reason : String) :
    (tracker.orphanUnfinished reason).1.isStranded probe = tracker.isStranded probe := by
  unfold orphanUnfinished
  refine (isStranded_foldl_markOrphaned tracker probe (fun toolId => toolId) (fun _ => reason)
    (fun _ => none) _).trans ?_
  cases stranded : tracker.isStranded probe with
  | false => rfl
  | true =>
      have uncounted : tracker.unfinished.contains probe = false := by
        simpa [isStranded] using (Bool.and_eq_true_iff.1 stranded).2
      rw [Bool.true_and, Bool.not_eq_true', List.any_eq_false]
      intro toolId member same
      have counted := Table.mem_keys_iff.1 (List.mem_filter.1 member).1
      rw [beq_iff_eq.1 same, uncounted] at counted
      cases counted

/-- A new count leaves nothing behind. -/
theorem isStranded_recountUnfinished :
    tracker.recountUnfinished.isStranded probe = false := by
  have counted : tracker.recountUnfinished.unfinished.contains probe =
      tracker.unfinishedCalls.contains probe := Table.contains_mapValues _ _ _
  have same : tracker.recountUnfinished.unfinishedCalls = tracker.unfinishedCalls := rfl
  rw [isStranded, counted, same, Bool.and_not_self]

theorem isStranded_toggleExpanded (toolId : String) :
    (tracker.toggleExpanded toolId).1.isStranded probe = tracker.isStranded probe := by
  unfold toggleExpanded
  cases tracker.call? toolId with
  | none => rfl
  | some call => exact isStranded_modify _ _ _ fun _ => rfl

end Verdicts

/-! ## Runs -/

/-- Whether a change takes back the verdict on a tool use that waits for a result
and is counted as finished: its list of orphans leaves the tool use out. -/
def releases (tracker : Tracker) (change : TrackerChange) (toolId : String) : Bool :=
  match change with
  | .displayStates display =>
      let told := tracker.applyDisplayedTools display
      display.orphans.any fun notices =>
        told.awaits toolId && told.isOrphaned toolId && !told.unfinished.contains toolId &&
          !notices.any fun notice => notice.toolId == toolId
  | _ => false

/-- Whether a change says how a tool use stands: it finishes it, counts it as
unfinished, or calls it an orphan. -/
def takesUp (tracker : Tracker) (change : TrackerChange) (toolId : String) : Bool :=
  match change with
  | .permissionResponse response =>
      response.decision == .deny && tracker.responseTarget? response == some toolId
  | .toolResult result => toolId == result.toolId
  | .toolEvent event => toolId == event.toolId
  | .displayStates display =>
      (display.tools.any fun tools => tools.contains toolId) ||
        display.orphans.any fun notices => notices.any fun notice => notice.toolId == toolId
  | .markOrphaned orphanId _ _ => toolId == orphanId
  | .recount => true
  | _ => false

/-- **One change.**  A tool use is stranded after a change if the change released
it, or if it was stranded before and the change did not take it up. -/
theorem isStranded_after (tracker : Tracker) (change : TrackerChange) (toolId : String) :
    (tracker.after change).isStranded toolId =
      (tracker.releases change toolId ||
        tracker.isStranded toolId && !tracker.takesUp change toolId) := by
  cases change with
  | toolUse toolUse =>
      simpa [after, releases, takesUp] using isStranded_onToolUse tracker toolUse toolId
  | permissionRequest request =>
      simpa [after, releases, takesUp] using isStranded_onPermissionRequest tracker request toolId
  | permissionResponse response =>
      simpa only [after, releases, takesUp, Bool.false_or] using
        isStranded_onPermissionResponse tracker response toolId
  | toolResult result => exact isStranded_onToolResult tracker result toolId
  | toolEvent event => exact isStranded_onToolEvent tracker event toolId
  | displayLinks display =>
      simpa [after, releases, takesUp] using isStranded_applyDisplayLinks tracker display toolId
  | displayStates display =>
      simp only [after, releases, takesUp, applyDisplayStates_eq]
      cases display.orphans with
      | none => simpa using isStranded_applyDisplayedTools tracker display toolId
      | some notices =>
          have told := isStranded_applyDisplayedTools tracker display toolId
          rw [isStranded_eq] at told
          simp only [isStranded_replaceOrphans, Option.any_some]
          rw [Bool.not_or, ← Bool.and_assoc, ← told]
          cases (tracker.applyDisplayedTools display).isOrphaned toolId <;>
            simp [Bool.and_comm]
  | markOrphaned orphanId reason message =>
      exact isStranded_markOrphaned tracker toolId orphanId reason message
  | orphanUnfinished reason =>
      simpa [after, releases, takesUp] using isStranded_orphanUnfinished tracker toolId reason
  | recount => simp [after, releases, takesUp, isStranded_recountUnfinished]
  | toggle toggledId =>
      simpa [after, releases, takesUp] using isStranded_toggleExpanded tracker toolId toggledId

/-- A run leaves a tool use behind: one of its changes releases the tool use, and
none of those that follow takes it up. -/
def LeavesBehind (start : Tracker) (changes : List TrackerChange) (toolId : String) : Prop :=
  ∃ earlier change later, changes = earlier ++ change :: later ∧
    (start.run earlier).releases change toolId = true ∧
    ∀ middle next rest, later = middle ++ next :: rest →
      (start.run (earlier ++ change :: middle)).takesUp next toolId = false

/-- **Runs.**  What is stranded after a run from a tracker without stranded tool
uses is exactly what the run leaves behind. -/
theorem isStranded_run_iff {start : Tracker} {toolId : String}
    (clean : start.isStranded toolId = false) (changes : List TrackerChange) :
    (start.run changes).isStranded toolId = true ↔ LeavesBehind start changes toolId := by
  show _ ↔ LastSet (fun tracker change => tracker.releases change toolId)
    (fun tracker change => tracker.takesUp change toolId) start changes
  exact holds_run_iff_lastSet (fun tracker => tracker.isStranded toolId)
    (fun tracker change => isStranded_after tracker change toolId) clean changes

end SessionSync.Tracker
