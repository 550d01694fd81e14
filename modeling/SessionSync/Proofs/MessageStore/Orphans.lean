import SessionSync.Proofs.MessageStore.ToolHistory
import SessionSync.Proofs.Tracker.Stranded

/-!
# Orphans when a session ends

When a session enters a state that is not live, a call that waits for a result is to
become an orphan.  It does, unless the tool history of the session left it behind
(`orphaned_at_end_iff`).  That takes a display block with a list of orphans: without
such lists every call that waits is an orphan in the end
(`orphaned_at_end_of_no_lists`).
-/

set_option autoImplicit false

namespace SessionSync

namespace Tracker

/-! ## After the end -/

section End

variable (tracker : Tracker) (toolId : String)

theorem awaits_foldl_markOrphaned (reason : String) (ids : List String) :
    (ids.foldl (fun tracker id => tracker.markOrphaned id reason none) tracker).awaits toolId =
      tracker.awaits toolId := by
  induction ids generalizing tracker with
  | nil => rfl
  | cons id rest ih => rw [List.foldl_cons, ih, markOrphaned, awaits_recordOrphan]

theorem isOrphaned_foldl_markOrphaned (reason : String) (ids : List String) :
    (ids.foldl (fun tracker id => tracker.markOrphaned id reason none) tracker).isOrphaned
        toolId =
      (ids.contains toolId || tracker.isOrphaned toolId) := by
  induction ids generalizing tracker with
  | nil => simp
  | cons id rest ih =>
      rw [List.foldl_cons, ih, markOrphaned, isOrphaned_recordOrphan, List.contains_cons]
      cases toolId == id <;> simp

theorem awaits_orphanUnfinished (reason : String) :
    (tracker.orphanUnfinished reason).1.awaits toolId = tracker.awaits toolId :=
  tracker.awaits_foldl_markOrphaned toolId reason _

/-- What was counted as unfinished becomes an orphan, and orphans stay. -/
theorem isOrphaned_orphanUnfinished (reason : String) :
    (tracker.orphanUnfinished reason).1.isOrphaned toolId =
      (tracker.unfinished.contains toolId || tracker.isOrphaned toolId) := by
  refine (tracker.isOrphaned_foldl_markOrphaned toolId reason _).trans ?_
  have counted : tracker.unfinished.keys.contains toolId = tracker.unfinished.contains toolId := by
    rw [Bool.eq_iff_iff, List.contains_iff_mem, Table.mem_keys_iff]
  cases verdict : tracker.isOrphaned toolId with
  | true => simp
  | false =>
      rw [Bool.or_false, Bool.or_false, ← counted, Bool.eq_iff_iff, List.contains_iff_mem,
        List.contains_iff_mem, List.mem_filter]
      simp [verdict]

/-- **At the end of a session** a call that waits becomes an orphan unless it is
stranded. -/
theorem isOrphaned_orphanUnfinished_iff {tracker : Tracker} {toolId : String}
    (waits : tracker.awaits toolId = true) (reason : String) :
    (tracker.orphanUnfinished reason).1.isOrphaned toolId = true ↔
      ¬ tracker.isStranded toolId = true := by
  rw [isOrphaned_orphanUnfinished, isStranded_eq, waits]
  cases tracker.unfinished.contains toolId <;> cases tracker.isOrphaned toolId <;> simp

/-- Only a list of orphans releases a tool use. -/
theorem releases_of_no_list {change : TrackerChange}
    (plain : ∀ display, change = .displayStates display → display.orphans = none) :
    tracker.releases change toolId = false := by
  cases change with
  | displayStates display => simp [releases, plain display rfl]
  | _ => rfl

theorem not_leavesBehind_of_no_lists {changes : List TrackerChange}
    (plain : ∀ display, .displayStates display ∈ changes → display.orphans = none) :
    ¬ LeavesBehind tracker changes toolId := by
  rintro ⟨earlier, change, later, rfl, released, -⟩
  rw [releases_of_no_list] at released
  · cases released
  · rintro display rfl
    exact plain display (by simp)

end End

end Tracker

namespace MessageStore

section End

variable {store : MessageStore} {sessionId toolId : String} {state : SessionState}

/-- A call of a session that has ended, in the terms of the tracker before the end. -/
theorem tracker_of_toolCall? {call : ToolCall} (ends : state.isLive = false)
    (called : (store.onSessionState sessionId state).1.toolCall? sessionId toolId = some call)
    (waits : call.status.isTerminal = false) :
    (store.log sessionId).tracker.awaits toolId = true ∧
      ((store.onSessionState sessionId state).1.orphan? sessionId toolId).isSome =
        ((store.log sessionId).tracker.orphanUnfinished state.orphanReason).1.isOrphaned
          toolId := by
  have ended := store.log_onSessionState sessionId state
  rw [ends, if_neg Bool.false_ne_true] at ended
  cases stored : (store.onSessionState sessionId state).1.log? sessionId with
  | none => simp [toolCall?, stored] at called
  | some log =>
      rw [log_of_log? stored] at ended
      subst ended
      refine ⟨?_, by simp [orphan?, stored, Tracker.isOrphaned, Table.contains, Log.onTracker]⟩
      rw [← Tracker.awaits_orphanUnfinished _ _ state.orphanReason]
      have held : ((store.log sessionId).tracker.orphanUnfinished state.orphanReason).1.call?
          toolId = some call := by simpa [toolCall?, stored, Log.onTracker] using called
      simp [Tracker.awaits, held, waits]

/-- A call that waits at the end of its session is an orphan exactly if no list of
orphans left it behind, in the terms of a tool history. -/
theorem orphaned_at_end_iff_of_told {told : List TrackerChange} {call : ToolCall}
    (inStep : (store.log sessionId).tracker = (Tracker.new sessionId).run told)
    (ends : state.isLive = false)
    (called : (store.onSessionState sessionId state).1.toolCall? sessionId toolId = some call)
    (waits : call.status.isTerminal = false) :
    ((store.onSessionState sessionId state).1.orphan? sessionId toolId).isSome = true ↔
      ¬ Tracker.LeavesBehind (Tracker.new sessionId) told toolId := by
  obtain ⟨awaited, same⟩ := tracker_of_toolCall? ends called waits
  have clean : (Tracker.new sessionId).isStranded toolId = false := rfl
  rw [same, Tracker.isOrphaned_orphanUnfinished_iff awaited, inStep,
    Tracker.isStranded_run_iff clean]

/-- Without lists of orphans every call that waits is an orphan in the end. -/
theorem orphaned_at_end_of_no_lists {told : List TrackerChange} {call : ToolCall}
    (inStep : (store.log sessionId).tracker = (Tracker.new sessionId).run told)
    (plain : ∀ display, .displayStates display ∈ told → display.orphans = none)
    (ends : state.isLive = false)
    (called : (store.onSessionState sessionId state).1.toolCall? sessionId toolId = some call)
    (waits : call.status.isTerminal = false) :
    ((store.onSessionState sessionId state).1.orphan? sessionId toolId).isSome = true :=
  (orphaned_at_end_iff_of_told inStep ends called waits).2
    (Tracker.not_leavesBehind_of_no_lists _ _ plain)

/-- **Orphans when a session ends.**  After whatever has happened, a call that still
waits once its session has entered a state that is not live is an orphan exactly if
the tool history of the session did not leave it behind. -/
theorem orphaned_at_end_iff {changes : List StoreChange} {call : ToolCall}
    (ends : state.isLive = false)
    (called : ((empty.run changes).onSessionState sessionId state).1.toolCall? sessionId toolId =
      some call)
    (waits : call.status.isTerminal = false) :
    (((empty.run changes).onSessionState sessionId state).1.orphan? sessionId toolId).isSome =
        true ↔
      ¬ Tracker.LeavesBehind (Tracker.new sessionId) (empty.toolHistory sessionId [] changes)
        toolId := by
  have new : (empty.log sessionId).tracker = (Tracker.new sessionId).run [] := rfl
  exact orphaned_at_end_iff_of_told (tracker_log_run new changes) ends called waits

end End

/-! ### A tool use that is left behind -/

/-- A tool is used, its session loses it, and the backend lists no orphan. -/
def pardonedTool : List StoreChange :=
  [.tools "s" (.toolUse { toolId := "t", name := "Bash", input := .null }),
    .tools "s" (.markOrphaned "t" "gone" none),
    .display "s" { tools := none, orphans := some [], links := none }]

/-- The list takes the verdict back, so the end of the session passes the tool use
over. -/
theorem pardonedTool_passed_over_at_end :
    let ended := ((empty.run pardonedTool).onSessionState "s" .terminated).1
    let call := { ToolCall.start "s" "t" "Bash" .null 0 with expanded := false }
    SessionState.terminated.isLive = false ∧ ended.toolCall? "s" "t" = some call ∧
      call.status.isTerminal = false ∧ (ended.orphan? "s" "t").isSome = false ∧
      Tracker.LeavesBehind (Tracker.new "s") (empty.toolHistory "s" [] pardonedTool) "t" := by
  intro ended call
  have ends : SessionState.terminated.isLive = false := rfl
  have called : ended.toolCall? "s" "t" = some call := by decide +kernel
  have waits : call.status.isTerminal = false := rfl
  have missed : (ended.orphan? "s" "t").isSome = false := by decide +kernel
  have behind := orphaned_at_end_iff ends called waits
  rw [missed] at behind
  refine ⟨ends, called, waits, missed, ?_⟩
  by_contra kept
  cases behind.2 kept

end MessageStore

end SessionSync
