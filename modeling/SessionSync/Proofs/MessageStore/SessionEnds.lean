import SessionSync.Proofs.MessageStore.Orphans

/-!
# What becomes of the tools of a session that ends

When a session enters a state that is not live, the tool uses that are unfinished and no
orphans yet become orphans (`Tracker.toOrphan`), and these are the ids that are reported.
Nothing else of the log changes, and a second end finds nothing left to do.
-/

set_option autoImplicit false

namespace SessionSync

namespace Tracker

variable (tracker : Tracker)

/-- The tool uses that become orphans if the session ends now. -/
def toOrphan : List String :=
  tracker.unfinished.keys.filter fun toolId => !tracker.isOrphaned toolId

variable {tracker} in
theorem mem_toOrphan {toolId : String} :
    toolId ∈ tracker.toOrphan ↔
      tracker.unfinished.contains toolId = true ∧ tracker.isOrphaned toolId = false := by
  simp [toOrphan, Table.mem_keys_iff]

theorem nodup_toOrphan : tracker.toOrphan.Nodup := tracker.unfinished.nodup_keys.filter _

variable {tracker} in
/-- Where there is nothing to orphan the end of a session changes nothing. -/
theorem orphanUnfinished_of_nothing (nothing : tracker.toOrphan = []) (reason : String) :
    (tracker.orphanUnfinished reason).1 = tracker := by
  show tracker.toOrphan.foldl (fun tracker toolId => tracker.markOrphaned toolId reason none)
    tracker = tracker
  rw [nothing]
  rfl

/-- No tool use is counted as unfinished by becoming an orphan. -/
theorem contains_unfinished_foldl_markOrphaned (reason : String) (ids : List String)
    {toolId : String}
    (counted : (ids.foldl (fun tracker id => tracker.markOrphaned id reason none)
      tracker).unfinished.contains toolId = true) :
    tracker.unfinished.contains toolId = true := by
  induction ids generalizing tracker with
  | nil => exact counted
  | cons id rest ih =>
      have before := ih (tracker.markOrphaned id reason none) counted
      have closed :
          (tracker.markOrphaned id reason none).unfinished = tracker.unfinished.erase id := rfl
      rw [closed, Table.contains_erase, Bool.and_eq_true] at before
      exact before.2

/-- After the end of a session there is nothing left to orphan. -/
theorem toOrphan_orphanUnfinished (reason : String) :
    (tracker.orphanUnfinished reason).1.toOrphan = [] := by
  refine List.eq_nil_iff_forall_not_mem.2 fun toolId member => ?_
  obtain ⟨counted, free⟩ := mem_toOrphan.1 member
  have before := tracker.contains_unfinished_foldl_markOrphaned reason _ counted
  rw [isOrphaned_orphanUnfinished, before] at free
  cases free

end Tracker

namespace MessageStore

variable (store : MessageStore) (sessionId : String) (state : SessionState)

/-- The ids that are reported are those of the tool uses that become orphans. -/
theorem snd_onSessionState :
    (store.onSessionState sessionId state).2 =
      if state.isLive then [] else (store.log sessionId).tracker.toOrphan := by
  unfold onSessionState
  split
  · rfl
  · cases stored : store.log? sessionId with
    | none =>
        rw [log_of_unseen stored]
        rfl
    | some log =>
        rw [log_of_log? stored]
        rfl

theorem messages_onSessionState :
    ((store.onSessionState sessionId state).1.log sessionId).messages =
      (store.log sessionId).messages := by
  rw [log_onSessionState]
  split <;> rfl

variable {sessionId state} in
/-- Where no tool use becomes an orphan the log is the one before. -/
theorem log_of_no_orphans (nothing : (store.onSessionState sessionId state).2 = []) :
    (store.onSessionState sessionId state).1.log sessionId = store.log sessionId := by
  rw [snd_onSessionState] at nothing
  rw [log_onSessionState]
  cases live : state.isLive with
  | true => rfl
  | false =>
      rw [live, if_neg Bool.false_ne_true] at nothing
      rw [if_neg Bool.false_ne_true, Log.onTracker, Tracker.orphanUnfinished_of_nothing nothing]

end MessageStore

end SessionSync
