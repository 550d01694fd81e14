import SessionSync.MessageStore
import SessionSync.Proofs.Log.Extraction

/-!
# Runs of the logs of all sessions

Every operation on the logs is a change of one session's log.  A run is a list of
such changes, in any order and with any messages.

A change leaves the logs of other sessions alone (`log?_after_of_ne`).  Its own
session's log it changes by one of the ways on which messages come, or in the tool
calls only, and what comes out depends on that log alone (`log_after`).
-/

set_option autoImplicit false

namespace SessionSync

/-- Something that happens to the logs of all sessions. -/
inductive StoreChange where
  | loadHistory (sessionId : String) (page : List Message)
      (stateOf : String → Option SessionState)
  | addMessage (sessionId : String) (message : Message)
  | mergeSync (sessionId : String) (page : List Message) (truncated : Bool)
  | clear (sessionId : String)
  | tools (sessionId : String) (change : TrackerChange)
  | display (sessionId : String) (display : Display)
  | sessionState (sessionId : String) (state : SessionState)
  | toggle (sessionId toolId : String)

/-- The session that a change is about. -/
def StoreChange.sessionId : StoreChange → String
  | .loadHistory sessionId _ _ | .addMessage sessionId _ | .mergeSync sessionId _ _
  | .clear sessionId | .tools sessionId _ | .display sessionId _ | .sessionState sessionId _
  | .toggle sessionId _ => sessionId

namespace MessageStore

/-- The logs after a change. -/
def after (store : MessageStore) : StoreChange → MessageStore
  | .loadHistory sessionId page stateOf => (store.loadHistory sessionId page stateOf).1
  | .addMessage sessionId message => (store.addMessage sessionId message).1
  | .mergeSync sessionId page truncated => (store.mergeSync sessionId page truncated).1
  | .clear sessionId => store.clear sessionId
  | .tools sessionId change => store.onTracker sessionId fun tracker => tracker.after change
  | .display sessionId display => store.applyDisplay sessionId display
  | .sessionState sessionId state => (store.onSessionState sessionId state).1
  | .toggle sessionId toolId => (store.toggleExpanded sessionId toolId).1

/-- The logs after a run of changes. -/
def run (store : MessageStore) (changes : List StoreChange) : MessageStore :=
  changes.foldl after store

@[simp] theorem run_nil (store : MessageStore) : store.run [] = store := rfl

@[simp] theorem run_cons (store : MessageStore) (change : StoreChange)
    (changes : List StoreChange) :
    store.run (change :: changes) = (store.after change).run changes := rfl

theorem run_append (store : MessageStore) (earlier later : List StoreChange) :
    store.run (earlier ++ later) = (store.run earlier).run later := List.foldl_append

/-- Logs that a run of changes makes of earlier ones. -/
def Precedes (before after : MessageStore) : Prop := ∃ changes, after = before.run changes

namespace Precedes

theorem refl (store : MessageStore) : store.Precedes store := ⟨[], rfl⟩

theorem trans {first second third : MessageStore} (earlier : first.Precedes second)
    (later : second.Precedes third) : first.Precedes third := by
  obtain ⟨front, rfl⟩ := earlier
  obtain ⟨back, rfl⟩ := later
  exact ⟨front ++ back, (first.run_append front back).symm⟩

theorem after (store : MessageStore) (change : StoreChange) :
    store.Precedes (store.after change) := ⟨[change], rfl⟩

end Precedes

/-! ## Writing one log -/

section Writing

variable (store : MessageStore) (sessionId : String)

theorem log?_put (log : Log) (probe : String) :
    (store.put sessionId log).log? probe =
      if probe = sessionId then some log else store.log? probe :=
  Table.find?_insert store.logs sessionId log probe

@[simp] theorem log_put (log : Log) : (store.put sessionId log).log sessionId = log := by
  simp [MessageStore.log, log?_put]

theorem log_put_of_ne (log : Log) {probe : String} (elsewhere : probe ≠ sessionId) :
    (store.put sessionId log).log probe = store.log probe := by
  rw [MessageStore.log, log?_put, if_neg elsewhere]
  rfl

theorem log?_clear (probe : String) :
    (store.clear sessionId).log? probe = if probe = sessionId then none else store.log? probe :=
  Table.find?_erase store.logs sessionId probe

variable {store sessionId}

theorem log_of_log? {log : Log} (stored : store.log? sessionId = some log) :
    store.log sessionId = log := by
  simp [MessageStore.log, stored]

theorem log_of_unseen (unseen : store.log? sessionId = none) :
    store.log sessionId = Log.new sessionId := by
  simp [MessageStore.log, unseen]

/-- Writing a log that is there changes nothing. -/
theorem put_of_log? {log : Log} (stored : store.log? sessionId = some log) :
    store.put sessionId log = store := by
  unfold put
  rw [Table.insert_of_find? stored]

end Writing

/-! ## Reading a log -/

section Reading

variable (store : MessageStore) (sessionId : String)

theorem messages_eq : store.messages sessionId = (store.log sessionId).messages := by
  unfold messages log
  cases store.log? sessionId <;> rfl

theorem toolCalls_eq : store.toolCalls sessionId = (store.log sessionId).tracker.inOrder := by
  unfold toolCalls log
  cases store.log? sessionId <;> rfl

theorem toolCall?_eq (toolId : String) :
    store.toolCall? sessionId toolId = (store.log sessionId).tracker.call? toolId := by
  unfold toolCall? log
  cases store.log? sessionId <;> rfl

theorem orphan?_eq (toolId : String) :
    store.orphan? sessionId toolId = (store.log sessionId).tracker.orphans.find? toolId := by
  unfold orphan? log
  cases store.log? sessionId <;> rfl

end Reading

@[simp] theorem log_empty (sessionId : String) : empty.log sessionId = Log.new sessionId := rfl

/-! ## What a change makes of its session's log -/

section Here

variable (store : MessageStore) (sessionId : String)

/-- Whether history shows that a session is over. -/
def isOver (stateOf : String → Option SessionState) (sessionId : String) : Bool :=
  (stateOf sessionId).any fun state => !state.isLive

theorem log_loadHistory (page : List Message) (stateOf : String → Option SessionState) :
    (store.loadHistory sessionId page stateOf).1.log sessionId =
      if isOver stateOf sessionId then
        ((store.log sessionId).loadPage page).onTracker fun tracker =>
          (tracker.orphanUnfinished terminatedReason).1
      else (store.log sessionId).loadPage page := by
  unfold loadHistory isOver
  dsimp only
  split
  · rw [log_put]
    rfl
  · rw [log_put]

@[simp] theorem log_addMessage (message : Message) :
    (store.addMessage sessionId message).1.log sessionId =
      ((store.log sessionId).add message).1 :=
  log_put _ _ _

@[simp] theorem log_mergeSync (page : List Message) (truncated : Bool) :
    (store.mergeSync sessionId page truncated).1.log sessionId =
      ((store.log sessionId).merge page).1 :=
  log_put _ _ _

@[simp] theorem log_clear : (store.clear sessionId).log sessionId = Log.new sessionId :=
  log_of_unseen (by simp [log?_clear])

@[simp] theorem log_onTracker (change : Tracker → Tracker) :
    (store.onTracker sessionId change).log sessionId =
      (store.log sessionId).onTracker change :=
  log_put _ _ _

@[simp] theorem log_applyDisplay (display : Display) :
    (store.applyDisplay sessionId display).log sessionId =
      (store.log sessionId).onTracker fun tracker =>
        (tracker.applyDisplayLinks display).applyDisplayStates display :=
  log_put _ _ _

/-- A session without a log has no tool uses that could become orphans. -/
theorem log_onSessionState (state : SessionState) :
    (store.onSessionState sessionId state).1.log sessionId =
      if state.isLive then store.log sessionId
      else (store.log sessionId).onTracker fun tracker =>
        (tracker.orphanUnfinished state.orphanReason).1 := by
  unfold onSessionState
  split
  · rfl
  · cases stored : store.log? sessionId with
    | none =>
        rw [log_of_unseen stored]
        rfl
    | some log =>
        dsimp only
        rw [log_put, log_of_log? stored]
        rfl

theorem log_toggleExpanded (toolId : String) :
    (store.toggleExpanded sessionId toolId).1.log sessionId =
      (store.log sessionId).onTracker fun tracker => (tracker.toggleExpanded toolId).1 := by
  unfold toggleExpanded
  cases stored : store.log? sessionId with
  | none =>
      rw [log_of_unseen stored]
      rfl
  | some log =>
      dsimp only
      rw [log_put, log_of_log? stored]
      rfl

variable {sessionId} in
/-- Where no tool call is expanded or collapsed the log is the one before. -/
theorem log_of_no_toggle {toolId : String}
    (nothing : (store.toggleExpanded sessionId toolId).2 = none) :
    (store.toggleExpanded sessionId toolId).1.log sessionId = store.log sessionId := by
  unfold toggleExpanded at nothing ⊢
  cases stored : store.log? sessionId with
  | none => rfl
  | some log =>
      simp only [stored] at nothing ⊢
      unfold Tracker.toggleExpanded at nothing ⊢
      cases held : log.tracker.call? toolId with
      | none => rw [log_put, log_of_log? stored]
      | some call =>
          rw [held] at nothing
          cases nothing

end Here

end MessageStore

/-- What a change makes of the log of its session. -/
def Log.after (log : Log) : StoreChange → Log
  | .loadHistory sessionId page stateOf =>
      if MessageStore.isOver stateOf sessionId then
        (log.loadPage page).onTracker fun tracker => (tracker.orphanUnfinished terminatedReason).1
      else log.loadPage page
  | .addMessage _ message => (log.add message).1
  | .mergeSync _ page _ => (log.merge page).1
  | .clear sessionId => Log.new sessionId
  | .tools _ change => log.onTracker fun tracker => tracker.after change
  | .display _ display =>
      log.onTracker fun tracker => (tracker.applyDisplayLinks display).applyDisplayStates display
  | .sessionState _ state =>
      if state.isLive then log
      else log.onTracker fun tracker => (tracker.orphanUnfinished state.orphanReason).1
  | .toggle _ toolId => log.onTracker fun tracker => (tracker.toggleExpanded toolId).1

namespace MessageStore

/-- **A change acts on the log of its session** and looks at nothing else. -/
theorem log_after (store : MessageStore) (change : StoreChange) :
    (store.after change).log change.sessionId = (store.log change.sessionId).after change := by
  cases change with
  | loadHistory sessionId page stateOf => exact store.log_loadHistory sessionId page stateOf
  | addMessage sessionId message => exact store.log_addMessage sessionId message
  | mergeSync sessionId page truncated => exact store.log_mergeSync sessionId page truncated
  | clear sessionId => exact store.log_clear sessionId
  | tools sessionId change => exact store.log_onTracker sessionId _
  | display sessionId display => exact store.log_applyDisplay sessionId display
  | sessionState sessionId state => exact store.log_onSessionState sessionId state
  | toggle sessionId toolId => exact store.log_toggleExpanded sessionId toolId

/-! ## What a change leaves alone -/

/-- **A change concerns its own session only.** -/
theorem log?_after_of_ne (store : MessageStore) {change : StoreChange} {probe : String}
    (elsewhere : probe ≠ change.sessionId) :
    (store.after change).log? probe = store.log? probe := by
  have other : ∀ log, (store.put change.sessionId log).log? probe = store.log? probe := by
    intro log
    rw [log?_put, if_neg elsewhere]
  cases change with
  | loadHistory sessionId page stateOf =>
      unfold after loadHistory
      dsimp only
      split
      · exact other _
      · exact other _
  | addMessage sessionId message => exact other _
  | mergeSync sessionId page truncated => exact other _
  | clear sessionId => exact (log?_clear store sessionId probe).trans (if_neg elsewhere)
  | tools sessionId change => exact other _
  | display sessionId display => exact other _
  | sessionState sessionId state =>
      show (store.onSessionState sessionId state).1.log? probe = store.log? probe
      unfold onSessionState
      split
      · rfl
      · cases store.log? sessionId with
        | none => rfl
        | some log => exact other _
  | toggle sessionId toolId =>
      show (store.toggleExpanded sessionId toolId).1.log? probe = store.log? probe
      unfold toggleExpanded
      cases store.log? sessionId with
      | none => rfl
      | some log => exact other _

theorem log_after_of_ne (store : MessageStore) {change : StoreChange} {probe : String}
    (elsewhere : probe ≠ change.sessionId) :
    (store.after change).log probe = store.log probe := by
  rw [MessageStore.log, log?_after_of_ne store elsewhere]
  rfl

end MessageStore

end SessionSync
