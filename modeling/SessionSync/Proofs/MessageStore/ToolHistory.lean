import SessionSync.Proofs.MessageStore.Changes

/-!
# The tool history of a session

Whatever happens to the logs, it reaches the tool calls of a session as a list of
changes of its tracker.  The list depends on the log at that moment: a message that
is known already says nothing again.

So the tool calls of a session are at any time those of a new tracker after its
tool history, the changes since its log was last forgotten
(`tracker_log_run`).
-/

set_option autoImplicit false

namespace SessionSync

/-- Whether a change forgets its session's log. -/
def StoreChange.forgets : StoreChange → Bool
  | .clear _ => true
  | _ => false

namespace Log

/-- What a change says about the tool uses of a log's session. -/
def told (log : Log) : StoreChange → List TrackerChange
  | .loadHistory sessionId page stateOf =>
      (ofPage page).flatMap Message.changes ++ .recount ::
        if MessageStore.isOver stateOf sessionId then [.orphanUnfinished terminatedReason] else []
  | .addMessage _ message =>
      if log.ids.contains message.messageId then [] else message.changes
  | .mergeSync _ page _ => (log.missing page).flatMap Message.changes
  | .clear _ => []
  | .tools _ change => [change]
  | .display _ display => [.displayLinks display, .displayStates display]
  | .sessionState _ state =>
      if state.isLive then [] else [.orphanUnfinished state.orphanReason]
  | .toggle _ toolId => [.toggle toolId]

/-- A log that is not forgotten changes its tool calls by what it is told. -/
theorem tracker_after (log : Log) {change : StoreChange} (keeps : change.forgets = false) :
    (log.after change).tracker = log.tracker.run (log.told change) := by
  cases change with
  | loadHistory sessionId page stateOf =>
      rw [Log.after, loadPage_eq, told, Tracker.run_append, Tracker.run_cons]
      split
      · rfl
      · rfl
  | addMessage sessionId message =>
      rw [Log.after, told]
      cases known : log.ids.contains message.messageId with
      | true =>
          rw [add_of_contains known]
          rfl
      | false =>
          rw [add_eq known]
          rfl
  | mergeSync sessionId page truncated =>
      rw [Log.after, told]
      by_cases nothing : log.missing page = []
      · rw [merge_of_nothing nothing, nothing]
        rfl
      · rw [merge_eq nothing]
  | clear sessionId => cases keeps
  | tools sessionId change => rfl
  | display sessionId display => rfl
  | sessionState sessionId state =>
      rw [Log.after, told]
      split
      · rfl
      · rfl
  | toggle sessionId toolId => rfl

/-- A log that is forgotten begins anew. -/
theorem after_of_forgets (log : Log) {change : StoreChange} (forgets : change.forgets = true) :
    log.after change = new change.sessionId := by
  cases change with
  | clear sessionId => rfl
  | _ => cases forgets

end Log

namespace MessageStore

/-- The tool history of a session after one more change. -/
def toldAfter (store : MessageStore) (sessionId : String) (told : List TrackerChange)
    (change : StoreChange) : List TrackerChange :=
  if change.sessionId = sessionId then
    if change.forgets then [] else told ++ (store.log sessionId).told change
  else told

/-- The tool history of a session after a run, from the history before it. -/
def toolHistory (store : MessageStore) (sessionId : String) (told : List TrackerChange) :
    List StoreChange → List TrackerChange
  | [] => told
  | change :: rest =>
      (store.after change).toolHistory sessionId (store.toldAfter sessionId told change) rest

/-- One change keeps the tool calls of every session in step with its tool
history. -/
theorem tracker_log_toldAfter {store : MessageStore} {sessionId : String}
    {told : List TrackerChange}
    (inStep : (store.log sessionId).tracker = (Tracker.new sessionId).run told)
    (change : StoreChange) :
    ((store.after change).log sessionId).tracker =
      (Tracker.new sessionId).run (store.toldAfter sessionId told change) := by
  unfold toldAfter
  split
  · rename_i here
    subst here
    rw [store.log_after]
    cases forgets : change.forgets with
    | true =>
        rw [Log.after_of_forgets _ forgets]
        rfl
    | false =>
        rw [Log.tracker_after _ forgets, inStep, if_neg Bool.false_ne_true, Tracker.run_append]
  · rename_i elsewhere
    rw [store.log_after_of_ne (Ne.symm elsewhere), inStep]

/-- **The tool calls of a session are those of a new tracker after its tool
history.** -/
theorem tracker_log_run {store : MessageStore} {sessionId : String} {told : List TrackerChange}
    (inStep : (store.log sessionId).tracker = (Tracker.new sessionId).run told)
    (changes : List StoreChange) :
    ((store.run changes).log sessionId).tracker =
      (Tracker.new sessionId).run (store.toolHistory sessionId told changes) := by
  induction changes generalizing store told with
  | nil => exact inStep
  | cons change rest ih => exact ih (tracker_log_toldAfter inStep change)

end MessageStore

end SessionSync
