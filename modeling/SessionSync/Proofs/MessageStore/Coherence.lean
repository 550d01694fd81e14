import SessionSync.Proofs.Log.Coherence
import SessionSync.Proofs.MessageStore.Changes

/-!
# Coherence over runs

Every log is coherent at any time: it ascends, repeats no id, holds exactly the ids
of its messages, and has the time of one of them as its watermark.  A change of the
logs keeps the coherence of all of them (`coherent_after`), so a run that begins
with no log at all never leaves it.
-/

set_option autoImplicit false

namespace SessionSync

/-- A change of a log keeps it coherent. -/
theorem Log.Coherent.after {log : Log} (coherent : log.Coherent) (change : StoreChange) :
    (log.after change).Coherent := by
  cases change with
  | loadHistory sessionId page stateOf =>
      have loaded := Log.coherent_loadPage log page
      unfold Log.after
      dsimp only
      split
      · exact loaded.withTracker _
      · exact loaded
  | addMessage sessionId message => exact Log.coherent_add coherent message
  | mergeSync sessionId page truncated => exact Log.coherent_merge coherent page
  | clear sessionId => exact Log.coherent_new sessionId
  | tools sessionId change => exact coherent.withTracker _
  | display sessionId display => exact coherent.withTracker _
  | sessionState sessionId state =>
      unfold Log.after
      dsimp only
      split
      · exact coherent
      · exact coherent.withTracker _
  | toggle sessionId toolId => exact coherent.withTracker _

namespace MessageStore

/-- Every session has a coherent log, if only a new one. -/
def Coherent (store : MessageStore) : Prop := ∀ sessionId, (store.log sessionId).Coherent

theorem coherent_empty : empty.Coherent := Log.coherent_new

/-- **One change keeps every log coherent.** -/
theorem coherent_after {store : MessageStore} (coherent : store.Coherent)
    (change : StoreChange) : (store.after change).Coherent := by
  intro probe
  by_cases here : probe = change.sessionId
  · subst here
    rw [store.log_after]
    exact (coherent change.sessionId).after change
  · rw [store.log_after_of_ne here]
    exact coherent probe

/-- A run keeps every log coherent. -/
theorem Coherent.run {store : MessageStore} (coherent : store.Coherent)
    (changes : List StoreChange) : (store.run changes).Coherent := by
  induction changes generalizing store with
  | nil => exact coherent
  | cons change rest ih => exact ih (coherent_after coherent change)

/-- **Logs stay coherent.**  Whatever happened since there was no log, in whatever
order and with whatever messages, a session's log ascends in the times of its
messages, repeats no id, holds exactly their ids, and has no watermark exactly if
it is empty and else the time of one of its messages. -/
theorem log_coherent_of_run (changes : List StoreChange) (sessionId : String) :
    ((empty.run changes).log sessionId).Coherent :=
  coherent_empty.run changes sessionId

end MessageStore

end SessionSync
