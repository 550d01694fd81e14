import SessionSync.Proofs.Log.Merging
import SessionSync.Proofs.MessageStore.Coherence

/-!
# Merging pages into the logs of sessions

Whatever has happened to a session's log, a page that is merged into it does what the
plain rule for its news says, and merged again it does nothing at all
(`merges_stably`).
-/

set_option autoImplicit false

namespace SessionSync.MessageStore

/-- **A page is merged stably, and once.**  After any changes, let the news of a page be
those of its messages that are behind the watermark of a session's log and not held, the
first of each id.  Then the log becomes the one before with the news behind it, sorted
stably by the times; as many messages are reported as there are news; what was held keeps
its order; without news the log stays as it was, and else the watermark becomes the
largest time of the news.  The same page again is reported to bring nothing, and leaves
every log with all that follows from it. -/
theorem merges_stably (changes : List StoreChange) (sessionId : String) (page : List Message)
    (truncated : Bool) :
    let store := empty.run changes
    let log := store.log sessionId
    let news := log.news page
    let merged := (store.mergeSync sessionId page truncated).1
    (merged.log sessionId).messages =
        (log.messages ++ news).mergeSort (fun left right => left.millis ≤ right.millis) ∧
      (store.mergeSync sessionId page truncated).2 = { synced := news.length, truncated } ∧
      log.messages.Sublist (merged.log sessionId).messages ∧
      (news = [] → merged.log sessionId = log) ∧
      (news ≠ [] → (merged.log sessionId).watermark = (news.map Message.millis).max?) ∧
      ∀ again, merged.mergeSync sessionId page again =
        (merged, { synced := 0, truncated := again }) := by
  intro store log news merged
  have coherent : log.Coherent := log_coherent_of_run changes sessionId
  have here : merged.log sessionId = (log.merge page).1 :=
    store.log_mergeSync sessionId page truncated
  have sorted : (merged.log sessionId).messages =
      (log.messages ++ news).mergeSort fun left right => left.millis ≤ right.millis := by
    rw [here, Log.messages_merge coherent, sortByKey_eq_mergeSort]
  refine ⟨sorted, ?counted, ?kept, ?nothing, ?mark, ?again⟩
  case counted =>
    show SyncOutcome.mk (log.merge page).2 truncated = _
    rw [Log.snd_merge coherent]
  case kept =>
    rw [sorted]
    apply List.sublist_mergeSort (le_trans_of_key _) (le_total_of_key _)
    · exact coherent.ordered.imp decide_eq_true
    · exact List.sublist_append_left _ _
  case nothing =>
    intro nothing
    rw [here, Log.merge_of_nothing ((Log.missing_eq_nil_iff coherent).2 nothing)]
  case mark =>
    intro something
    rw [here, Log.watermark_merge coherent]
    cases largest : (news.map Message.millis).max? with
    | none =>
        rw [List.max?_eq_none_iff, List.map_eq_nil_iff] at largest
        exact absurd largest something
    | some mark => rfl
  case again =>
    intro again
    have stored : merged.log? sessionId = some (log.merge page).1 := by
      show (store.put sessionId (log.merge page).1).log? sessionId = _
      rw [log?_put, if_pos rfl]
    unfold mergeSync
    dsimp only
    rw [here, Log.merge_merge coherent]
    dsimp only
    rw [put_of_log? stored]

end SessionSync.MessageStore
