import SessionSync.Proofs.Log.Repetition
import SessionSync.Proofs.MessageStore.SessionEnds
import SessionSync.Proofs.MessageStore.ToolHistory
import SessionSync.Proofs.Tracker.Roster

/-!
# What the load of a page reports

A load reads its page into a tracker that may know calls and orphans already, counts the
unfinished tool uses anew and, if the session is over, orphans them.  The counts that it
reports are right because the new count stands between the two: the tool uses that are then
counted are exactly those whose calls wait and are no orphans (`Tracker.waiting`), whether
the page told of them or something before it did.

`loadHistory_accounts` says this from the calls themselves, and says what the load makes of
every call and of every orphan.
-/

set_option autoImplicit false

namespace SessionSync

namespace Tracker

/-- The calls that are neither finished nor orphans, in the order of their creation. -/
def waiting (tracker : Tracker) : List ToolCall :=
  tracker.inOrder.filter fun call =>
    call.status != .completed && call.status != .error && !tracker.isOrphaned call.toolId

theorem isTerminal_eq_false_iff (status : ToolStatus) :
    status.isTerminal = false ↔ status ≠ .completed ∧ status ≠ .error := by
  cases status <;> simp [ToolStatus.isTerminal]

/-! ## The calls that wait -/

section Waiting

variable {sessionId : String} {seen : List String} {tracker : Tracker}
  (roster : Roster sessionId seen tracker)
include roster

theorem mem_waiting {call : ToolCall} :
    call ∈ tracker.waiting ↔
      tracker.call? call.toolId = some call ∧ call.status.isTerminal = false ∧
        tracker.isOrphaned call.toolId = false := by
  have sorted : tracker.inOrder.Perm tracker.calls.values := sortByKey_perm _ _
  unfold waiting
  rw [List.mem_filter, sorted.mem_iff, isTerminal_eq_false_iff]
  simp only [Bool.and_eq_true, bne_iff_ne, Bool.not_eq_true']
  refine and_congr ⟨roster.of_mem_values, fun held => ?_⟩ Iff.rfl
  exact List.mem_map.2 ⟨(call.toolId, call), Table.mem_entries_iff.2 held, rfl⟩

/-- A new count finds the tool uses of the calls that wait. -/
theorem mem_toolIds_waiting {toolId : String} :
    toolId ∈ tracker.waiting.map ToolCall.toolId ↔
      tracker.recountUnfinished.unfinished.contains toolId = true := by
  have counted : tracker.recountUnfinished.unfinished.contains toolId =
      tracker.unfinishedCalls.contains toolId := Table.contains_mapValues _ _ _
  rw [counted, contains_unfinishedCalls, awaits, List.mem_map, Bool.and_eq_true,
    Bool.not_eq_true', Option.any_eq_true]
  constructor
  · rintro ⟨call, member, rfl⟩
    obtain ⟨held, waits, free⟩ := (mem_waiting roster).1 member
    exact ⟨⟨call, held, by rw [waits]; rfl⟩, free⟩
  · rintro ⟨⟨call, held, waits⟩, free⟩
    obtain ⟨-, here, -⟩ := roster.identity_of_call held
    subst here
    exact ⟨call, (mem_waiting roster).2 ⟨held, by simpa using waits, free⟩, rfl⟩

/-- A call of the table waits exactly if its tool use is counted. -/
theorem mem_waiting_of_call {toolId : String} {call : ToolCall}
    (held : tracker.call? toolId = some call) :
    call ∈ tracker.waiting ↔ toolId ∈ tracker.waiting.map ToolCall.toolId := by
  obtain ⟨-, here, -⟩ := roster.identity_of_call held
  constructor
  · intro member
    exact List.mem_map.2 ⟨call, member, here⟩
  · intro member
    obtain ⟨other, waits, same⟩ := List.mem_map.1 member
    have found := ((mem_waiting roster).1 waits).1
    rw [same, held, Option.some_inj] at found
    rwa [found]

theorem nodup_toolIds_waiting : (tracker.waiting.map ToolCall.toolId).Nodup := by
  have part : (tracker.waiting.map ToolCall.toolId).Sublist
      (tracker.inOrder.map ToolCall.toolId) := List.filter_sublist.map _
  exact part.nodup (roster.inOrder_toolId ▸ nodup_eraseDups seen)

/-- **The new count** is the number of the calls that wait. -/
theorem size_recountUnfinished :
    tracker.recountUnfinished.unfinished.size = tracker.waiting.length := by
  have same : (tracker.waiting.map ToolCall.toolId).Perm
      tracker.recountUnfinished.unfinished.keys := by
    refine (List.perm_ext_iff_of_nodup (nodup_toolIds_waiting roster)
      (Table.nodup_keys _)).2 fun toolId => ?_
    rw [mem_toolIds_waiting roster, Table.mem_keys_iff]
  have counted := same.length_eq
  rw [List.length_map, Table.keys, List.length_map] at counted
  exact counted.symm

end Waiting

/-! ## Orphaning what a new count has found -/

/-- None of the tool uses that a new count finds is an orphan. -/
theorem toOrphan_recountUnfinished (tracker : Tracker) :
    tracker.recountUnfinished.toOrphan = tracker.recountUnfinished.unfinished.keys := by
  refine List.filter_eq_self.2 fun toolId member => ?_
  have counted : tracker.recountUnfinished.unfinished.contains toolId =
      tracker.unfinishedCalls.contains toolId := Table.contains_mapValues _ _ _
  rw [Table.mem_keys_iff, counted, contains_unfinishedCalls] at member
  exact (Bool.and_eq_true_iff.1 member).2

section OrphanUnfinished

variable (tracker : Tracker) (reason toolId : String)

/-- A notice with no message of its own. -/
def noticeFor (reason toolId : String) : OrphanNotice := { toolId, reason, message := none }

/-- The verdict on a tool use of a list on which all have the same one. -/
theorem judged?_noticeFor (ids : List String) :
    judged? (ids.map (noticeFor reason)) toolId =
      if toolId ∈ ids then some { reason, message := Orphan.defaultMessage } else none := by
  induction ids using List.reverseRecOn with
  | nil => rfl
  | append_singleton rest id ih =>
      rw [List.map_append, List.map_singleton, judged?_concat, ih]
      by_cases here : id = toolId
      · simp [noticeFor, here, OrphanNotice.orphan]
      · simp [noticeFor, here, Ne.symm here]

/-- To orphan what is unfinished is to go through a list of notices about it. -/
theorem orphanUnfinished_eq :
    (tracker.orphanUnfinished reason).1 =
      (tracker.toOrphan.map (noticeFor reason)).foldl
        (fun tracker notice => tracker.markOrphaned notice.toolId notice.reason notice.message)
        tracker := by
  rw [List.foldl_map]
  rfl

theorem call?_orphanUnfinished :
    (tracker.orphanUnfinished reason).1.call? toolId =
      (tracker.call? toolId).map fun call =>
        if toolId ∈ tracker.toOrphan then orphanCall reason call else call := by
  obtain ⟨call, -, -⟩ :=
    foldl_markOrphaned_notices tracker (tracker.toOrphan.map (noticeFor reason)) toolId
  rw [orphanUnfinished_eq, call, judged?_noticeFor]
  by_cases member : toolId ∈ tracker.toOrphan
  · simp only [if_pos member]
    rfl
  · simp only [if_neg member]
    rfl

theorem find?_orphans_orphanUnfinished :
    (tracker.orphanUnfinished reason).1.orphans.find? toolId =
      if toolId ∈ tracker.toOrphan then some { reason, message := Orphan.defaultMessage }
      else tracker.orphans.find? toolId := by
  obtain ⟨-, orphan, -⟩ :=
    foldl_markOrphaned_notices tracker (tracker.toOrphan.map (noticeFor reason)) toolId
  rw [orphanUnfinished_eq, orphan, judged?_noticeFor]
  split
  · rfl
  · rfl

/-- Nothing is added to a roster by the end of a session. -/
theorem Roster.orphanUnfinished {sessionId : String} {seen : List String} {tracker : Tracker}
    (roster : Roster sessionId seen tracker) (reason : String) :
    Roster sessionId seen (tracker.orphanUnfinished reason).1 := by
  have further := roster.step (.orphanUnfinished reason)
  have unsighted : tracker.sightings (.orphanUnfinished reason) = [] := rfl
  rwa [unsighted, List.append_nil] at further

/-- After a new count no call that waits escapes the end of the session. -/
theorem isOrphaned_of_counted {tracker : Tracker} {reason toolId : String} {call : ToolCall}
    (held : (tracker.recountUnfinished.orphanUnfinished reason).1.call? toolId = some call)
    (waits : call.status.isTerminal = false) :
    (tracker.recountUnfinished.orphanUnfinished reason).1.isOrphaned toolId = true := by
  have awaited : tracker.recountUnfinished.awaits toolId = true := by
    rw [← awaits_orphanUnfinished _ _ reason, awaits, held, Option.any_some, waits]
    rfl
  rw [isOrphaned_orphanUnfinished_iff awaited, isStranded_recountUnfinished]
  exact Bool.false_ne_true

end OrphanUnfinished

end Tracker

namespace MessageStore

/-! ## The load -/

/-- A page holds as many messages as it has ids. -/
theorem length_ofPage (page : List Message) :
    (Log.ofPage page).length = (Log.idsOf page).eraseDups.length := by
  have ids : (Log.idsOf (Log.firstOfEach {} page)).Perm (Log.idsOf page).eraseDups := by
    refine (List.perm_ext_iff_of_nodup (Log.nodup_idsOf_firstOfEach _ _)
      (nodup_eraseDups _)).2 fun id => ?_
    rw [Log.mem_idsOf_firstOfEach, List.mem_eraseDups]
    simp
  rw [Log.ofPage, (sortByKey_perm _ _).length_eq, ← ids.length_eq, Log.idsOf, List.length_map]

/-- The tool calls of a session are listed by a roster at any time, also while a page is
read. -/
theorem roster_read (changes : List StoreChange) (sessionId : String) (messages : List Message) :
    ∃ seen, Tracker.Roster sessionId seen
      (messages.foldl Log.extract ((empty.run changes).log sessionId)).tracker := by
  have new : (empty.log sessionId).tracker = (Tracker.new sessionId).run [] := rfl
  rw [Log.foldl_extract_eq, tracker_log_run new changes, ← Tracker.run_append]
  exact ⟨_, Tracker.roster_run sessionId _⟩

section Load

variable (store : MessageStore) (sessionId : String) (page : List Message)
  (stateOf : String → Option SessionState)

/-- A load reads its page and counts anew. -/
theorem tracker_loadPage (log : Log) :
    (log.loadPage page).tracker =
      ((Log.ofPage page).foldl Log.extract log).tracker.recountUnfinished := by
  rw [Log.loadPage_eq, Log.foldl_extract_eq]

/-- What a load reports, in terms of the tool uses that a new count finds. -/
theorem counts_loadHistory :
    let read := ((Log.ofPage page).foldl Log.extract (store.log sessionId)).tracker
    let load := (store.loadHistory sessionId page stateOf).2
    load.loaded = (Log.ofPage page).length ∧
      load.openTools = read.recountUnfinished.unfinished.size ∧
        load.orphaned =
          if isOver stateOf sessionId then read.recountUnfinished.toOrphan.length else 0 := by
  intro read load
  have messages : ((store.log sessionId).loadPage page).messages = Log.ofPage page := rfl
  have counted : ((store.log sessionId).loadPage page).tracker = read.recountUnfinished :=
    tracker_loadPage page (store.log sessionId)
  unfold load loadHistory isOver
  dsimp only
  rw [messages, counted]
  split
  · exact ⟨rfl, rfl, rfl⟩
  · exact ⟨rfl, rfl, rfl⟩

/-- What a load makes of the tool calls. -/
theorem tracker_loadHistory :
    let read := ((Log.ofPage page).foldl Log.extract (store.log sessionId)).tracker
    ((store.loadHistory sessionId page stateOf).1.log sessionId).tracker =
      if isOver stateOf sessionId then
        (read.recountUnfinished.orphanUnfinished terminatedReason).1
      else read.recountUnfinished := by
  intro read
  rw [log_loadHistory]
  split
  · rw [Log.onTracker, tracker_loadPage]
  · exact tracker_loadPage page _

end Load

/-- **The account of a load.**  Whatever has happened to the logs, a load reports as many
messages as its page has ids, and as many open tools as there are calls, old or new, that
are neither finished nor orphans once the page has been read.  If the session is over,
exactly these become orphans, for the reason that the session was terminated, and all are
reported; then every call is finished or an orphan.  Otherwise none is reported, and the
load changes no call and no orphan beyond what the page says. -/
theorem loadHistory_accounts (changes : List StoreChange) (sessionId : String)
    (page : List Message) (stateOf : String → Option SessionState) :
    let read := ((Log.ofPage page).foldl Log.extract ((empty.run changes).log sessionId)).tracker
    let after := ((empty.run changes).loadHistory sessionId page stateOf).1
    let load := ((empty.run changes).loadHistory sessionId page stateOf).2
    load.loaded = (Log.idsOf page).eraseDups.length ∧
      load.openTools = read.waiting.length ∧
      if isOver stateOf sessionId then
        load.orphaned = load.openTools ∧
          (∀ toolId, after.toolCall? sessionId toolId = (read.call? toolId).map fun call =>
            if call ∈ read.waiting then Tracker.orphanCall terminatedReason call else call) ∧
          (∀ toolId, after.orphan? sessionId toolId =
            if toolId ∈ read.waiting.map ToolCall.toolId then
              some { reason := terminatedReason, message := Orphan.defaultMessage }
            else read.orphans.find? toolId) ∧
          ∀ call ∈ after.toolCalls sessionId, call.status = .completed ∨ call.status = .error ∨
            (after.orphan? sessionId call.toolId).isSome = true
      else
        load.orphaned = 0 ∧
          (∀ toolId, after.toolCall? sessionId toolId = read.call? toolId) ∧
          ∀ toolId, after.orphan? sessionId toolId = read.orphans.find? toolId := by
  intro read after load
  obtain ⟨seen, roster⟩ := roster_read changes sessionId (Log.ofPage page)
  have told : load.loaded = (Log.ofPage page).length ∧
      load.openTools = read.recountUnfinished.unfinished.size ∧
        load.orphaned = if isOver stateOf sessionId then
          read.recountUnfinished.toOrphan.length else 0 :=
    counts_loadHistory _ sessionId page stateOf
  have written : (after.log sessionId).tracker =
      if isOver stateOf sessionId then
        (read.recountUnfinished.orphanUnfinished terminatedReason).1
      else read.recountUnfinished := tracker_loadHistory _ sessionId page stateOf
  obtain ⟨loaded, openTools, orphaned⟩ := told
  refine ⟨loaded.trans (length_ofPage page),
    openTools.trans (Tracker.size_recountUnfinished roster), ?_⟩
  split
  case isTrue ended =>
    rw [if_pos ended] at orphaned written
    have listed : ∀ toolId, toolId ∈ read.recountUnfinished.toOrphan ↔
        toolId ∈ read.waiting.map ToolCall.toolId := by
      intro toolId
      rw [Tracker.toOrphan_recountUnfinished, Table.mem_keys_iff,
        Tracker.mem_toolIds_waiting roster]
    refine ⟨?reported, fun toolId => ?call, fun toolId => ?orphan, fun call member => ?settled⟩
    case reported =>
      rw [orphaned, openTools, Tracker.toOrphan_recountUnfinished, Table.keys, List.length_map]
      rfl
    case call =>
      rw [toolCall?_eq, written, Tracker.call?_orphanUnfinished]
      refine Option.map_congr fun call held => ?_
      have waits : call ∈ read.waiting ↔ toolId ∈ read.waiting.map ToolCall.toolId :=
        Tracker.mem_waiting_of_call roster held
      exact if_congr ((listed toolId).trans waits.symm) rfl rfl
    case orphan =>
      rw [orphan?_eq, written, Tracker.find?_orphans_orphanUnfinished]
      simp only [listed]
      rfl
    case settled =>
      rw [toolCalls_eq, written] at member
      have listing := (roster.kept ⟨rfl, rfl, fun _ => rfl⟩ :
        Tracker.Roster sessionId seen read.recountUnfinished).orphanUnfinished terminatedReason
      have held := listing.of_mem_values ((sortByKey_perm _ _).mem_iff.1 member)
      cases final : call.status.isTerminal with
      | true =>
          cases status : call.status <;> simp [status, ToolStatus.isTerminal] at final ⊢
      | false =>
          rw [orphan?_eq, written]
          exact Or.inr (Or.inr (Tracker.isOrphaned_of_counted held final))
  case isFalse live =>
    rw [if_neg live] at orphaned written
    refine ⟨orphaned, fun toolId => ?_, fun toolId => ?_⟩
    · rw [toolCall?_eq, written]
      rfl
    · rw [orphan?_eq, written]
      rfl

/-- A call from before the load is counted and orphaned like one that the page brings. -/
theorem loadHistory_accounts_of_terminated :
    let use (toolId : String) : ToolUse := { toolId, name := "Bash", input := .null }
    let changes : List StoreChange := [.tools "s" (.toolUse (use "old"))]
    let page := [Message.ofBlocks "m" .assistant 0 [.toolUse (use "new")]]
    let after := ((empty.run changes).loadHistory "s" page fun _ => some .terminated).1
    let load := ((empty.run changes).loadHistory "s" page fun _ => some .terminated).2
    let orphan : Orphan := { reason := terminatedReason, message := Orphan.defaultMessage }
    load.loaded = 1 ∧ load.openTools = 2 ∧ load.orphaned = 2 ∧
      after.orphan? "s" "old" = some orphan ∧ after.orphan? "s" "new" = some orphan := by
  intro use changes page after load orphan
  obtain ⟨loaded, openTools, outcome⟩ :=
    loadHistory_accounts changes "s" page fun _ => some .terminated
  obtain ⟨orphaned, -, orphans, -⟩ := outcome
  have two : load.openTools = 2 := openTools.trans (by decide +kernel)
  refine ⟨loaded.trans (by decide +kernel), two, orphaned.trans two, ?_, ?_⟩
  · exact (orphans "old").trans (by decide +kernel)
  · exact (orphans "new").trans (by decide +kernel)

end MessageStore

end SessionSync
