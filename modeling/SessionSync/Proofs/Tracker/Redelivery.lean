import SessionSync.Proofs.MessageStore.SessionEnds
import SessionSync.Proofs.Tracker.DisplayOrder
import SessionSync.Proofs.Tracker.Events

/-!
# What comes a second time changes nothing

A record, an event, a display block or a verdict may be delivered twice, and a new count or
the end of a session may be asked for twice.  In the same reading the second time finds
everything as the first left it: the tracker is the same in every part, and a permission
request or its answer reaches the same tool use (`after_after`).  This holds in every tracker,
whatever has happened to it.

A request without a tool id is the least obvious: the first time its signature finds the
tool use, the second time its link does, and the link is the one that the first has
written.  A display block may count a tool use as unfinished that its own list of orphans
takes out again; it does both each time.

A display block that is sent twice is read twice, and the second reading may walk its states
in another order.  By then every state has its call, so only a request that two states speak
of shows the order (`redelivered_changes_nothing_iff`).
-/

set_option autoImplicit false

namespace SessionSync

/-- Whether a change turns something over each time it comes. -/
def TrackerChange.isToggle : TrackerChange → Bool
  | .toggle _ => true
  | _ => false

namespace Tracker

/-- The tool use that a request or an answer is attached to. -/
def attached? (tracker : Tracker) : TrackerChange → Option String
  | .permissionRequest request => (tracker.onPermissionRequest request).2
  | .permissionResponse response => (tracker.onPermissionResponse response).2
  | _ => none

end Tracker

namespace TrackerChange

/-- Two changes by two readings of one thing: only display blocks can be read in more than one
way. -/
inductive AlikeButOrder : TrackerChange → TrackerChange → Prop
  | same (change : TrackerChange) : AlikeButOrder change change
  | links {left right : Display} (alike : left.AlikeButOrder right) :
      AlikeButOrder (.displayLinks left) (.displayLinks right)
  | states {left right : Display} (alike : left.AlikeButOrder right) :
      AlikeButOrder (.displayStates left) (.displayStates right)

/-- The permission requests that the states of a change speak of. -/
def requestsShown : TrackerChange → List String
  | .displayStates display => requestsOf display.shown
  | _ => []

end TrackerChange

namespace Tracker

/-- Two trackers that answer every look-up alike are equal. -/
theorem ext_lookups {left right : Tracker} (session : left.sessionId = right.sessionId)
    (calls : ∀ toolId, left.call? toolId = right.call? toolId)
    (signatures : left.signatures = right.signatures) (links : left.links = right.links)
    (orphans : ∀ toolId, left.orphans.find? toolId = right.orphans.find? toolId)
    (unfinished : ∀ toolId, left.unfinished.contains toolId = right.unfinished.contains toolId)
    (nextSeq : left.nextSeq = right.nextSeq) : left = right := by
  have sameCalls : left.calls = right.calls := Table.ext_find? calls
  have sameOrphans : left.orphans = right.orphans := Table.ext_find? orphans
  have sameUnfinished : left.unfinished = right.unfinished := KeySet.ext_contains unfinished
  cases left
  cases right
  simp_all

/-! ## Records -/

section Records

variable (tracker : Tracker)

theorem onToolUse_onToolUse (toolUse : ToolUse) :
    (tracker.onToolUse toolUse).onToolUse toolUse = tracker.onToolUse toolUse := by
  have held := tracker.call?_onToolUse toolUse
  generalize tracker.callOrStart toolUse.toolId toolUse.name toolUse.input = call at held
  have named : (nameAs toolUse call).signature = toolSignature toolUse.name toolUse.input := by
    unfold nameAs
    split
    · assumption
    · rfl
  generalize tracker.onToolUse toolUse = told at held ⊢
  unfold onToolUse
  rw [held]
  exact if_pos named

/-- A request that its call has taken in, and that is linked, changes nothing. -/
theorem onPermissionRequest_of_asked {tracker : Tracker} {request : PermissionRequest}
    {toolId : String} {call : ToolCall} (target : tracker.requestTarget? request = some toolId)
    (linked : tracker.requested? request.requestId = some toolId)
    (held : tracker.call? toolId = some call) (asked : askFor request call = call) :
    tracker.onPermissionRequest request = (tracker, some toolId) := by
  unfold onPermissionRequest
  rw [target]
  dsimp only
  rw [link_of_requested linked, ensure_of_call held, modify_of_fixed held asked]

theorem onPermissionRequest_onPermissionRequest (request : PermissionRequest) :
    (tracker.onPermissionRequest request).1.onPermissionRequest request =
      tracker.onPermissionRequest request := by
  cases target : tracker.requestTarget? request with
  | none =>
      have unattached : tracker.onPermissionRequest request = (tracker, none) := by
        unfold onPermissionRequest
        rw [target]
      rw [unattached, unattached]
  | some toolId =>
      have attached : (tracker.onPermissionRequest request).2 = some toolId := by
        unfold onPermissionRequest
        rw [target]
      have linked := tracker.requested?_onPermissionRequest target request.requestId
      rw [if_pos rfl] at linked
      -- The id that the request names, or else the link that it has just written.
      have again : (tracker.onPermissionRequest request).1.requestTarget? request =
          some toolId := by
        unfold requestTarget? at target ⊢
        rw [linked]
        cases named : request.toolId with
        | none => rfl
        | some namedId =>
            rw [named] at target
            exact target
      rw [onPermissionRequest_of_asked again linked (tracker.call?_onPermissionRequest target)
        askFor_askFor, ← attached]

/-- An answer that its call has taken in, and that is linked, changes nothing. -/
theorem onPermissionResponse_of_answered {tracker : Tracker} {response : PermissionResponse}
    {toolId : String} {call : ToolCall} (target : tracker.responseTarget? response = some toolId)
    (linked : tracker.requested? response.requestId = some toolId)
    (held : tracker.call? toolId = some call) (answered : answerWith response call = call) :
    tracker.onPermissionResponse response = (tracker, some toolId) := by
  have finished : (!call.status.isTerminal && response.decision == .deny) = false := by
    have ended := isTerminal_answerWith response call
    rw [answered] at ended
    cases decided : response.decision with
    | allow => exact Bool.and_false _
    | deny =>
        rw [decided, beq_self_eq_true, Bool.or_true] at ended
        rw [ended]
        rfl
  unfold responseTarget? at target
  unfold onPermissionResponse
  rw [target]
  dsimp only
  rw [link_of_requested linked, held]
  dsimp only
  rw [modify_of_fixed held answered, finished]
  rfl

/-- An answer that reaches no call changes nothing but its link. -/
theorem onPermissionResponse_of_new {tracker : Tracker} {response : PermissionResponse}
    {toolId : String} (target : tracker.responseTarget? response = some toolId)
    (unknown : tracker.call? toolId = none) :
    tracker.onPermissionResponse response = (tracker.link response.requestId toolId, none) := by
  have linked : (tracker.link response.requestId toolId).call? toolId = none := unknown
  unfold responseTarget? at target
  unfold onPermissionResponse
  rw [target]
  dsimp only
  rw [linked]

theorem onPermissionResponse_onPermissionResponse (response : PermissionResponse) :
    (tracker.onPermissionResponse response).1.onPermissionResponse response =
      tracker.onPermissionResponse response := by
  cases target : tracker.responseTarget? response with
  | none =>
      have unattached : tracker.onPermissionResponse response = (tracker, none) := by
        unfold responseTarget? at target
        unfold onPermissionResponse
        rw [target]
      rw [unattached, unattached]
  | some toolId =>
      have linked := tracker.requested?_onPermissionResponse target response.requestId
      rw [if_pos rfl] at linked
      have again : (tracker.onPermissionResponse response).1.responseTarget? response =
          some toolId := by
        unfold responseTarget? at target ⊢
        rw [linked]
        cases named : response.toolId with
        | none => rfl
        | some namedId =>
            rw [named] at target
            exact target
      have becomes := tracker.call?_onPermissionResponse target
      cases held : tracker.call? toolId with
      | none =>
          rw [held, Option.map_none] at becomes
          rw [onPermissionResponse_of_new again becomes, link_of_requested linked,
            onPermissionResponse_of_new target held]
      | some call =>
          have attached : (tracker.onPermissionResponse response).2 = some toolId := by
            have linkedCall : (tracker.link response.requestId toolId).call? toolId = some call :=
              held
            unfold responseTarget? at target
            unfold onPermissionResponse
            rw [target]
            dsimp only
            rw [linkedCall]
          rw [held, Option.map_some] at becomes
          rw [onPermissionResponse_of_answered again linked becomes answerWith_answerWith,
            ← attached]

theorem onToolResult_onToolResult (result : ToolResult) :
    (tracker.onToolResult result).onToolResult result = tracker.onToolResult result := by
  have held := tracker.call?_onToolResult result
  have pardoned : (tracker.onToolResult result).orphans.find? result.toolId = none := by
    rw [orphans_onToolResult, Table.find?_erase, if_pos rfl]
  have closed : (tracker.onToolResult result).unfinished.contains result.toolId = false := by
    refine (contains_unfinished_close _ _ _).trans ?_
    simp
  generalize tracker.onToolResult result = told at held pardoned closed ⊢
  have finished : told.modify result.toolId (finishWith result) = told :=
    modify_of_fixed held finishWith_finishWith
  unfold finishWith at finished
  unfold onToolResult
  rw [ensure_of_call held]
  dsimp only
  rw [finished, Table.erase_of_find? pardoned]
  exact close_of_not_contains closed

end Records

/-! ## Events with the whole state -/

section Events

variable (tracker : Tracker) (event : ToolEvent)

theorem assignEvent_assignEvent (call : ToolCall) :
    assignEvent event (assignEvent event call) = assignEvent event call := by
  rw [assignEvent_eq, assignEvent_eq]
  cases event.brought <;> cases event.asked <;> cases event.decided <;> cases event.suggested <;>
    cases event.outcome <;> cases call.outcome <;> simp

variable {tracker event} in
/-- An event whose state is all there changes nothing. -/
theorem onToolEvent_of_told {call : ToolCall} (held : tracker.call? event.toolId = some call)
    (told : assignEvent event call = call)
    (linked : ∀ requestId, event.asked = some requestId →
      tracker.requested? requestId = some event.toolId)
    (settled : event.outcome.isSome = true → tracker.orphans.find? event.toolId = none)
    (counted : tracker.unfinished.contains event.toolId =
      !(ToolStatus.ofState event.state).isTerminal) :
    tracker.onToolEvent event = tracker := by
  unfold onToolEvent
  rw [ensure_of_call held]
  extract_lets ensured assigned afterLink afterPardon indexed
  have unchanged : assigned = tracker := modify_of_fixed held told
  have first : afterLink = tracker := by
    unfold afterLink
    rw [unchanged]
    cases asked : event.permission with
    | none => rfl
    | some permission =>
        refine link_of_requested (linked permission.requestId ?_)
        unfold ToolEvent.asked
        rw [asked]
        rfl
  have second : afterPardon = tracker := by
    unfold afterPardon
    rw [first]
    split
    · rename_i reported
      rw [Table.erase_of_find? (settled reported)]
    · rfl
  have third : indexed = tracker := by
    unfold indexed
    rw [unchanged, held, second]
    exact if_pos rfl
  rw [third]
  split
  · rename_i final
    rw [final] at counted
    exact close_of_not_contains counted
  · rename_i waiting
    rw [Bool.not_eq_true] at waiting
    rw [waiting] at counted
    exact reopen_of_contains counted

theorem onToolEvent_onToolEvent :
    (tracker.onToolEvent event).onToolEvent event = tracker.onToolEvent event := by
  refine onToolEvent_of_told (tracker.call?_onToolEvent event) (assignEvent_assignEvent event _)
    (fun requestId asked => ?linked) (fun reported => ?settled)
    (tracker.contains_unfinished_onToolEvent event)
  case linked => rw [requested?_onToolEvent, if_pos asked]
  case settled => rw [orphans_onToolEvent, if_pos reported, Table.find?_erase, if_pos rfl]

end Events

/-! ## Display blocks -/

section Displays

variable (tracker : Tracker)

theorem applyDisplayLinks_applyDisplayLinks (display : Display) :
    (tracker.applyDisplayLinks display).applyDisplayLinks display =
      tracker.applyDisplayLinks display := by
  unfold applyDisplayLinks
  cases display.links with
  | none => rfl
  | some links =>
      dsimp only
      rw [foldl_link, foldl_link, Table.foldl_insert_foldl_insert]

/-- Links that states have written are written by the same states again. -/
theorem foldl_linkShown_foldl_linkShown (entries : List (String × DisplayedTool))
    (links : Table String) :
    entries.foldl linkShown (entries.foldl linkShown links) = entries.foldl linkShown links := by
  have written : ∀ start : Table String, entries.foldl linkShown start =
      (entries.filterMap fun entry => entry.2.requestId.map fun requestId =>
        (requestId, entry.1)).foldl (fun links entry => links.insert entry.1 entry.2) start := by
    intro start
    rw [List.foldl_filterMap]
    congr 1
    funext links entry
    unfold linkShown
    cases entry.2.requestId <;> rfl
  rw [written, written, Table.foldl_insert_foldl_insert]

theorem links_applyDisplayStates (display : Display) :
    (tracker.applyDisplayStates display).links = display.shown.foldl linkShown tracker.links := by
  rw [applyDisplayStates_eq, applyDisplayedTools_eq]
  cases display.orphans with
  | none => exact links_applyShown
  | some notices => exact (links_replaceOrphans _ notices).trans links_applyShown

/-- The state that is shown of a tool use decides whether it is counted. -/
theorem contains_foldl_countShown {entries : List (String × DisplayedTool)}
    (distinct : (entries.map Prod.fst).Nodup) (unfinished : KeySet) (toolId : String) :
    (entries.foldl countShown unfinished).contains toolId =
      ((valueAt? toolId entries).map fun tool =>
        !(ToolStatus.ofState tool.state).isTerminal).getD (unfinished.contains toolId) := by
  induction entries generalizing unfinished with
  | nil => rfl
  | cons entry rest ih =>
      obtain ⟨fresh, others⟩ := List.nodup_cons.1 distinct
      rw [List.foldl_cons, ih others, contains_countShown, valueAt?]
      by_cases here : toolId = entry.1
      · have absent : valueAt? toolId rest = none :=
          valueAt?_eq_none_of_forall fun other member same =>
            fresh (List.mem_map.2 ⟨other, member, same.symm.trans here⟩)
        rw [absent, if_pos here, if_pos here.symm]
        rfl
      · rw [if_neg here, if_neg (Ne.symm here)]

variable {display again : Display} (alike : display.AlikeButOrder again)
include alike

/-- The states of a block that is read again are still shown after its list of orphans. -/
theorem shown_replaceOrphans (notices : List OrphanNotice) :
    ∀ entry ∈ again.shown, ∃ call,
      ((tracker.applyShown display.shown).replaceOrphans notices).call? entry.1 = some call ∧
        shownAs entry.2 call = call := by
  intro entry member
  obtain ⟨call, held, shown⟩ :=
    shown_applyShown tracker display.nodup_shown entry (alike.shown.mem_iff.2 member)
  refine ⟨_, ?_, shownAs_ruleOn shown (judged? notices entry.1)
    ((tracker.applyShown display.shown).isOrphaned entry.1)⟩
  rw [call?_replaceOrphans, held, Option.map_some]

/-- **A block that is read again** finds its states shown and its orphans listed.  It writes
its links once more, in the order of the new reading, and nothing else. -/
theorem applyDisplayStates_applyDisplayStates :
    (tracker.applyDisplayStates display).applyDisplayStates again =
      { tracker.applyDisplayStates display with
        links := again.shown.foldl linkShown (tracker.applyDisplayStates display).links } := by
  have sameState := valueAt?_perm alike.shown display.nodup_shown
  simp only [applyDisplayStates_eq, applyDisplayedTools_eq, ← alike.orphans]
  cases display.orphans with
  | none =>
      have shown : ∀ entry ∈ again.shown, ∃ call,
          (tracker.applyShown display.shown).call? entry.1 = some call ∧
            shownAs entry.2 call = call := fun entry member =>
        shown_applyShown tracker display.nodup_shown entry (alike.shown.mem_iff.2 member)
      dsimp only
      rw [applyShown_of_shown shown]
      refine ext_lookups rfl (fun _ => rfl) rfl rfl (fun _ => rfl) (fun toolId => ?_) rfl
      dsimp only
      rw [unfinished_applyShown, contains_foldl_countShown again.nodup_shown,
        contains_foldl_countShown display.nodup_shown, sameState]
      cases valueAt? toolId again.shown <;> rfl
  | some notices =>
      dsimp only
      rw [applyShown_of_shown (tracker.shown_replaceOrphans alike notices)]
      refine ext_lookups ?session (fun toolId => ?calls) ?signatures ?links
        (fun toolId => ?orphans) (fun toolId => ?count) ?nextSeq
      case session => simp
      case signatures => simp
      case nextSeq => simp
      case links => simp
      case orphans =>
        refine (find?_orphans_replaceOrphans _ notices toolId).trans ?_
        exact (find?_orphans_replaceOrphans _ notices toolId).symm
      case calls =>
        -- The first list has left its own verdicts, which the second finds.
        have known := (tracker.applyShown display.shown).isOrphaned_replaceOrphans notices toolId
        refine (call?_replaceOrphans _ notices toolId).trans ?_
        show Option.map (ruleOn (judged? notices toolId)
          (((tracker.applyShown display.shown).replaceOrphans notices).isOrphaned toolId))
            (((tracker.applyShown display.shown).replaceOrphans notices).call? toolId) =
              ((tracker.applyShown display.shown).replaceOrphans notices).call? toolId
        rw [known, call?_replaceOrphans, Option.map_map]
        congr 1
        funext call
        exact ruleOn_ruleOn _ _ _
      case count =>
        -- A tool use on the list is taken out each time; the others are counted as they were.
        simp only [contains_unfinished_replaceOrphans, unfinished_applyShown,
          contains_foldl_countShown again.nodup_shown,
          contains_foldl_countShown display.nodup_shown, sameState]
        cases judged? notices toolId with
        | some orphan => rfl
        | none => cases valueAt? toolId again.shown <;> rfl

/-- A reading of a block in which no second state speaks of a request leaves its link as it is. -/
theorem requested?_applyDisplayStates_again {requestId : String}
    (single : (requestsOf display.shown).count requestId ≤ 1) :
    ((tracker.applyDisplayStates display).applyDisplayStates again).requested? requestId =
      (tracker.applyDisplayStates display).requested? requestId := by
  rw [applyDisplayStates_applyDisplayStates tracker alike]
  unfold requested?
  dsimp only
  rw [links_applyDisplayStates, ← find?_foldl_linkShown_perm alike.shown _ single,
    foldl_linkShown_foldl_linkShown]

omit alike in
/-- A block that every reading leaves as it was speaks of no request twice: the two states could
be read in either order, and the link tells which was the last. -/
theorem nodup_requestsOf_of_again
    (same : ∀ again, display.AlikeButOrder again →
      (tracker.applyDisplayStates display).applyDisplayStates again =
        tracker.applyDisplayStates display) :
    (requestsOf display.shown).Nodup := by
  have linked : ∀ order, order.Perm display.shown → ∀ requestId,
      ((tracker.applyDisplayStates display).applyStatesIn display order).requested? requestId =
        (tracker.applyDisplayStates display).requested? requestId := by
    intro order perm requestId
    obtain ⟨again, alike, told⟩ := exists_reading display perm (tracker.applyDisplayStates display)
    rw [told, same again alike]
  exact nodup_requestsOf display linked

end Displays

/-! ## Verdicts and counts -/

section Verdicts

variable (tracker : Tracker)

theorem markOrphaned_markOrphaned (toolId reason : String) (message : Option String) :
    (tracker.markOrphaned toolId reason message).markOrphaned toolId reason message =
      tracker.markOrphaned toolId reason message := by
  unfold markOrphaned
  generalize ({ reason, message := message.getD Orphan.defaultMessage } : Orphan) = orphan
  refine ext_lookups rfl (fun probe => ?_) rfl rfl (fun probe => ?_) (fun probe => ?_) rfl
  · rw [call?_recordOrphan, call?_recordOrphan, if_pos rfl]
    by_cases here : probe = toolId
    · rw [if_pos here, here, Option.map_map, call?_recordOrphan, if_pos rfl]
      rfl
    · rw [if_neg here]
  · rw [orphans_recordOrphan, orphans_recordOrphan, Table.insert_of_find?]
    exact Table.find?_insert_self _ _ _
  · rw [contains_unfinished_recordOrphan, contains_unfinished_recordOrphan, ← Bool.and_assoc,
      Bool.and_self]

/-- After the end of a session nothing is left for a second one. -/
theorem orphanUnfinished_orphanUnfinished (reason : String) :
    ((tracker.orphanUnfinished reason).1.orphanUnfinished reason).1 =
      (tracker.orphanUnfinished reason).1 :=
  orphanUnfinished_of_nothing (tracker.toOrphan_orphanUnfinished reason) reason

end Verdicts

/-! ## Every change -/

/-- What comes a second time in the same reading changes nothing. -/
theorem after_after (tracker : Tracker) {change : TrackerChange}
    (delivered : change.isToggle = false) :
    (tracker.after change).after change = tracker.after change ∧
      (tracker.after change).attached? change = tracker.attached? change := by
  cases change with
  | toolUse toolUse => exact ⟨tracker.onToolUse_onToolUse toolUse, rfl⟩
  | permissionRequest request =>
      have again := tracker.onPermissionRequest_onPermissionRequest request
      exact ⟨congrArg Prod.fst again, congrArg Prod.snd again⟩
  | permissionResponse response =>
      have again := tracker.onPermissionResponse_onPermissionResponse response
      exact ⟨congrArg Prod.fst again, congrArg Prod.snd again⟩
  | toolResult result => exact ⟨tracker.onToolResult_onToolResult result, rfl⟩
  | toolEvent event => exact ⟨tracker.onToolEvent_onToolEvent event, rfl⟩
  | displayLinks display => exact ⟨tracker.applyDisplayLinks_applyDisplayLinks display, rfl⟩
  | displayStates display =>
      have again := tracker.applyDisplayStates_applyDisplayStates (.refl display)
      rw [links_applyDisplayStates, foldl_linkShown_foldl_linkShown,
        ← links_applyDisplayStates] at again
      exact ⟨again, rfl⟩
  | markOrphaned toolId reason message =>
      exact ⟨tracker.markOrphaned_markOrphaned toolId reason message, rfl⟩
  | orphanUnfinished reason => exact ⟨tracker.orphanUnfinished_orphanUnfinished reason, rfl⟩
  | recount => exact ⟨rfl, rfl⟩
  | toggle toolId => cases delivered

/-- A request that names no tool use is found by its signature the first time and by its
link the second time. -/
example :
    let request : PermissionRequest :=
      { requestId := "r", toolName := "Bash", input := .null, toolId := none, suggestions := [] }
    let tracker := (new "s").onToolUse { toolId := "t", name := "Bash", input := .null }
    tracker.requested? "r" = none ∧ tracker.onPermissionRequest request =
      (tracker.onPermissionRequest request).1.onPermissionRequest request := by decide +kernel

/-- **What comes a second time.**  Whatever a tracker has gone through, let a record, an event,
a part of a display block, a verdict, the end of a session or a new count come twice.  In the
same reading it changes nothing in any part of the tracker.  In another reading it changes
nothing either, but for the link of a request that two states of a display block speak of;
and a request or an answer is attached to the same tool use both times.  So every reading
changes nothing at all exactly if no two states speak of one request. -/
theorem redelivered_changes_nothing_iff (tracker : Tracker) {change : TrackerChange}
    (delivered : change.isToggle = false) :
    let once := tracker.after change
    once.after change = once ∧
      (∀ again, change.AlikeButOrder again →
        once.after again = { once with links := (once.after again).links } ∧
          (∀ requestId, 1 < change.requestsShown.count requestId ∨
            (once.after again).requested? requestId = once.requested? requestId) ∧
          once.attached? again = tracker.attached? change) ∧
      ((∀ again, change.AlikeButOrder again → once.after again = once) ↔
        change.requestsShown.Nodup) := by
  intro once
  have same : once.after change = once := (tracker.after_after delivered).1
  have attached : once.attached? change = tracker.attached? change :=
    (tracker.after_after delivered).2
  have reread : ∀ again, change.AlikeButOrder again →
      once.after again = { once with links := (once.after again).links } ∧
        (∀ requestId, 1 < change.requestsShown.count requestId ∨
          (once.after again).requested? requestId = once.requested? requestId) ∧
        once.attached? again = tracker.attached? change := by
    intro again alike
    cases alike with
    | same change => exact ⟨by rw [same], fun _ => Or.inr (by rw [same]), attached⟩
    | @links left right alike =>
        have unchanged : once.after (.displayLinks right) = once :=
          (applyDisplayLinks_congr alike.links once).symm.trans same
        exact ⟨by rw [unchanged], fun _ => Or.inr (by rw [unchanged]), rfl⟩
    | @states left right alike =>
        have twice := tracker.applyDisplayStates_applyDisplayStates alike
        refine ⟨twice.trans (congrArg (fun links => { once with links }) ?_), fun requestId => ?_, rfl⟩
        · exact (congrArg links twice).symm
        · rcases Nat.lt_or_ge 1 ((requestsOf left.shown).count requestId) with shared | single
          · exact Or.inl shared
          · exact Or.inr (tracker.requested?_applyDisplayStates_again alike single)
  refine ⟨same, reread, fun always => ?unshared, fun unshared again alike => ?always⟩
  case unshared =>
    cases change with
    | displayStates display =>
        exact tracker.nodup_requestsOf_of_again fun again alike => always _ (.states alike)
    | _ => exact List.nodup_nil
  case always =>
    obtain ⟨twice, linked, -⟩ := reread again alike
    have links : (once.after again).links = once.links :=
      Table.ext_find? fun requestId => (linked requestId).resolve_left
        (Nat.not_lt.2 (List.nodup_iff_count_le_one.1 unshared requestId))
    rw [twice, links]

/-- A block whose two states speak of one request.  The same reading of it changes nothing; a
reading in the other order takes the request from the one tool use to the other. -/
theorem redelivered_changes_nothing_iff_of_shared :
    let asks : DisplayedTool :=
      { state := .awaitingPermission, toolName := none, requestId := some "r" }
    let first : Display :=
      { tools := some ⟨[("t", asks), ("u", asks)], by simp⟩, orphans := none, links := none }
    let second : Display :=
      { tools := some ⟨[("u", asks), ("t", asks)], by simp⟩, orphans := none, links := none }
    let change := TrackerChange.displayStates first
    let once := (new "s").after change
    change.isToggle = false ∧ change.AlikeButOrder (.displayStates second) ∧
      once.after change = once ∧ once.requested? "r" = some "u" ∧
      (once.after (.displayStates second)).requested? "r" = some "t" ∧
      ¬ ∀ again, change.AlikeButOrder again → once.after again = once := by
  intro asks first second change once
  have alike : first.AlikeButOrder second := ⟨rfl, List.Perm.swap _ _ _, rfl, rfl⟩
  obtain ⟨same, -, exactly⟩ :=
    redelivered_changes_nothing_iff (new "s") (show change.isToggle = false from rfl)
  have shared : ¬ change.requestsShown.Nodup := by decide +kernel
  exact ⟨rfl, .states alike, same, by decide +kernel, by decide +kernel,
    fun always => shared (exactly.1 always)⟩

end Tracker

end SessionSync
