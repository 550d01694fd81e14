import SessionSync.Proofs.MessageStore.DisplayBlocks
import SessionSync.Proofs.Tracker.Redelivery

/-!
# What messages tell of one tool use

Of everything that a message changes, only a little concerns any one tool use.  A change
that comes in a message tells something of it, or nothing (`Tracker.tellings`): a telling
assigns parts of its call, and all but answers and verdicts create the call if there is
none.  A display block may tell two things, a state and a verdict.

What becomes of the call follows from its tellings alone (`Tracker.call?_after_of_isRead`),
so what every telling keeps, every run of messages keeps.

What messages write of orphans depends on no tracker at all (`Tracker.find?_orphans_run`), and
what they write of links only through the tool use that a request is attached to
(`Tracker.requested?_after`).
-/

set_option autoImplicit false

namespace SessionSync

/-- What a change of a message writes down of a verdict: that there is none, or one of its
list. -/
def TrackerChange.verdictFor? (change : TrackerChange) (toolId : String) :
    Option (Option Orphan) :=
  match change with
  | .toolResult result => if result.toolId = toolId then some none else none
  | .toolEvent event => if event.toolId = toolId ∧ event.outcome.isSome then some none else none
  | .displayStates display => display.orphans.map fun notices => Tracker.judged? notices toolId
  | _ => none

/-- Something that a message tells of a tool use. -/
inductive Telling where
  | named (toolUse : ToolUse)
  | asked (request : PermissionRequest)
  | answered (response : PermissionResponse)
  | finished (result : ToolResult)
  | assigned (event : ToolEvent)
  | displayed (tool : DisplayedTool)
  /-- A list of orphans: its verdict, and whether there was one before. -/
  | ruled (verdict : Option Orphan) (known : Bool)

namespace Telling

open Tracker

/-- What a telling makes of the call. -/
def on : Telling → ToolCall → ToolCall
  | named toolUse => nameAs toolUse
  | asked request => askFor request
  | answered response => answerWith response
  | finished result => finishWith result
  | assigned event => assignEvent event
  | displayed tool => shownAs tool
  | ruled verdict known => ruleOn verdict known

/-- The name and the input of the call that a telling creates where there is none.  An
answer and a verdict create none. -/
def sight? : Telling → Option (String × Json)
  | named toolUse => some (toolUse.name, toolUse.input)
  | asked request => some (request.toolName, request.input)
  | finished _ => some ("", .null)
  | assigned event => some (event.toolName, event.input)
  | displayed tool => some (tool.toolName.getD "", .null)
  | answered _ | ruled _ _ => none

/-- What becomes of a call that there may be. -/
def tell (fresh : String → Json → ToolCall) (call : Option ToolCall) (telling : Telling) :
    Option ToolCall :=
  match telling.sight? with
  | some (name, input) => some (telling.on (call.getD (fresh name input)))
  | none => call.map telling.on

section Tell

variable {fresh : String → Json → ToolCall} {motive : ToolCall → Prop} {tellings : List Telling}

theorem tell_some (fresh : String → Json → ToolCall) (call : ToolCall) (telling : Telling) :
    tell fresh (some call) telling = some (telling.on call) := by
  unfold tell
  cases telling.sight? <;> rfl

variable (keeps : ∀ (telling : Telling) call, motive call → motive (telling.on call))
include keeps

/-- A call stays, and keeps what every telling keeps. -/
theorem foldl_tell_some {call : ToolCall} (held : motive call) :
    ∃ after, tellings.foldl (tell fresh) (some call) = some after ∧ motive after := by
  induction tellings generalizing call with
  | nil => exact ⟨call, rfl, held⟩
  | cons telling rest ih =>
      rw [List.foldl_cons, tell_some]
      exact ih (keeps telling call held)

/-- What a call has from its beginning and every telling keeps, it has. -/
theorem kept_foldl_tell (begins : ∀ name input, motive (fresh name input)) {call : Option ToolCall}
    (held : ∀ before, call = some before → motive before) :
    ∀ after, tellings.foldl (tell fresh) call = some after → motive after := by
  induction tellings generalizing call with
  | nil => exact held
  | cons telling rest ih =>
      refine ih fun after told => ?_
      unfold tell at told
      cases sight : telling.sight? with
      | none =>
          rw [sight] at told
          obtain ⟨before, same, rfl⟩ := Option.map_eq_some_iff.1 told
          exact keeps telling before (held before same)
      | some seen =>
          rw [sight] at told
          cases told
          refine keeps telling _ ?_
          cases same : call with
          | none => exact begins _ _
          | some before => exact held before same

end Tell

end Telling

namespace Tracker

open Telling (tell)

/-- What a change of a message tells of a tool use. -/
def tellings (tracker : Tracker) (change : TrackerChange) (toolId : String) : List Telling :=
  match change with
  | .toolUse toolUse => if toolUse.toolId = toolId then [.named toolUse] else []
  | .permissionRequest request =>
      if tracker.attached? change = some toolId then [.asked request] else []
  | .permissionResponse response =>
      if tracker.attached? change = some toolId then [.answered response] else []
  | .toolResult result => if result.toolId = toolId then [.finished result] else []
  | .toolEvent event => if event.toolId = toolId then [.assigned event] else []
  | .displayStates display =>
      ((display.tool? toolId).map .displayed).toList ++
        (display.orphans.map fun notices =>
          .ruled (judged? notices toolId) (tracker.isOrphaned toolId)).toList
  | _ => []

section Closed

variable (tracker : Tracker)

theorem attached?_permissionRequest (request : PermissionRequest) :
    tracker.attached? (.permissionRequest request) = tracker.requestTarget? request := by
  show (tracker.onPermissionRequest request).2 = _
  unfold onPermissionRequest
  cases tracker.requestTarget? request <;> rfl

/-- An answer is attached to the tool use that it is about, if that has a call. -/
theorem attached?_permissionResponse (response : PermissionResponse) :
    tracker.attached? (.permissionResponse response) =
      (tracker.responseTarget? response).filter fun toolId => (tracker.call? toolId).isSome := by
  show (tracker.onPermissionResponse response).2 = _
  unfold onPermissionResponse responseTarget?
  cases response.toolId.or (tracker.requested? response.requestId) with
  | none => rfl
  | some toolId =>
      have linked : (tracker.link response.requestId toolId).call? toolId =
          tracker.call? toolId := rfl
      dsimp only
      rw [linked]
      cases held : tracker.call? toolId <;> simp [Option.filter, held]

/-- The states of a block tell a tool use its own one. -/
theorem call?_applyShown {entries : List (String × DisplayedTool)}
    (distinct : (entries.map Prod.fst).Nodup) (toolId : String) :
    ∃ seq, (tracker.applyShown entries).call? toolId =
      ((valueAt? toolId entries).map Telling.displayed).toList.foldl
        (tell fun name input => ToolCall.start tracker.sessionId toolId name input seq)
        (tracker.call? toolId) := by
  induction entries generalizing tracker with
  | nil => exact ⟨0, rfl⟩
  | cons entry rest ih =>
      obtain ⟨fresh, others⟩ := List.nodup_cons.1 distinct
      have session := (tracker.sighted_applyDisplayedTool entry.1 entry.2).session
      rw [applyShown_cons, valueAt?]
      by_cases here : toolId = entry.1
      · subst here
        have shown := tracker.call?_applyDisplayedTool_self entry.1 entry.2
        have absent : valueAt? entry.1 rest = none :=
          valueAt?_eq_none_of_forall fun other member same =>
            fresh (List.mem_map.2 ⟨other, member, same.symm⟩)
        refine ⟨tracker.nextSeq, ?_⟩
        rw [call?_applyShown_of_call others shown, absent, if_pos rfl]
        rfl
      · obtain ⟨seq, told⟩ := ih (tracker.applyDisplayedTool entry.1 entry.2) others
        have kept := (tracker.sameAt_applyDisplayedTool here entry.2).call
        exact ⟨seq, by rw [told, kept, session, if_neg here]⟩

/-- **One change of a message**, and the call of a tool use. -/
theorem call?_after_of_isRead {change : TrackerChange} (read : change.isRead = true)
    (toolId : String) :
    ∃ seq, (tracker.after change).call? toolId =
      (tracker.tellings change toolId).foldl
        (tell fun name input => ToolCall.start tracker.sessionId toolId name input seq)
        (tracker.call? toolId) := by
  cases change with
  | toolUse toolUse =>
      refine ⟨tracker.nextSeq, ?_⟩
      simp only [tellings]
      split
      · rename_i here
        subst here
        exact tracker.call?_onToolUse toolUse
      · rename_i elsewhere
        exact (tracker.sameAt_onToolUse (Ne.symm elsewhere)).call
  | permissionRequest request =>
      refine ⟨tracker.nextSeq, ?_⟩
      simp only [tellings]
      split
      · rename_i here
        rw [attached?_permissionRequest] at here
        exact tracker.call?_onPermissionRequest here
      · rename_i elsewhere
        rw [attached?_permissionRequest] at elsewhere
        exact (tracker.sameAt_onPermissionRequest elsewhere).call
  | permissionResponse response =>
      refine ⟨tracker.nextSeq, ?_⟩
      simp only [tellings]
      split
      · rename_i here
        rw [attached?_permissionResponse, Option.filter_eq_some_iff] at here
        exact tracker.call?_onPermissionResponse here.1
      · rename_i elsewhere
        rw [attached?_permissionResponse, Option.filter_eq_some_iff, not_and] at elsewhere
        by_cases here : tracker.responseTarget? response = some toolId
        · -- The tool use has no call yet, so the answer only writes a link.
          have unknown : tracker.call? toolId = none := by simpa using elsewhere here
          refine (tracker.call?_onPermissionResponse here).trans ?_
          rw [unknown]
          rfl
        · exact (tracker.sameAt_onPermissionResponse here).call
  | toolResult result =>
      refine ⟨tracker.nextSeq, ?_⟩
      simp only [tellings]
      split
      · rename_i here
        subst here
        exact tracker.call?_onToolResult result
      · rename_i elsewhere
        exact (tracker.sameAt_onToolResult (Ne.symm elsewhere)).call
  | toolEvent event =>
      refine ⟨tracker.nextSeq, ?_⟩
      simp only [tellings]
      split
      · rename_i here
        subst here
        exact tracker.call?_onToolEvent event
      · rename_i elsewhere
        exact (tracker.sameAt_onToolEvent (Ne.symm elsewhere)).call
  | displayLinks display => exact ⟨0, (tracker.sameAt_applyDisplayLinks display).call⟩
  | displayStates display =>
      obtain ⟨seq, shown⟩ := tracker.call?_applyShown display.nodup_shown toolId
      rw [Display.valueAt?_shown] at shown
      refine ⟨seq, ?_⟩
      simp only [tellings, after]
      rw [applyDisplayStates_eq, applyDisplayedTools_eq, List.foldl_append, ← shown]
      cases display.orphans with
      | none => rfl
      | some notices =>
          have verdict : ((tracker.applyShown display.shown).standing toolId).verdict =
              (tracker.standing toolId).verdict := by
            rw [← applyDisplayedTools_eq, standing_applyDisplayedTools]
            split <;> rfl
          have known : (tracker.applyShown display.shown).isOrphaned toolId =
              tracker.isOrphaned toolId := congrArg Option.isSome verdict
          refine ((tracker.applyShown display.shown).call?_replaceOrphans notices toolId).trans ?_
          rw [known]
          rfl
  | _ => cases read

end Closed

/-! ## Runs -/

section Runs

variable {tracker : Tracker} {changes : List TrackerChange} {motive : ToolCall → Prop}
  (read : ∀ change ∈ changes, change.isRead = true)
  (keeps : ∀ (telling : Telling) call, motive call → motive (telling.on call))
include read keeps

/-- A call stays while messages are read, and keeps what every telling keeps. -/
theorem call?_run_of_call {toolId : String} {call : ToolCall}
    (held : tracker.call? toolId = some call) (begins : motive call) :
    ∃ after, (tracker.run changes).call? toolId = some after ∧ motive after := by
  induction changes generalizing tracker call with
  | nil => exact ⟨call, held, begins⟩
  | cons change rest ih =>
      obtain ⟨seq, told⟩ := tracker.call?_after_of_isRead (read change List.mem_cons_self) toolId
      obtain ⟨next, same, stays⟩ := Telling.foldl_tell_some keeps begins
      rw [held] at told
      exact ih (fun later member => read later (List.mem_cons_of_mem _ member))
        (told.trans same) stays

/-- What a new call has and every telling keeps, every call has. -/
theorem forall_call?_run
    (begins : ∀ sessionId toolId name input seq,
      motive (ToolCall.start sessionId toolId name input seq))
    (before : ∀ toolId call, tracker.call? toolId = some call → motive call) :
    ∀ toolId call, (tracker.run changes).call? toolId = some call → motive call := by
  induction changes generalizing tracker with
  | nil => exact before
  | cons change rest ih =>
      refine ih (fun later member => read later (List.mem_cons_of_mem _ member))
        fun toolId call held => ?_
      obtain ⟨seq, told⟩ := tracker.call?_after_of_isRead (read change List.mem_cons_self) toolId
      exact Telling.kept_foldl_tell keeps (fun name input => begins _ _ name input seq)
        (before toolId) call (told.symm.trans held)

end Runs

/-! ## Orphans and links -/

section Written

variable {change : TrackerChange} (read : change.isRead = true)
include read

theorem find?_orphans_after (tracker : Tracker) (toolId : String) :
    (tracker.after change).orphans.find? toolId =
      (change.verdictFor? toolId).getD (tracker.orphans.find? toolId) := by
  have of_orphans : ∀ {after : Tracker}, after.orphans = tracker.orphans →
      after.orphans.find? toolId = tracker.orphans.find? toolId := fun same => by rw [same]
  cases change with
  | toolUse toolUse => exact of_orphans (tracker.orphans_onToolUse toolUse)
  | permissionRequest request => exact of_orphans (tracker.orphans_onPermissionRequest request)
  | permissionResponse response =>
      exact of_orphans (tracker.orphans_onPermissionResponse response)
  | toolResult result =>
      simp only [after, TrackerChange.verdictFor?]
      rw [orphans_onToolResult, Table.find?_erase]
      by_cases here : result.toolId = toolId
      · simp [here]
      · simp [here, Ne.symm here]
  | toolEvent event =>
      simp only [after, TrackerChange.verdictFor?]
      rw [orphans_onToolEvent]
      by_cases here : event.toolId = toolId
      · cases event.outcome <;> simp [here, Table.find?_erase]
      · cases event.outcome <;> simp [here, Ne.symm here, Table.find?_erase]
  | displayLinks display => exact (tracker.sameAt_applyDisplayLinks display).orphan
  | displayStates display =>
      have told : (tracker.applyDisplayedTools display).orphans.find? toolId =
          tracker.orphans.find? toolId := by
        have stands : ((tracker.applyDisplayedTools display).standing toolId).verdict = _ :=
          congrArg Standing.verdict (tracker.standing_applyDisplayedTools display)
        refine stands.trans ?_
        split <;> rfl
      simp only [after, TrackerChange.verdictFor?]
      rw [applyDisplayStates_eq]
      cases display.orphans with
      | none => exact told
      | some notices => exact find?_orphans_replaceOrphans _ notices toolId
  | _ => cases read

/-- A request or an answer that is attached alike writes the same link in two trackers, or
none that was not there; everything else writes links without regard to the tracker. -/
theorem requested?_after {first second : Tracker}
    (attached : second.attached? change = first.attached? change) {requestId : String}
    {last : Option String} (before : second.requested? requestId = first.requested? requestId ∨
      second.requested? requestId = last) :
    (second.after change).requested? requestId = (first.after change).requested? requestId ∨
      (second.after change).requested? requestId = last := by
  have of_links : ∀ {first' second' : Tracker}, first'.links = first.links →
      second'.links = second.links →
        second'.requested? requestId = first'.requested? requestId ∨
          second'.requested? requestId = last := by
    intro first' second' same same'
    unfold requested? at before ⊢
    rwa [same, same']
  -- What is written in front of the links there are.
  have of_or : ∀ written : Option String,
      written.or (second.requested? requestId) = written.or (first.requested? requestId) ∨
        written.or (second.requested? requestId) = last := by
    intro written
    cases written with
    | none => exact before
    | some toolId => exact Or.inl rfl
  cases change with
  | toolUse toolUse =>
      exact of_links (first.links_onToolUse toolUse) (second.links_onToolUse toolUse)
  | toolResult result =>
      exact of_links (first.links_onToolResult result) (second.links_onToolResult result)
  | toolEvent event =>
      simp only [after]
      rw [requested?_onToolEvent, requested?_onToolEvent]
      split
      · exact Or.inl rfl
      · exact before
  | displayLinks display =>
      simp only [after]
      rw [requested?_applyDisplayLinks, requested?_applyDisplayLinks]
      exact of_or _
  | displayStates display =>
      simp only [after]
      rw [requested?_applyDisplayStates, requested?_applyDisplayStates]
      exact of_or _
  | permissionRequest request =>
      rw [attached?_permissionRequest, attached?_permissionRequest] at attached
      simp only [after]
      cases target : first.requestTarget? request with
      | none =>
          unfold onPermissionRequest
          rw [attached, target]
          exact before
      | some toolId =>
          rw [first.requested?_onPermissionRequest target,
            second.requested?_onPermissionRequest (attached.trans target)]
          split
          · exact Or.inl rfl
          · exact before
  | permissionResponse response =>
      simp only [after]
      rw [requested?_onPermissionResponse_eq, requested?_onPermissionResponse_eq]
      split
      · exact of_or _
      · exact before
  | _ => cases read

end Written

/-- What messages say about orphans does not depend on what was known before. -/
theorem find?_orphans_run (tracker : Tracker) {changes : List TrackerChange}
    (read : ∀ change ∈ changes, change.isRead = true) (toolId : String) :
    (tracker.run changes).orphans.find? toolId =
      (latest? (fun change => change.verdictFor? toolId) changes).getD
        (tracker.orphans.find? toolId) := by
  induction changes using List.reverseRecOn with
  | nil => rfl
  | append_singleton rest change ih =>
      have readRest : ∀ earlier ∈ rest, earlier.isRead = true := fun earlier member =>
        read earlier (List.mem_append_left _ member)
      have after := find?_orphans_after (read change (by simp)) (tracker.run rest) toolId
      rw [latest?_concat, run_append]
      refine after.trans ?_
      rw [ih readRest]
      cases change.verdictFor? toolId <;> rfl

end Tracker

end SessionSync
