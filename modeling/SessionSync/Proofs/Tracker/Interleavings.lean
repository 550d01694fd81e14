import SessionSync.Proofs.Tracker.Convergence
import SessionSync.Proofs.Tracker.SignatureIndex

/-!
# Interleavings

Records, events and verdicts that name their tool use concern that tool use alone.  So it
does not matter how those about different tool uses are interleaved: what a run leaves of a
tool use is what its own part of the run leaves of it (`AgreesOn.run_part`), and two runs
with the same parts end in trackers that differ in the ranks of the calls and in the order
of the lists of the index only (`interleavings_agree`).

The links are the one thing that is kept by request and not by tool use, so no request may
be used for two tool uses.  A display block, a count and a verdict on everything that is
unfinished name no tool use; they are not among the changes here.
-/

set_option autoImplicit false

namespace SessionSync

namespace TrackerChange

/-- The tool use that a record, an event or a verdict names. -/
def named? : TrackerChange → Option String
  | .toolUse used => some used.toolId
  | .permissionRequest request => request.toolId
  | .permissionResponse response => response.toolId
  | .toolResult result => some result.toolId
  | .toolEvent event => some event.toolId
  | .markOrphaned toolId _ _ => some toolId
  | .displayLinks _ | .displayStates _ | .orphanUnfinished _ | .recount | .toggle _ => none

/-- Whether a change names a tool use. -/
def isAbout (toolId : String) (change : TrackerChange) : Bool := change.named? == some toolId

/-- The permission request that a record or an event speaks of. -/
def asked? : TrackerChange → Option String
  | .permissionRequest request => some request.requestId
  | .permissionResponse response => some response.requestId
  | .toolEvent event => event.asked
  | _ => none

/-- Two runs are interleavings of the same parts, one part for each tool use. -/
structure SameParts (first second : List TrackerChange) : Prop where
  named : ∀ change ∈ first, change.named?.isSome = true
  named' : ∀ change ∈ second, change.named?.isSome = true
  parts : ∀ toolId, first.filter (isAbout toolId) = second.filter (isAbout toolId)

/-- No permission request is used for two tool uses. -/
def OneToolPerRequest (changes : List TrackerChange) : Prop :=
  ∀ left ∈ changes, ∀ right ∈ changes, left.asked?.isSome = true → left.asked? = right.asked? →
    left.named? = right.named?

theorem SameParts.mem_iff {first second : List TrackerChange} (same : SameParts first second)
    (change : TrackerChange) : change ∈ first ↔ change ∈ second := by
  have mem_part : ∀ toolId, change.named? = some toolId → ∀ changes : List TrackerChange,
      change ∈ changes ↔ change ∈ changes.filter (isAbout toolId) := fun toolId names changes =>
    ⟨fun member => List.mem_filter.2 ⟨member, beq_iff_eq.2 names⟩,
      fun member => List.mem_of_mem_filter member⟩
  constructor
  · intro member
    obtain ⟨toolId, names⟩ := Option.isSome_iff_exists.1 (same.named change member)
    rw [mem_part toolId names, same.parts, ← mem_part toolId names] at member
    exact member
  · intro member
    obtain ⟨toolId, names⟩ := Option.isSome_iff_exists.1 (same.named' change member)
    rw [mem_part toolId names, ← same.parts, ← mem_part toolId names] at member
    exact member

theorem isDisplayStates_of_named {change : TrackerChange} {toolId : String}
    (named : change.named? = some toolId) : change.isDisplayStates = false := by
  cases change with
  | displayStates display => cases named
  | _ => rfl

end TrackerChange

namespace Tracker

/-! ## What a change about another tool use leaves -/

section Elsewhere

variable (tracker : Tracker) {change : TrackerChange} {toolId probe : String}
  (named : change.named? = some toolId)
include named

/-- A change concerns no tool use but the one that it names. -/
theorem sameAt_after (elsewhere : probe ≠ toolId) :
    SameAt (tracker.after change) tracker probe := by
  cases change with
  | toolUse toolUse =>
      cases named
      exact tracker.sameAt_onToolUse elsewhere
  | permissionRequest request =>
      refine tracker.sameAt_onPermissionRequest fun same => elsewhere ?_
      exact Option.some_inj.1 (same.symm.trans (tracker.requestTarget?_of_toolId named))
  | permissionResponse response =>
      refine tracker.sameAt_onPermissionResponse fun same => elsewhere ?_
      exact Option.some_inj.1 (same.symm.trans (tracker.responseTarget?_of_toolId named))
  | toolResult result =>
      cases named
      exact tracker.sameAt_onToolResult elsewhere
  | toolEvent event =>
      cases named
      exact tracker.sameAt_onToolEvent elsewhere
  | markOrphaned orphanId reason message =>
      cases named
      exact tracker.sameAt_recordOrphan elsewhere _
  | displayLinks _ | displayStates _ | orphanUnfinished _ | recount | toggle _ => cases named

theorem sessionId_after : (tracker.after change).sessionId = tracker.sessionId := by
  cases change with
  | toolUse toolUse => exact (tracker.sighted_onToolUse toolUse).session
  | permissionRequest request =>
      exact (tracker.sighted_onPermissionRequest (tracker.requestTarget?_of_toolId named)).session
  | permissionResponse response => exact tracker.sessionId_onPermissionResponse response
  | toolResult result => exact (tracker.sighted_onToolResult result).session
  | toolEvent event => exact (tracker.sighted_onToolEvent event).session
  | markOrphaned orphanId reason message =>
      exact (tracker.sameRoster_markOrphaned orphanId reason message).session
  | displayLinks _ | displayStates _ | orphanUnfinished _ | recount | toggle _ => cases named

/-- A change files a tool use anew, or leaves its card as it is. -/
theorem cardStep_of_named (probe : String) :
    Card.Step Filing.IsRefiling (tracker.card probe) ((tracker.after change).card probe) := by
  have step := tracker.cardStep_after change probe
  rwa [TrackerChange.isDisplayStates_of_named named, if_neg Bool.false_ne_true] at step

end Elsewhere

/-! ## Cards -/

namespace Card

variable {before first second : Card} {filing : Filing}

/-- A filing shows in the signature of the call. -/
theorem own_filed_ne (refiles : filing.IsRefiling) (allowed : before.Allows filing) :
    (before.filed filing).own ≠ before.own := by
  intro same
  cases filing with
  | create signature =>
      rw [show before.own = none from allowed] at same
      cases same
  | move old new =>
      rw [allowed.1] at same
      exact allowed.2 (Option.some_inj.1 same).symm
  | rename old new => cases refiles

/-- What a record or an event makes of a card is known from the signature that the call has
after it. -/
theorem Step.eq_of_own (one : Step Filing.IsRefiling before first)
    (other : Step Filing.IsRefiling before second) (own : first.own = second.own) :
    first = second := by
  rcases one with rfl | ⟨filing, refiles, allowed, rfl⟩
  · rcases other with rfl | ⟨filing, refiles, allowed, rfl⟩
    · rfl
    · exact absurd own.symm (own_filed_ne refiles allowed)
  · rcases other with rfl | ⟨filing', refiles', allowed', rfl⟩
    · exact absurd own (own_filed_ne refiles allowed)
    · cases filing with
      | create signature =>
          cases filing' with
          | create signature' =>
              obtain rfl := Option.some_inj.1 own
              rfl
          | move old new =>
              have unsigned : before.own = none := allowed
              rw [allowed'.1] at unsigned
              cases unsigned
          | rename old new => cases refiles'
      | move old new =>
          cases filing' with
          | create signature =>
              have unsigned : before.own = none := allowed'
              rw [allowed.1] at unsigned
              cases unsigned
          | move old' new' =>
              obtain rfl := Option.some_inj.1 own
              obtain rfl := Option.some_inj.1 (allowed.1.symm.trans allowed'.1)
              rfl
          | rename old' new' => cases refiles'
      | rename old new => cases refiles

end Card

theorem unplaced_assignEvent (call : ToolCall) (event : ToolEvent) :
    unplaced (assignEvent event call) = assignEvent event (unplaced call) := by
  rw [assignEvent_eq, assignEvent_eq]
  rfl

/-! ## What is counted after a change -/

section Counts

variable (tracker : Tracker)

theorem contains_unfinished_onToolUse (toolUse : ToolUse) :
    (tracker.onToolUse toolUse).unfinished.contains toolUse.toolId =
      ((tracker.call? toolUse.toolId).isNone ||
        tracker.unfinished.contains toolUse.toolId) := by
  unfold onToolUse
  cases held : tracker.call? toolUse.toolId with
  | none =>
      dsimp only
      rw [contains_unfinished_ensure, held, beq_self_eq_true, Bool.true_and]
  | some call =>
      dsimp only
      split
      · rfl
      · rw [unfinished_modify, unfinished_reindex]
        rfl

theorem contains_unfinished_onPermissionRequest {request : PermissionRequest} {toolId : String}
    (target : tracker.requestTarget? request = some toolId) :
    (tracker.onPermissionRequest request).1.unfinished.contains toolId =
      ((tracker.call? toolId).isNone || tracker.unfinished.contains toolId) := by
  unfold onPermissionRequest
  rw [target]
  dsimp only
  rw [unfinished_modify, contains_unfinished_ensure, beq_self_eq_true, Bool.true_and]
  rfl

/-- A denial closes a tool use that waits. -/
theorem contains_unfinished_onPermissionResponse {response : PermissionResponse} {toolId : String}
    (target : tracker.responseTarget? response = some toolId) :
    (tracker.onPermissionResponse response).1.unfinished.contains toolId =
      (tracker.unfinished.contains toolId &&
        !((tracker.call? toolId).map ToolCall.status).any fun status =>
          !status.isTerminal && response.decision == .deny) := by
  unfold responseTarget? at target
  unfold onPermissionResponse
  rw [target]
  dsimp only
  rw [call?_link]
  cases held : tracker.call? toolId with
  | none => simp
  | some call =>
      dsimp only
      rw [Option.map_some, Option.any_some]
      split
      · rename_i closes
        rw [contains_unfinished_close, closes]
        simp
      · rename_i waits
        rw [Bool.not_eq_true] at waits
        rw [waits, unfinished_modify, unfinished_link]
        simp

end Counts

/-! ## Agreement on one tool use -/

/-- Two trackers agree on a tool use: on its call apart from the rank, on the verdict on it,
on whether it is counted as unfinished, and on where it is listed. -/
structure AgreesOn (left right : Tracker) (toolId : String) : Prop where
  session : left.sessionId = right.sessionId
  call : left.unplaced? toolId = right.unplaced? toolId
  orphan : left.orphans.find? toolId = right.orphans.find? toolId
  unfinished : left.unfinished.contains toolId = right.unfinished.contains toolId
  card : left.card toolId = right.card toolId

namespace AgreesOn

variable {first second third left right tracker : Tracker} {change : TrackerChange}
  {toolId probe : String}

theorem refl (tracker : Tracker) (toolId : String) : AgreesOn tracker tracker toolId :=
  ⟨rfl, rfl, rfl, rfl, rfl⟩

theorem symm (agree : AgreesOn left right toolId) : AgreesOn right left toolId :=
  ⟨agree.session.symm, agree.call.symm, agree.orphan.symm, agree.unfinished.symm,
    agree.card.symm⟩

theorem trans (earlier : AgreesOn first second toolId) (later : AgreesOn second third toolId) :
    AgreesOn first third toolId :=
  ⟨earlier.session.trans later.session, earlier.call.trans later.call,
    earlier.orphan.trans later.orphan, earlier.unfinished.trans later.unfinished,
    earlier.card.trans later.card⟩

/-- A change about one tool use leaves the trackers agreeing on every other one. -/
theorem elsewhere (tracker : Tracker) (named : change.named? = some toolId)
    (other : probe ≠ toolId) : AgreesOn (tracker.after change) tracker probe := by
  have same := tracker.sameAt_after named other
  have still : Card.Step Filing.IsRefiling (tracker.card probe) (tracker.card probe) := Or.inl rfl
  exact ⟨tracker.sessionId_after named, congrArg (Option.map unplaced) same.call, same.orphan,
    same.unfinished,
    (tracker.cardStep_of_named named probe).eq_of_own still (signature?_of_sameAt same)⟩

/-! ### What the trackers make of a change about the tool use -/

variable (agree : AgreesOn left right toolId)
include agree

theorem isNone_call? : (left.call? toolId).isNone = (right.call? toolId).isNone := by
  have same := congrArg Option.isNone agree.call
  unfold unplaced? at same
  rwa [Option.isNone_map, Option.isNone_map] at same

theorem status? :
    (left.call? toolId).map ToolCall.status = (right.call? toolId).map ToolCall.status := by
  have same := congrArg (Option.map ToolCall.status) agree.call
  unfold unplaced? at same
  rwa [Option.map_map, Option.map_map] at same

theorem unplaced_callOrStart (toolName : String) (input : Json) :
    unplaced (left.callOrStart toolId toolName input) =
      unplaced (right.callOrStart toolId toolName input) := by
  have same := agree.call
  unfold unplaced? at same
  unfold callOrStart
  cases held : left.call? toolId with
  | none =>
      rw [held, Option.map_none, eq_comm, Option.map_eq_none_iff] at same
      rw [same, agree.session]
      rfl
  | some call =>
      rw [held, Option.map_some, eq_comm, Option.map_eq_some_iff] at same
      obtain ⟨other, held', same⟩ := same
      rw [held']
      exact same.symm

/-- A change of the call, new or not, that does not look at the rank. -/
theorem unplaced?_of_touch {after after' : Tracker} {toolName : String} {input : Json}
    {touch : ToolCall → ToolCall} (apart : ∀ call, unplaced (touch call) = touch (unplaced call))
    (becomes : after.call? toolId = some (touch (left.callOrStart toolId toolName input)))
    (becomes' : after'.call? toolId = some (touch (right.callOrStart toolId toolName input))) :
    after.unplaced? toolId = after'.unplaced? toolId := by
  unfold unplaced?
  rw [becomes, becomes', Option.map_some, Option.map_some, apart, apart,
    agree.unplaced_callOrStart]

/-- A change of the call, where there is one, that does not look at the rank. -/
theorem unplaced?_of_map {after after' : Tracker} {touch : ToolCall → ToolCall}
    (apart : ∀ call, unplaced (touch call) = touch (unplaced call))
    (becomes : after.call? toolId = (left.call? toolId).map touch)
    (becomes' : after'.call? toolId = (right.call? toolId).map touch) :
    after.unplaced? toolId = after'.unplaced? toolId := by
  have touched : ∀ held : Option ToolCall,
      (held.map touch).map unplaced = (held.map unplaced).map touch := by
    intro held
    cases held with
    | none => rfl
    | some call => exact congrArg some (apart call)
  have same := agree.call
  unfold unplaced? at same ⊢
  rw [becomes, becomes', touched, touched, same]

theorem call_after (named : change.named? = some toolId) :
    (left.after change).unplaced? toolId = (right.after change).unplaced? toolId := by
  cases change with
  | toolUse toolUse =>
      cases named
      exact agree.unplaced?_of_touch (fun call => unplaced_nameAs call toolUse)
        (left.call?_onToolUse toolUse) (right.call?_onToolUse toolUse)
  | permissionRequest request =>
      exact agree.unplaced?_of_touch (fun call => unplaced_askFor call request)
        (left.call?_onPermissionRequest (left.requestTarget?_of_toolId named))
        (right.call?_onPermissionRequest (right.requestTarget?_of_toolId named))
  | permissionResponse response =>
      exact agree.unplaced?_of_map (fun call => unplaced_answerWith call response)
        (left.call?_onPermissionResponse (left.responseTarget?_of_toolId named))
        (right.call?_onPermissionResponse (right.responseTarget?_of_toolId named))
  | toolResult result =>
      cases named
      exact agree.unplaced?_of_touch (fun call => unplaced_finishWith call result)
        (left.call?_onToolResult result) (right.call?_onToolResult result)
  | toolEvent event =>
      cases named
      exact agree.unplaced?_of_touch (fun call => unplaced_assignEvent call event)
        (left.call?_onToolEvent event) (right.call?_onToolEvent event)
  | markOrphaned orphanId reason message =>
      cases named
      have ruled : ∀ tracker : Tracker,
          (tracker.after (.markOrphaned toolId reason message)).call? toolId =
            (tracker.call? toolId).map (orphanCall reason) := fun tracker =>
        (tracker.call?_recordOrphan toolId toolId _).trans (if_pos rfl)
      have apart : ∀ call, unplaced (orphanCall reason call) = orphanCall reason (unplaced call) :=
        fun _ => rfl
      exact agree.unplaced?_of_map apart (ruled left) (ruled right)
  | displayLinks _ | displayStates _ | orphanUnfinished _ | recount | toggle _ => cases named

theorem orphan_after (named : change.named? = some toolId) :
    (left.after change).orphans.find? toolId = (right.after change).orphans.find? toolId := by
  have same := agree.orphan
  cases change with
  | toolUse toolUse =>
      show (left.onToolUse toolUse).orphans.find? toolId =
        (right.onToolUse toolUse).orphans.find? toolId
      rw [orphans_onToolUse, orphans_onToolUse, same]
  | permissionRequest request =>
      show (left.onPermissionRequest request).1.orphans.find? toolId =
        (right.onPermissionRequest request).1.orphans.find? toolId
      rw [orphans_onPermissionRequest, orphans_onPermissionRequest, same]
  | permissionResponse response =>
      show (left.onPermissionResponse response).1.orphans.find? toolId =
        (right.onPermissionResponse response).1.orphans.find? toolId
      rw [orphans_onPermissionResponse, orphans_onPermissionResponse, same]
  | toolResult result =>
      cases named
      show (left.onToolResult result).orphans.find? _ = (right.onToolResult result).orphans.find? _
      rw [orphans_onToolResult, orphans_onToolResult, Table.find?_erase, Table.find?_erase, same]
  | toolEvent event =>
      cases named
      show (left.onToolEvent event).orphans.find? _ = (right.onToolEvent event).orphans.find? _
      rw [orphans_onToolEvent, orphans_onToolEvent]
      split
      · rw [Table.find?_erase, Table.find?_erase, same]
      · exact same
  | markOrphaned orphanId reason message =>
      cases named
      show (left.orphans.insert toolId _).find? toolId =
        (right.orphans.insert toolId _).find? toolId
      rw [Table.find?_insert_self, Table.find?_insert_self]
  | displayLinks _ | displayStates _ | orphanUnfinished _ | recount | toggle _ => cases named

theorem unfinished_after (named : change.named? = some toolId) :
    (left.after change).unfinished.contains toolId =
      (right.after change).unfinished.contains toolId := by
  have same := agree.unfinished
  have known := agree.isNone_call?
  cases change with
  | toolUse toolUse =>
      cases named
      show (left.onToolUse toolUse).unfinished.contains _ =
        (right.onToolUse toolUse).unfinished.contains _
      rw [contains_unfinished_onToolUse, contains_unfinished_onToolUse, known, same]
  | permissionRequest request =>
      show (left.onPermissionRequest request).1.unfinished.contains toolId =
        (right.onPermissionRequest request).1.unfinished.contains toolId
      rw [left.contains_unfinished_onPermissionRequest (left.requestTarget?_of_toolId named),
        right.contains_unfinished_onPermissionRequest (right.requestTarget?_of_toolId named),
        known, same]
  | permissionResponse response =>
      show (left.onPermissionResponse response).1.unfinished.contains toolId =
        (right.onPermissionResponse response).1.unfinished.contains toolId
      rw [left.contains_unfinished_onPermissionResponse (left.responseTarget?_of_toolId named),
        right.contains_unfinished_onPermissionResponse (right.responseTarget?_of_toolId named),
        agree.status?, same]
  | toolResult result =>
      cases named
      have closed : ∀ tracker : Tracker,
          (tracker.onToolResult result).unfinished.contains result.toolId = false := by
        intro tracker
        refine (contains_unfinished_close _ _ _).trans ?_
        rw [bne_self_eq_false, Bool.false_and]
      exact (closed left).trans (closed right).symm
  | toolEvent event =>
      cases named
      exact (left.contains_unfinished_onToolEvent event).trans
        (right.contains_unfinished_onToolEvent event).symm
  | markOrphaned orphanId reason message =>
      cases named
      have closed : ∀ tracker : Tracker,
          (tracker.markOrphaned toolId reason message).unfinished.contains toolId = false := by
        intro tracker
        refine (contains_unfinished_recordOrphan _ _ _ _).trans ?_
        rw [bne_self_eq_false, Bool.false_and]
      exact (closed left).trans (closed right).symm
  | displayLinks _ | displayStates _ | orphanUnfinished _ | recount | toggle _ => cases named

/-- **What a change makes of its tool use** depends on nothing but that tool use. -/
theorem after (named : change.named? = some toolId) :
    AgreesOn (left.after change) (right.after change) toolId := by
  have call := agree.call_after named
  have own : ((left.after change).card toolId).own = ((right.after change).card toolId).own := by
    have signed := congrArg (Option.map ToolCall.signature) call
    unfold unplaced? at signed
    rwa [Option.map_map, Option.map_map] at signed
  have filed :
      Card.Step Filing.IsRefiling (left.card toolId) ((right.after change).card toolId) := by
    rw [agree.card]
    exact right.cardStep_of_named named toolId
  have session := agree.session.trans (right.sessionId_after named).symm
  exact ⟨(left.sessionId_after named).trans session, call, agree.orphan_after named,
    agree.unfinished_after named, (left.cardStep_of_named named toolId).eq_of_own filed own⟩

/-- **What a run leaves of a tool use** is what its own part of the run leaves of it. -/
theorem run_part {changes : List TrackerChange}
    (named : ∀ change ∈ changes, change.named?.isSome = true) :
    AgreesOn (left.run changes) (right.run (changes.filter (TrackerChange.isAbout toolId)))
      toolId := by
  induction changes generalizing left right with
  | nil => exact agree
  | cons change rest ih =>
      obtain ⟨namedId, names⟩ := Option.isSome_iff_exists.1 (named change List.mem_cons_self)
      have later := fun other member => named other (List.mem_cons_of_mem change member)
      by_cases here : namedId = toolId
      · subst here
        have about : change.isAbout namedId = true := beq_iff_eq.2 names
        rw [List.filter_cons_of_pos about, run_cons, run_cons]
        exact ih (agree.after names) later
      · have aside : ¬ change.isAbout toolId = true := fun about =>
          here (Option.some_inj.1 (names.symm.trans (beq_iff_eq.1 about)))
        rw [List.filter_cons_of_neg aside, run_cons]
        exact ih ((elsewhere left names (Ne.symm here)).trans agree) later

end AgreesOn

/-! ## Links -/

section Links

variable (tracker : Tracker) (requestId : String)

/-- A change links the request that it speaks of to the tool use that it names. -/
theorem requested?_after_of_named {change : TrackerChange} {toolId : String}
    (named : change.named? = some toolId) :
    (tracker.after change).requested? requestId =
      if change.asked? = some requestId then some toolId else tracker.requested? requestId := by
  have of_links : ∀ {after : Tracker}, after.links = tracker.links →
      after.requested? requestId = tracker.requested? requestId := fun {after} same =>
    congrArg (fun links => Table.find? links requestId) same
  cases change with
  | toolUse toolUse => exact of_links (tracker.links_onToolUse toolUse)
  | permissionRequest request =>
      refine (tracker.requested?_onPermissionRequest (tracker.requestTarget?_of_toolId named)
        requestId).trans ?_
      simp only [TrackerChange.asked?, Option.some_inj, eq_comm]
  | permissionResponse response =>
      refine (tracker.requested?_onPermissionResponse (tracker.responseTarget?_of_toolId named)
        requestId).trans ?_
      simp only [TrackerChange.asked?, Option.some_inj, eq_comm]
  | toolResult result => exact of_links (tracker.links_onToolResult result)
  | toolEvent event =>
      cases named
      exact tracker.requested?_onToolEvent event requestId
  | markOrphaned orphanId reason message => exact of_links rfl
  | displayLinks _ | displayStates _ | orphanUnfinished _ | recount | toggle _ => cases named

/-- After a run a request is linked to the one tool use that it was used for, and as before
if the run does not speak of it. -/
theorem requested?_run_of_owner {changes : List TrackerChange} {owner : String}
    (named : ∀ change ∈ changes, change.named?.isSome = true)
    (owned : ∀ change ∈ changes, change.asked? = some requestId → change.named? = some owner) :
    (tracker.run changes).requested? requestId =
      if changes.any (fun change => change.asked? == some requestId) then some owner
      else tracker.requested? requestId := by
  induction changes generalizing tracker with
  | nil => rfl
  | cons change rest ih =>
      obtain ⟨toolId, names⟩ := Option.isSome_iff_exists.1 (named change List.mem_cons_self)
      rw [run_cons, ih (tracker.after change)
        (fun other member => named other (List.mem_cons_of_mem change member))
        fun other member => owned other (List.mem_cons_of_mem change member),
        tracker.requested?_after_of_named requestId names, List.any_cons]
      by_cases asks : change.asked? = some requestId
      · obtain rfl := Option.some_inj.1 (names.symm.trans (owned change List.mem_cons_self asks))
        simp [asks]
      · simp [asks]

/-- The links that two interleavings leave are the same. -/
theorem requested?_run_of_sameParts {first second : List TrackerChange}
    (same : TrackerChange.SameParts first second)
    (single : TrackerChange.OneToolPerRequest first) :
    (tracker.run first).requested? requestId = (tracker.run second).requested? requestId := by
  obtain ⟨owner, owned⟩ : ∃ owner, ∀ change ∈ first,
      change.asked? = some requestId → change.named? = some owner := by
    by_cases spoken : ∃ change ∈ first, change.asked? = some requestId
    · obtain ⟨change, member, asks⟩ := spoken
      obtain ⟨owner, names⟩ := Option.isSome_iff_exists.1 (same.named change member)
      exact ⟨owner, fun other member' asks' =>
        (single other member' change member (asks' ▸ rfl) (asks'.trans asks.symm)).trans names⟩
    · exact ⟨"", fun change member asks => absurd ⟨change, member, asks⟩ spoken⟩
  have alike : first.any (fun change => change.asked? == some requestId) =
      second.any fun change => change.asked? == some requestId := by
    rw [Bool.eq_iff_iff, List.any_eq_true, List.any_eq_true]
    exact exists_congr fun change => and_congr_left fun _ => same.mem_iff change
  rw [tracker.requested?_run_of_owner requestId same.named owned,
    tracker.requested?_run_of_owner requestId same.named'
      fun change member => owned change ((same.mem_iff change).2 member), alike]

end Links

/-! ## Two interleavings -/

/-- Two indexes without empty entries that list the same tool uses have the same entries, up
to the order in an entry. -/
theorem rel_perm_of_contains_listed {left right : Tracker} {signature : String}
    (nonempty : left.NoEmptyEntry) (nonempty' : right.NoEmptyEntry)
    (distinct : (left.listed signature).Nodup) (distinct' : (right.listed signature).Nodup)
    (same : ∀ toolId, (left.listed signature).contains toolId =
      (right.listed signature).contains toolId) :
    Option.Rel List.Perm (left.signatures.find? signature) (right.signatures.find? signature) := by
  have perm : (left.listed signature).Perm (right.listed signature) := by
    refine (List.perm_ext_iff_of_nodup distinct distinct').2 fun toolId => ?_
    rw [← List.contains_iff_mem, ← List.contains_iff_mem, same]
  have filled := nonempty signature
  have filled' := nonempty' signature
  unfold listed at perm
  cases held : left.signatures.find? signature with
  | none =>
      cases held' : right.signatures.find? signature with
      | none => exact .none
      | some ids =>
          rw [held, held'] at perm
          exact absurd (held'.trans (congrArg some perm.nil_eq.symm)) filled'
  | some ids =>
      cases held' : right.signatures.find? signature with
      | none =>
          rw [held, held'] at perm
          exact absurd (held.trans (congrArg some perm.eq_nil)) filled
      | some ids' =>
          rw [held, held'] at perm
          exact .some perm

/-- **Interleavings.**  Take records, events and verdicts that each name a tool use, with no
permission request used for two of them, and let them arrive in two interleavings of the
same parts, whatever has happened to the tracker before.  The two trackers that result have
the same calls apart from the ranks, the same orphans, the same unfinished tool uses, the
same links, and the same index up to the order in an entry.  And no such change touches the
call of another tool use than its own. -/
theorem interleavings_agree (sessionId : String) (history : List TrackerChange)
    {first second : List TrackerChange} (same : TrackerChange.SameParts first second)
    (single : TrackerChange.OneToolPerRequest first) :
    let left := ((new sessionId).run history).run first
    let right := ((new sessionId).run history).run second
    (∀ toolId, left.unplaced? toolId = right.unplaced? toolId) ∧
      left.orphans = right.orphans ∧ left.unfinished = right.unfinished ∧
      left.links = right.links ∧
      (∀ signature, Option.Rel List.Perm (left.signatures.find? signature)
        (right.signatures.find? signature)) ∧
      ∀ (tracker : Tracker) (change : TrackerChange) (toolId probe : String),
        change.named? = some toolId → probe ≠ toolId →
          (tracker.after change).call? probe = tracker.call? probe := by
  intro left right
  have agree : ∀ toolId, AgreesOn left right toolId := by
    intro toolId
    have start := AgreesOn.refl ((new sessionId).run history) toolId
    have part := start.run_part same.named
    rw [same.parts] at part
    exact part.trans (start.run_part same.named').symm
  refine ⟨fun toolId => (agree toolId).call, ?orphans, ?unfinished, ?links, ?index, ?others⟩
  case orphans => exact Table.ext_find? fun toolId => (agree toolId).orphan
  case unfinished => exact KeySet.ext_contains fun toolId => (agree toolId).unfinished
  case links =>
    exact Table.ext_find? fun requestId => requested?_run_of_sameParts _ requestId same single
  case index =>
    intro signature
    have left_eq : left = (new sessionId).run (history ++ first) := (run_append _ _ _).symm
    have right_eq : right = (new sessionId).run (history ++ second) := (run_append _ _ _).symm
    refine rel_perm_of_contains_listed ?_ ?_ ?_ ?_ fun toolId =>
      congrFun (congrArg Card.isUnder (agree toolId).card) signature
    · rw [left_eq]
      exact noEmptyEntry_run sessionId _
    · rw [right_eq]
      exact noEmptyEntry_run sessionId _
    · rw [left_eq]
      exact nodup_listed_run sessionId _ signature
    · rw [right_eq]
      exact nodup_listed_run sessionId _ signature
  case others =>
    intro tracker change toolId probe names other
    exact (tracker.sameAt_after names other).call

/-! ### Two tool uses that are asked for at the same time -/

/-- What is told of one tool use: it is used, permission is asked and given, and it ends. -/
def askedAndRun (toolId requestId : String) : List TrackerChange :=
  [.toolUse { toolId, name := "Bash", input := .null },
    .permissionRequest
      { requestId, toolName := "Bash", input := .null, toolId := some toolId, suggestions := [] },
    .permissionResponse
      { requestId, decision := .allow, reasoning := none, clarification := none
        appliedUpdates := [], toolId := some toolId },
    .toolResult { toolId, content := .null, isError := false }]

theorem named?_of_mem_askedAndRun (toolId requestId : String) :
    ∀ change ∈ askedAndRun toolId requestId, change.named? = some toolId := by
  simp [askedAndRun, TrackerChange.named?]

/-- The one tool use before the other, or the two in turns, with the second one known from the
tracker's history: the calls, the links and the entries agree, and the ids in the entry are
in the other order. -/
theorem interleavings_agree_of_askedAndRun :
    let history : List TrackerChange := [.markOrphaned "u" "lost" none]
    let first := askedAndRun "t" "r" ++ askedAndRun "u" "q"
    let second := askedAndRun "u" "q" ++ askedAndRun "t" "r"
    let left := ((new "s").run history).run first
    let right := ((new "s").run history).run second
    (∀ toolId, left.unplaced? toolId = right.unplaced? toolId) ∧ left.links = right.links ∧
      left.listed (toolSignature "Bash" .null) = ["t", "u"] ∧
      right.listed (toolSignature "Bash" .null) = ["u", "t"] := by
  intro history first second left right
  have parts : ∀ toolId, first.filter (TrackerChange.isAbout toolId) =
      second.filter (TrackerChange.isAbout toolId) := by
    intro toolId
    by_cases here : toolId = "t"
    · subst here
      rfl
    · have absent : (askedAndRun "t" "r").filter (TrackerChange.isAbout toolId) = [] :=
        List.filter_eq_nil_iff.2 fun change member about => here <| Option.some_inj.1 <|
          (beq_iff_eq.1 about).symm.trans (named?_of_mem_askedAndRun "t" "r" change member)
      unfold first second
      rw [List.filter_append, List.filter_append, absent, List.append_nil, List.nil_append]
  have same : TrackerChange.SameParts first second := ⟨by decide, by decide, parts⟩
  have single : TrackerChange.OneToolPerRequest first := by
    unfold TrackerChange.OneToolPerRequest
    decide
  obtain ⟨calls, -, -, links, -, -⟩ := interleavings_agree "s" history same single
  exact ⟨calls, links, by decide +kernel, by decide +kernel⟩

end Tracker

end SessionSync
