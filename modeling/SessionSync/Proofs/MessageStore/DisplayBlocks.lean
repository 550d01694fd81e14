import SessionSync.Proofs.MessageStore.ToolHistory
import SessionSync.Proofs.Tracker.Bookkeeping
import SessionSync.Proofs.Tracker.Displays

/-!
# The backend's view stays

A message may carry a display block: the backend's states of tool uses, the whole list of
its orphans, and the tool uses that permission requests ask for.  The links are read before
the payload and the rest after it, so whatever a tracker has inferred and whatever the
payload says, the tracker shows the block's view once the message has been read
(`display_stays`).

A request may be linked anew, by the payload or by a state of the same block; then the last
of these counts.  That a list of orphans takes every older verdict back from the calls needs
more than the block: a call that shows a verdict is always in the table of orphans
(`Standing.Sound`).
-/

set_option autoImplicit false

namespace SessionSync

/-! ## What a block and a payload say about requests -/

/-- The tool use that a payload itself names for a permission request. -/
def Payload.names? (requestId : String) : Payload → Option String
  | .permissionRequest request => if request.requestId = requestId then request.toolId else none
  | .permissionResponse response =>
      if response.requestId = requestId then response.toolId else none
  | .toolCall event => if event.asked = some requestId then some event.toolId else none
  | .assistant _ | .user _ | .system .. | .unknown => none

namespace Display

variable (display : Display)

/-- The state that a block gives a tool use. -/
def tool? (toolId : String) : Option DisplayedTool :=
  display.tools.bind fun tools => tools.find? toolId

/-- The tool use that the links of a block name for a permission request. -/
def linked? (requestId : String) : Option String :=
  display.links.bind fun links => links.find? requestId

/-- The tool use that the states of a block name for a permission request: the last of
them. -/
def names? (requestId : String) : Option String :=
  latest? (fun entry => if entry.2.requestId = some requestId then some entry.1 else none)
    display.shown

variable {display} in
theorem mem_shown {toolId : String} {tool : DisplayedTool} :
    (toolId, tool) ∈ display.shown ↔ display.tool? toolId = some tool := by
  unfold shown tool?
  cases display.tools with
  | none => simp
  | some tools => exact WalkedMap.mem_entries_iff

theorem valueAt?_shown (toolId : String) :
    valueAt? toolId display.shown = display.tool? toolId := by
  unfold shown tool?
  cases display.tools with
  | none => rfl
  | some tools => rfl

end Display

namespace Tracker

/-! ## Links -/

section Links

variable (tracker : Tracker) (requestId : String)

theorem requested?_applyDisplayLinks (display : Display) :
    (tracker.applyDisplayLinks display).requested? requestId =
      (display.linked? requestId).or (tracker.requested? requestId) := by
  unfold applyDisplayLinks Display.linked? requested?
  cases display.links with
  | none => rfl
  | some links =>
      dsimp only [Option.bind_some]
      rw [foldl_link, Table.find?_foldl_insert, ← Table.find?_ofList, Table.ofList_entries]

/-- What a request makes of a link that there is. -/
theorem requested?_onPermissionRequest_of_linked {tracker : Tracker} {requestId toolId : String}
    (linked : tracker.requested? requestId = some toolId) (request : PermissionRequest) :
    (tracker.onPermissionRequest request).1.requested? requestId =
      (if request.requestId = requestId then request.toolId else none).or (some toolId) := by
  by_cases here : request.requestId = requestId
  · subst here
    have target : tracker.requestTarget? request = some (request.toolId.getD toolId) := by
      unfold requestTarget?
      rw [linked]
      cases request.toolId <;> rfl
    rw [tracker.requested?_onPermissionRequest target, if_pos rfl, if_pos rfl]
    cases request.toolId <;> rfl
  · rw [if_neg here, Option.none_or]
    cases target : tracker.requestTarget? request with
    | none =>
        unfold onPermissionRequest
        rw [target]
        exact linked
    | some other =>
        rw [tracker.requested?_onPermissionRequest target, if_neg (Ne.symm here), linked]

/-- An answer links its request to the tool use that it names, and leaves the link that there
is if it names none. -/
theorem requested?_onPermissionResponse_eq (response : PermissionResponse) :
    (tracker.onPermissionResponse response).1.requested? requestId =
      if requestId = response.requestId then response.toolId.or (tracker.requested? requestId)
      else tracker.requested? requestId := by
  cases target : tracker.responseTarget? response with
  | some toolId =>
      rw [tracker.requested?_onPermissionResponse target]
      split
      · rename_i here
        rw [here]
        exact target.symm
      · rfl
  | none =>
      have absent : response.toolId.or (tracker.requested? response.requestId) = none := target
      have unattached : tracker.onPermissionResponse response = (tracker, none) := by
        unfold onPermissionResponse
        rw [absent]
      rw [unattached]
      split
      · rename_i here
        rw [here, absent]
        exact (Option.or_eq_none_iff.1 absent).2
      · rfl

/-- What an answer makes of a link that there is. -/
theorem requested?_onPermissionResponse_of_linked {tracker : Tracker} {requestId toolId : String}
    (linked : tracker.requested? requestId = some toolId) (response : PermissionResponse) :
    (tracker.onPermissionResponse response).1.requested? requestId =
      (if response.requestId = requestId then response.toolId else none).or (some toolId) := by
  rw [requested?_onPermissionResponse_eq, linked]
  by_cases here : requestId = response.requestId
  · rw [if_pos here, if_pos here.symm]
  · rw [if_neg here, if_neg (Ne.symm here), Option.none_or]

/-- What a payload makes of a link that there is: it names the tool use itself, or leaves the
link. -/
theorem requested?_payload {tracker : Tracker} {requestId toolId : String}
    (linked : tracker.requested? requestId = some toolId) (payload : Payload) :
    (tracker.run payload.changes).requested? requestId =
      (payload.names? requestId).or (some toolId) := by
  have of_links : ∀ {after : Tracker}, after.links = tracker.links →
      after.requested? requestId = some toolId := fun {after} same =>
    (congrArg (fun links => Table.find? links requestId) same).trans linked
  cases payload with
  | assistant uses =>
      refine of_links ?_
      rw [Payload.changes, Log.run_map .toolUse onToolUse fun _ _ => rfl]
      exact List.foldlRecOn (motive := fun after : Tracker => after.links = tracker.links) uses _
        rfl fun before same toolUse _ => (before.links_onToolUse toolUse).trans same
  | user results =>
      refine of_links ?_
      rw [Payload.changes, Log.run_map .toolResult onToolResult fun _ _ => rfl]
      exact List.foldlRecOn (motive := fun after : Tracker => after.links = tracker.links) results
        _ rfl fun before same result _ => (before.links_onToolResult result).trans same
  | system subtype initData => exact linked
  | permissionRequest request => exact requested?_onPermissionRequest_of_linked linked request
  | permissionResponse response => exact requested?_onPermissionResponse_of_linked linked response
  | toolCall event =>
      show (tracker.onToolEvent event).requested? requestId =
        (if event.asked = some requestId then some event.toolId else none).or (some toolId)
      rw [requested?_onToolEvent, linked]
      split <;> rfl
  | unknown => exact linked

theorem find?_foldl_linkShown (entries : List (String × DisplayedTool)) (links : Table String)
    (requestId : String) :
    (entries.foldl linkShown links).find? requestId =
      (latest? (fun entry => if entry.2.requestId = some requestId then some entry.1 else none)
        entries).or (links.find? requestId) := by
  induction entries using List.reverseRecOn with
  | nil => rfl
  | append_singleton rest entry ih =>
      rw [List.foldl_append, List.foldl_cons, List.foldl_nil, latest?_concat, find?_linkShown, ih]
      split
      · rfl
      · rfl

theorem requested?_applyDisplayStates (display : Display) :
    (tracker.applyDisplayStates display).requested? requestId =
      (display.names? requestId).or (tracker.requested? requestId) := by
  have shown : (tracker.applyShown display.shown).requested? requestId =
      (display.names? requestId).or (tracker.requested? requestId) := by
    unfold requested?
    rw [links_applyShown]
    exact find?_foldl_linkShown _ _ _
  rw [applyDisplayStates_eq, applyDisplayedTools_eq]
  cases display.orphans with
  | none => exact shown
  | some notices =>
      unfold requested?
      rw [links_replaceOrphans]
      exact shown

end Links

/-! ## States -/

/-- What the states of a block make of a call that there is. -/
theorem call?_applyShown_of_call {entries : List (String × DisplayedTool)}
    (distinct : (entries.map Prod.fst).Nodup) {tracker : Tracker} {toolId : String}
    {call : ToolCall} (held : tracker.call? toolId = some call) :
    (tracker.applyShown entries).call? toolId =
      some (((valueAt? toolId entries).map fun tool => shownAs tool call).getD call) := by
  induction entries generalizing tracker call with
  | nil => exact held
  | cons entry rest ih =>
      obtain ⟨fresh, others⟩ := List.nodup_cons.1 distinct
      rw [applyShown_cons, valueAt?]
      by_cases here : toolId = entry.1
      · subst here
        have shown := tracker.call?_applyDisplayedTool_self entry.1 entry.2
        rw [callOrStart_of_call held] at shown
        have absent : valueAt? entry.1 rest = none :=
          valueAt?_eq_none_of_forall fun other member same =>
            fresh (List.mem_map.2 ⟨other, member, same.symm⟩)
        rw [ih others shown, absent, if_pos rfl]
        rfl
      · have kept := (tracker.sameAt_applyDisplayedTool here entry.2).call
        rw [ih others (kept.trans held), if_neg here]

/-- A block leaves every tool use with the state that it gives it. -/
theorem status_applyDisplayStates (tracker : Tracker) {display : Display} {toolId : String}
    {tool : DisplayedTool} (shown : display.tool? toolId = some tool) :
    ∃ call, (tracker.applyDisplayStates display).call? toolId = some call ∧
      call.status = ToolStatus.ofState tool.state := by
  obtain ⟨call, held, same⟩ :=
    shown_applyShown tracker display.nodup_shown (toolId, tool) (Display.mem_shown.2 shown)
  have status : call.status = ToolStatus.ofState tool.state := by
    rw [← same]
    rfl
  rw [applyDisplayStates_eq, applyDisplayedTools_eq]
  cases display.orphans with
  | none => exact ⟨call, held, status⟩
  | some notices =>
      have ruled := (tracker.applyShown display.shown).call?_replaceOrphans notices toolId
      rw [held, Option.map_some] at ruled
      obtain ⟨_, _, _, same⟩ := ruleOn_eq (judged? notices toolId)
        ((tracker.applyShown display.shown).isOrphaned toolId) call
      rw [same] at ruled
      exact ⟨_, ruled, status⟩

/-- What a block makes of the request that a call speaks of. -/
theorem requestId_applyDisplayStates {tracker : Tracker} (display : Display) {toolId : String}
    {call : ToolCall} (held : tracker.call? toolId = some call) :
    ∃ after, (tracker.applyDisplayStates display).call? toolId = some after ∧
      after.requestId =
        ((display.tool? toolId).bind DisplayedTool.requestId).or call.requestId := by
  have shown := call?_applyShown_of_call display.nodup_shown held
  rw [Display.valueAt?_shown] at shown
  generalize told : ((display.tool? toolId).map fun tool => shownAs tool call).getD call = between
    at shown
  have asked : between.requestId =
      ((display.tool? toolId).bind DisplayedTool.requestId).or call.requestId := by
    rw [← told]
    cases display.tool? toolId <;> rfl
  rw [applyDisplayStates_eq, applyDisplayedTools_eq]
  cases display.orphans with
  | none => exact ⟨between, shown, asked⟩
  | some notices =>
      have ruled := (tracker.applyShown display.shown).call?_replaceOrphans notices toolId
      rw [shown, Option.map_some] at ruled
      obtain ⟨_, _, _, same⟩ := ruleOn_eq (judged? notices toolId)
        ((tracker.applyShown display.shown).isOrphaned toolId) between
      rw [same] at ruled
      exact ⟨_, ruled, asked⟩

/-! ## Orphans -/

theorem isSome_judged?_iff {notices : List OrphanNotice} {toolId : String} :
    (judged? notices toolId).isSome = true ↔ ∃ notice ∈ notices, notice.toolId = toolId := by
  induction notices using List.reverseRecOn with
  | nil => simp [judged?]
  | append_singleton rest notice ih =>
      rw [judged?_concat]
      by_cases here : notice.toolId = toolId
      · simp [here]
      · rw [if_neg here, ih]
        simp [here]

/-- After a list of orphans every call shows the verdict of the list, or none: the older
verdicts are taken back, because every call that shows one is in the table. -/
theorem shows_replaceOrphans {tracker : Tracker} {toolId : String}
    (sound : (tracker.standing toolId).Sound) (notices : List OrphanNotice) {call : ToolCall}
    (held : (tracker.replaceOrphans notices).call? toolId = some call) :
    call.Shows (judged? notices toolId) := by
  rw [call?_replaceOrphans] at held
  obtain ⟨before, found, rfl⟩ := Option.map_eq_some_iff.1 held
  cases judged? notices toolId with
  | some orphan => exact ⟨rfl, rfl⟩
  | none =>
      cases known : tracker.isOrphaned toolId with
      | true => exact ⟨rfl, rfl⟩
      | false =>
          have unjudged := Table.contains_eq_false_iff.1 known
          rcases sound before.mark (congrArg (Option.map ToolCall.mark) found) with
            clear | ⟨orphan, judged, -⟩
          · exact Prod.mk.inj clear
          · rw [standing, unjudged] at judged
            cases judged

end Tracker

namespace MessageStore

/-! ## Messages with a display block -/

/-- While messages are read, every tool use stands soundly. -/
theorem sound_read (changes : List StoreChange) (sessionId : String) (messages : List Message)
    (told : List TrackerChange) (toolId : String) :
    (((messages.foldl Log.extract ((empty.run changes).log sessionId)).tracker.run told).standing
      toolId).Sound := by
  have new : (empty.log sessionId).tracker = (Tracker.new sessionId).run [] := rfl
  have begins : ((Tracker.new sessionId).standing toolId).Sound := by
    intro mark shows
    cases shows
  rw [Log.foldl_extract_eq, tracker_log_run new changes, ← Tracker.run_append,
    ← Tracker.run_append]
  exact Tracker.sound_run begins _

/-- A message with a display block: its links, then its payload, then its states. -/
theorem tracker_extract_of_display {message : Message} {display : Display}
    (shown : Log.display? message = some display) (log : Log) :
    (log.extract message).tracker =
      ((log.tracker.applyDisplayLinks display).run
        ((message.payload?.map Payload.changes).getD [])).applyDisplayStates display := by
  rw [Log.extract_eq, Message.changes, shown]
  simp only [Option.toList_some, List.map_cons, List.map_nil, Tracker.run_append]
  rfl

/-- **The backend's view stays.**  Whatever has happened to the logs, and whatever messages
of the same page were read before, once a message with a display block has been read:

* a tool use to which the block gives a state has a call in that state;
* if the block lists orphans, the table holds the last verdict on each listed tool use and
  no other, every call shows the verdict on record or none, and no listed tool use is counted
  as unfinished;
* a request that the block links is linked to that tool use, unless a state of the block or
  else the payload itself names another;
* and a request that comes as the payload and names no tool use is attached to the one that
  the block links it to, whatever its signature finds, and to no other. -/
theorem display_stays (changes : List StoreChange) (sessionId : String)
    (earlier : List Message) (message : Message) (display : Display)
    (shown : Log.display? message = some display) :
    let log := earlier.foldl Log.extract ((empty.run changes).log sessionId)
    let after := (log.extract message).tracker
    (∀ toolId tool, display.tool? toolId = some tool →
      ∃ call, after.call? toolId = some call ∧ call.status = ToolStatus.ofState tool.state) ∧
    (∀ notices, display.orphans = some notices →
      (∀ toolId, after.orphans.find? toolId = Tracker.judged? notices toolId) ∧
      (∀ toolId, after.isOrphaned toolId = true ↔ ∃ notice ∈ notices, notice.toolId = toolId) ∧
      (∀ toolId call, after.call? toolId = some call →
        call.Shows (Tracker.judged? notices toolId)) ∧
      ∀ notice ∈ notices, after.unfinished.contains notice.toolId = false) ∧
    (∀ requestId toolId, display.linked? requestId = some toolId →
      after.requested? requestId = ((display.names? requestId).or
        (message.payload?.bind (Payload.names? requestId))).or (some toolId)) ∧
    ∀ request toolId, message.payload? = some (.permissionRequest request) →
      request.toolId = none → display.linked? request.requestId = some toolId →
        let linked := log.tracker.applyDisplayLinks display
        (linked.onPermissionRequest request).2 = some toolId ∧
          (∀ other, other ≠ toolId →
            Tracker.SameAt (linked.onPermissionRequest request).1 linked other) ∧
          ∃ call, after.call? toolId = some call ∧ call.requestId =
            ((display.tool? toolId).bind DisplayedTool.requestId).or (some request.requestId) := by
  intro log after
  have read := tracker_extract_of_display shown log
  refine ⟨fun toolId tool told => ?states, fun notices listed => ?orphans,
    fun requestId toolId linked => ?links, fun request toolId asks unnamed linked => ?request⟩
  case states =>
    unfold after
    rw [read]
    exact Tracker.status_applyDisplayStates _ told
  case orphans =>
    -- The calls and verdicts that the list of orphans meets.
    let met := ((log.tracker.applyDisplayLinks display).run
      ((message.payload?.map Payload.changes).getD [])).applyDisplayedTools display
    have sound : ∀ toolId, (met.standing toolId).Sound := by
      intro toolId
      have sound := sound_read changes sessionId earlier (.displayLinks display ::
        ((message.payload?.map Payload.changes).getD [] ++
          [.displayStates { display with orphans := none }])) toolId
      rwa [Tracker.run_cons, Tracker.run_append] at sound
    have judged : after = met.replaceOrphans notices := by
      unfold after
      rw [read, Tracker.applyDisplayStates_eq, listed]
    rw [judged]
    refine ⟨met.find?_orphans_replaceOrphans notices, fun toolId => ?_,
      fun toolId call held => Tracker.shows_replaceOrphans (sound toolId) notices held,
      fun notice member => ?_⟩
    · rw [Tracker.isOrphaned_replaceOrphans, Tracker.isSome_judged?_iff]
    · have named := Tracker.isSome_judged?_iff.2 ⟨notice, member, rfl⟩
      rw [Tracker.contains_unfinished_replaceOrphans, ← Option.not_isSome, named]
      rfl
  case links =>
    have before : (log.tracker.applyDisplayLinks display).requested? requestId = some toolId := by
      rw [Tracker.requested?_applyDisplayLinks, linked]
      rfl
    have told : ((log.tracker.applyDisplayLinks display).run
        ((message.payload?.map Payload.changes).getD [])).requested? requestId =
          (message.payload?.bind (Payload.names? requestId)).or (some toolId) := by
      cases message.payload? with
      | none => exact before
      | some payload => exact Tracker.requested?_payload before payload
    unfold after
    rw [read, Tracker.requested?_applyDisplayStates, told, Option.or_assoc]
  case request =>
    intro before
    have target : before.requestTarget? request = some toolId := by
      unfold before Tracker.requestTarget?
      rw [unnamed, Tracker.requested?_applyDisplayLinks, linked]
      rfl
    refine ⟨?attached, fun other elsewhere => ?others, ?_⟩
    case attached =>
      unfold Tracker.onPermissionRequest
      rw [target]
    case others =>
      refine before.sameAt_onPermissionRequest fun same => ?_
      exact elsewhere (Option.some_inj.1 (same.symm.trans target))
    have asked := before.call?_onPermissionRequest target
    have told : (before.run ((message.payload?.map Payload.changes).getD [])) =
        (before.onPermissionRequest request).1 := by
      rw [asks]
      rfl
    unfold after
    rw [read, told]
    obtain ⟨call, held, requestId⟩ := Tracker.requestId_applyDisplayStates display asked
    refine ⟨call, held, requestId.trans ?_⟩
    rw [Tracker.Tidy.requestId_askFor]

/-! ### A block against its own message -/

/-- A block that shows a tool use at work, links a request to it, and lists an orphan. -/
def linkingBlock : Display :=
  { tools := some ⟨[("shown", { state := .executing, toolName := none, requestId := none })],
      by simp⟩
    orphans := some [{ toolId := "lost", reason := "gone", message := none }]
    links := some (Table.empty.insert "r" "shown") }

/-- The request, which names no tool use, with that block. -/
def linkedRequest : Message :=
  { Message.ofBlocks "m" .permissionRequest 0 [] with
    metadata := { Metadata.none with
      permissionRequest := some { requestId := "r", toolName := "Bash", input := .null,
                                  toolId := none, suggestions := [] }
      display := some linkingBlock } }

/-- A tool use with the signature of the request, and one that the block has lost. -/
def usedBefore : List StoreChange :=
  [("found", "Bash"), ("lost", "Read")].map fun use =>
    .tools "s" (.toolUse { toolId := use.1, name := use.2, input := .null })

/-- The signature finds another tool use; the request is attached to the linked one. -/
theorem display_stays_of_linkedRequest :
    let log := (empty.run usedBefore).log "s"
    let after := (log.extract linkedRequest).tracker
    Log.display? linkedRequest = some linkingBlock ∧
      log.tracker.findBySignature (toolSignature "Bash" .null) = some "found" ∧
      after.requested? "r" = some "shown" ∧
      (∃ call, after.call? "shown" = some call ∧ call.status = .executing) ∧
      (∃ call, after.call? "shown" = some call ∧ call.requestId = some "r") ∧
      after.isOrphaned "lost" = true ∧ after.unfinished.contains "lost" = false := by
  intro log after
  have shown : Log.display? linkedRequest = some linkingBlock := by decide +kernel
  have found : log.tracker.findBySignature (toolSignature "Bash" .null) = some "found" := by
    decide +kernel
  obtain ⟨states, orphans, links, request⟩ :=
    display_stays usedBefore "s" [] linkedRequest linkingBlock shown
  obtain ⟨-, listed, -, closed⟩ := orphans _ rfl
  obtain ⟨-, -, asked⟩ := request _ "shown" rfl rfl rfl
  exact ⟨shown, found, links "r" "shown" rfl, states "shown" _ rfl, asked,
    (listed "lost").2 ⟨_, List.mem_cons_self, rfl⟩, closed _ List.mem_cons_self⟩

end MessageStore

end SessionSync
