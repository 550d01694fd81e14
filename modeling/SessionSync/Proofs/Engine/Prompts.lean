import SessionSync.Proofs.Engine.Reachability
import SessionSync.Proofs.MessageStore.DisplayBlocks
import SessionSync.Proofs.Tracker.Roster

/-!
# Permission prompts

A permission request reaches the engine as a frame of its own or as the payload of a message.
In both cases the tracker attaches it to a tool use, and the engine announces a prompt with
the tool use that it is for.  For a frame that is the tool use that the tracker answered with.
For a message the engine searches the calls for one that speaks of the request.

The search comes after the whole message was read, so the states of its display block may
have given the call another request, or another call this one.  And calls that spoke of the
request before still do, so what the search finds may depend on the order of the table.  The
prompt names the tool use that the request was attached to exactly if that is the one whose
call speaks of the request in the end (`prompt_names_attached_iff`).
-/

set_option autoImplicit false

namespace SessionSync

/-- The request that the states of a block give a tool use. -/
def Display.requestOf? (display : Display) (toolId : String) : Option String :=
  (display.tool? toolId).bind DisplayedTool.requestId

namespace Tracker

/-- The request that the call of a tool use speaks of. -/
def requestOf? (tracker : Tracker) (toolId : String) : Option String :=
  (tracker.call? toolId).bind ToolCall.requestId

/-- The tool use of the first of some calls that speaks of a request. -/
def firstSpeaking? (requestId : String) (calls : List ToolCall) : Option String :=
  (calls.find? fun call => call.requestId == some requestId).map ToolCall.toolId

/-! ## Requests that calls speak of -/

section Requests

variable (tracker : Tracker) (toolId : String)

theorem requestOf?_applyDisplayLinks (display : Display) :
    (tracker.applyDisplayLinks display).requestOf? toolId = tracker.requestOf? toolId := by
  unfold applyDisplayLinks
  cases display.links with
  | none => rfl
  | some links =>
      dsimp only
      rw [foldl_link]
      rfl

/-- A request is written into the call that it is attached to. -/
theorem requestOf?_onPermissionRequest (request : PermissionRequest) :
    (tracker.onPermissionRequest request).1.requestOf? toolId =
      if (tracker.onPermissionRequest request).2 = some toolId then some request.requestId
      else tracker.requestOf? toolId := by
  have attached : (tracker.onPermissionRequest request).2 = tracker.requestTarget? request := by
    unfold onPermissionRequest
    cases tracker.requestTarget? request <;> rfl
  rw [attached]
  unfold requestOf?
  by_cases target : tracker.requestTarget? request = some toolId
  · rw [if_pos target, tracker.call?_onPermissionRequest target, Option.bind_some,
      Tidy.requestId_askFor]
  · rw [if_neg target, (tracker.sameAt_onPermissionRequest target).call]

theorem requestOf?_applyDisplayedTool (shownId : String) (tool : DisplayedTool) :
    (tracker.applyDisplayedTool shownId tool).requestOf? toolId =
      if toolId = shownId then tool.requestId.or (tracker.requestOf? toolId)
      else tracker.requestOf? toolId := by
  unfold requestOf?
  split
  · rename_i here
    subst here
    rw [call?_applyDisplayedTool_self, Option.bind_some]
    cases held : tracker.call? toolId with
    | some call =>
        rw [callOrStart_of_call held]
        rfl
    | none =>
        rw [callOrStart_of_new held]
        rfl
  · rename_i other
    rw [(tracker.sameAt_applyDisplayedTool other tool).call]

theorem requestOf?_applyShown {entries : List (String × DisplayedTool)}
    (distinct : (entries.map Prod.fst).Nodup) :
    (tracker.applyShown entries).requestOf? toolId =
      ((valueAt? toolId entries).bind DisplayedTool.requestId).or (tracker.requestOf? toolId) := by
  induction entries generalizing tracker with
  | nil => rfl
  | cons entry rest ih =>
      obtain ⟨fresh, others⟩ := List.nodup_cons.1 distinct
      rw [applyShown_cons, ih _ others, requestOf?_applyDisplayedTool, valueAt?]
      by_cases here : toolId = entry.1
      · have absent : valueAt? toolId rest = none :=
          valueAt?_eq_none_of_forall fun other member same =>
            fresh (List.mem_map.2 ⟨other, member, same.symm.trans here⟩)
        rw [absent, if_pos here, if_pos here]
        rfl
      · rw [if_neg here, if_neg here]

theorem requestOf?_replaceOrphans (notices : List OrphanNotice) :
    (tracker.replaceOrphans notices).requestOf? toolId = tracker.requestOf? toolId := by
  unfold requestOf?
  rw [call?_replaceOrphans, Option.bind_map]
  congr 1
  funext call
  obtain ⟨_, _, _, ruled⟩ :=
    ruleOn_eq (judged? notices toolId) (tracker.isOrphaned toolId) call
  rw [Function.comp_apply, ruled]

/-- What the states of a block give a call takes the place of what it spoke of before. -/
theorem requestOf?_applyDisplayStates (display : Display) :
    (tracker.applyDisplayStates display).requestOf? toolId =
      (display.requestOf? toolId).or (tracker.requestOf? toolId) := by
  have told := tracker.requestOf?_applyShown toolId display.nodup_shown
  rw [Display.valueAt?_shown] at told
  rw [applyDisplayStates_eq, applyDisplayedTools_eq]
  cases display.orphans with
  | none => exact told
  | some notices => exact (requestOf?_replaceOrphans _ toolId notices).trans told

end Requests

/-! ## Searching the calls -/

section Search

variable {sessionId : String} {seen : List String} {tracker : Tracker} {requestId : String}
  {calls : List ToolCall} (roster : Roster sessionId seen tracker)
include roster

theorem requestOf?_of_firstSpeaking? (order : calls.Perm tracker.calls.values) {toolId : String}
    (found : firstSpeaking? requestId calls = some toolId) :
    tracker.requestOf? toolId = some requestId := by
  obtain ⟨call, first, rfl⟩ := Option.map_eq_some_iff.1 found
  have chosen := List.find?_some first
  have speaks : call.requestId = some requestId := beq_iff_eq.1 chosen
  have held := roster.of_mem_values (order.mem_iff.1 (List.mem_of_find?_eq_some first))
  unfold requestOf?
  rw [held]
  exact speaks

/-- In some order of the table a call that speaks of a request comes first. -/
theorem exists_firstSpeaking? {toolId : String}
    (speaks : tracker.requestOf? toolId = some requestId) :
    ∃ calls : List ToolCall, calls.Perm tracker.calls.values ∧
      firstSpeaking? requestId calls = some toolId := by
  obtain ⟨call, held, asks⟩ := Option.bind_eq_some_iff.1 speaks
  have member : call ∈ tracker.calls.values :=
    List.mem_map.2 ⟨(toolId, call), Table.mem_entries_iff.2 held, rfl⟩
  refine ⟨call :: tracker.calls.values.erase call, (List.perm_cons_erase member).symm, ?_⟩
  have chosen : (call.requestId == some requestId) = true := beq_iff_eq.2 asks
  unfold firstSpeaking?
  rw [List.find?_cons, chosen]
  exact congrArg some (roster.identity_of_call held).2.1

/-- **The search is sure of a tool use**, whatever the order of the table, exactly if its call
is the only one that speaks of the request. -/
theorem firstSpeaking?_eq_iff (attached : Option String) :
    (∀ calls : List ToolCall, calls.Perm tracker.calls.values →
        firstSpeaking? requestId calls = attached) ↔
      ∀ toolId, tracker.requestOf? toolId = some requestId ↔ attached = some toolId := by
  constructor
  · intro sure toolId
    constructor
    · intro speaks
      obtain ⟨calls, order, found⟩ := exists_firstSpeaking? roster speaks
      exact (sure calls order).symm.trans found
    · intro here
      exact requestOf?_of_firstSpeaking? roster (.refl _) ((sure _ (.refl _)).trans here)
  · intro alone calls order
    cases found : firstSpeaking? requestId calls with
    | some toolId =>
        exact ((alone toolId).1 (requestOf?_of_firstSpeaking? roster order found)).symm
    | none =>
        cases attached with
        | none => rfl
        | some toolId =>
            obtain ⟨call, held, asks⟩ := Option.bind_eq_some_iff.1 ((alone toolId).2 rfl)
            have member : call ∈ tracker.calls.values :=
              List.mem_map.2 ⟨(toolId, call), Table.mem_entries_iff.2 held, rfl⟩
            have silent := List.find?_eq_none.1 (Option.map_eq_none_iff.1 found) call
              (order.mem_iff.2 member)
            exact absurd (beq_iff_eq.2 asks) silent

/-- A request that names its tool use itself is not searched for. -/
theorem or_firstSpeaking?_eq_iff {request : PermissionRequest} {attached : Option String}
    (explicitly : ∀ toolId, request.toolId = some toolId → attached = some toolId) :
    (∀ calls : List ToolCall, calls.Perm tracker.calls.values →
        request.toolId.or (firstSpeaking? request.requestId calls) = attached) ↔
      request.toolId.isSome = true ∨
        ∀ toolId, tracker.requestOf? toolId = some request.requestId ↔ attached = some toolId := by
  cases named : request.toolId with
  | some toolId =>
      refine iff_of_true (fun calls _ => ?_) (Or.inl rfl)
      rw [Option.some_or]
      exact (explicitly toolId named).symm
  | none =>
      simp only [Option.none_or, Option.isSome_none, Bool.false_eq_true, false_or]
      exact firstSpeaking?_eq_iff roster attached

end Search

end Tracker

namespace Log

/-- The display block of a message, or one that says nothing. -/
def displayed (message : Message) : Display :=
  (display? message).getD { tools := none, orphans := none, links := none }

/-- A message that asks: the links of its block, the request, then the states of its block. -/
theorem tracker_run_changes_of_request {message : Message} {request : PermissionRequest}
    (asks : message.payload? = some (.permissionRequest request)) (tracker : Tracker) :
    tracker.run message.changes =
      ((tracker.applyDisplayLinks (displayed message)).onPermissionRequest
        request).1.applyDisplayStates (displayed message) := by
  unfold Message.changes displayed
  rw [asks]
  cases display? message with
  | none => rfl
  | some display => rfl

end Log

namespace Engine

/-! ## Prompts -/

/-- The calls of a session of a reachable engine have the ids under which they are kept. -/
theorem Reachable.exists_roster {config : Config} {engine : Engine}
    (reachable : Reachable config engine) (sessionId : String) :
    ∃ seen, Tracker.Roster sessionId seen (engine.messages.log sessionId).tracker := by
  obtain ⟨changes, same⟩ := reachable.precedes
  have begins : (MessageStore.empty.log sessionId).tracker = (Tracker.new sessionId).run [] := rfl
  rw [same, MessageStore.tracker_log_run begins]
  exact ⟨_, Tracker.roster_run sessionId _⟩

/-- A frame that asks is announced with the tool use that the tracker has attached it to. -/
theorem applyFrame_permissionRequest (engine : Engine) {channel : Channel} {sessionId : String}
    (reaches : channel.sessionId? = some sessionId) (request : PermissionRequest) :
    (engine.applyFrame channel (.permissionRequest request)).2 =
      [.publish (.toolCallsChanged sessionId),
        .publish (.permissionRequested sessionId request.requestId
          ((engine.messages.log sessionId).tracker.onPermissionRequest request).2)] := by
  have addressed : frameScope channel (.permissionRequest request) = some sessionId := reaches
  unfold applyFrame
  dsimp only
  rw [addressed]
  rfl

/-- A new message that asks is announced with the tool use that it names or that the search
finds. -/
theorem applyFrame_message_of_request (engine : Engine) {channel : Channel}
    {explicit : Option String} {sessionId : String} {message : Message}
    {request : PermissionRequest} (reaches : scope explicit channel = some sessionId)
    (asks : message.payload? = some (.permissionRequest request))
    (fresh : (engine.messages.log sessionId).ids.contains message.messageId = false) :
    let after := (engine.messages.log sessionId).tracker.run message.changes
    let next := engine.applyFrame channel (.message explicit message)
    (next.1.messages.log sessionId).tracker = after ∧
      next.2 = [.publish (.messagesChanged sessionId), .publish (.toolCallsChanged sessionId),
        .publish (.permissionRequested sessionId request.requestId
          (request.toolId.or (Tracker.firstSpeaking? request.requestId after.inOrder)))] := by
  intro after next
  have addressed : frameScope channel (.message explicit message) = some sessionId := reaches
  have read : ((engine.messages.addMessage sessionId message).1.log sessionId).tracker = after := by
    rw [MessageStore.log_addMessage, Log.add_eq fresh]
  have new : (engine.messages.addMessage sessionId message).2 = true := by
    unfold MessageStore.addMessage
    rw [Log.add_eq fresh]
  have searched : ∀ engine : Engine, engine.toolOfRequest sessionId request.requestId =
      Tracker.firstSpeaking? request.requestId (engine.messages.log sessionId).tracker.inOrder := by
    intro engine
    unfold toolOfRequest
    rw [MessageStore.toolCalls_eq]
    rfl
  have applied : next = published (engine.addMessage sessionId message) := by
    unfold next applyFrame
    dsimp only
    rw [addressed]
    rfl
  rw [applied]
  unfold addMessage published
  dsimp only
  rw [new, if_pos rfl, asks]
  dsimp only
  rw [searched, read]
  exact ⟨rfl, rfl⟩

/-- **What a prompt names.**  A request that comes over the stream of a session as a frame of
its own is announced with the tool use that the tracker has attached it to.

A request that comes as the payload of a new message is announced with the tool use that it
names itself, or else with one whose call speaks of the request once the message was read.
A call then speaks of the request that the states of the display block give it, or else of
this one if it was attached to it, or else of what it spoke of before.  The prompt names the
tool use that the request was attached to in every order of the table exactly if the request
names it itself, or if its call is the only one that speaks of the request in the end and it
does so; where the request was attached to none, exactly if no call speaks of it. -/
theorem prompt_names_attached_iff {config : Config} {engine : Engine}
    (reachable : Reachable config engine) (running : engine.running = true) (streamed : String)
    (generation : Nat) (request : PermissionRequest) :
    let asking : ChannelEvent :=
      .frame (.session streamed) generation (.permissionRequest request)
    (engine.accepts asking = true →
      (engine.step (.channel asking)).2 = [.publish (.toolCallsChanged streamed),
        .publish (.permissionRequested streamed request.requestId
          ((engine.messages.log streamed).tracker.onPermissionRequest request).2)]) ∧
    ∀ (explicit : Option String) (message : Message) (sessionId : String),
      let frame : ChannelEvent :=
        .frame (.session streamed) generation (.message explicit message)
      let block := Log.displayed message
      let before := (engine.messages.log sessionId).tracker
      let attached := ((before.applyDisplayLinks block).onPermissionRequest request).2
      let after := ((engine.step (.channel frame)).1.messages.log sessionId).tracker
      let named := fun calls : List ToolCall =>
        request.toolId.or (Tracker.firstSpeaking? request.requestId calls)
      engine.accepts frame = true → scope explicit (.session streamed) = some sessionId →
      message.payload? = some (.permissionRequest request) →
      (engine.messages.log sessionId).ids.contains message.messageId = false →
        (engine.step (.channel frame)).2 = [.publish (.messagesChanged sessionId),
          .publish (.toolCallsChanged sessionId),
          .publish (.permissionRequested sessionId request.requestId (named after.inOrder))] ∧
        (∀ toolId, after.requestOf? toolId = (block.requestOf? toolId).or
          (if attached = some toolId then some request.requestId
            else before.requestOf? toolId)) ∧
        ((∀ calls : List ToolCall, calls.Perm after.calls.values → named calls = attached) ↔
          request.toolId.isSome = true ∨
            ∀ toolId, after.requestOf? toolId = some request.requestId ↔
              attached = some toolId) := by
  intro asking
  refine ⟨fun accepted => ?frame, ?message⟩
  case frame =>
    rw [effects_step_frame running accepted]
    exact engine.applyFrame_permissionRequest rfl request
  case message =>
    intro explicit message sessionId frame block before attached after named accepted reaches asks
      fresh
    obtain ⟨read, told⟩ := engine.applyFrame_message_of_request reaches asks fresh
    have becomes : after = ((before.applyDisplayLinks block).onPermissionRequest
        request).1.applyDisplayStates block := by
      unfold after
      rw [(step_frame running accepted).2, read]
      exact Log.tracker_run_changes_of_request asks _
    obtain ⟨seen, roster⟩ := (reachable.step (.channel frame)).exists_roster sessionId
    refine ⟨?effects, fun toolId => ?speaks, ?sure⟩
    case effects =>
      rw [effects_step_frame running accepted, told]
      unfold named after
      rw [(step_frame running accepted).2, read]
    case speaks =>
      rw [becomes, Tracker.requestOf?_applyDisplayStates,
        Tracker.requestOf?_onPermissionRequest, Tracker.requestOf?_applyDisplayLinks]
    case sure =>
      refine Tracker.or_firstSpeaking?_eq_iff roster fun toolId explicitly => ?_
      unfold attached Tracker.onPermissionRequest
      rw [Tracker.requestTarget?_of_toolId _ explicitly]

/-! ### A block that gives the call another request -/

/-- An engine that follows a session and has seen a tool use. -/
def followingTool : Engine :=
  let page : Backend.Page := { messages := [], totalCount := 0, hasMore := false }
  let used := Message.ofBlocks "1" .assistant 0
    [.toolUse { toolId := "t", name := "Bash", input := .null }]
  (Engine.new {}).run [.command 0 (.selectSession "s"), .selection 1 (.history page),
    .channel (.frame (.session "s") 3 (.message none used))]

theorem reachable_followingTool : Reachable {} followingTool := by
  have begins : Reachable {} (Engine.new {}) := .new
  exact ((begins.step _).step _).step _

/-- A request for the tool use, which it does not name. -/
def bashRequest : PermissionRequest :=
  { requestId := "r", toolName := "Bash", input := .null, toolId := none, suggestions := [] }

/-- The request with a block that shows the tool use waiting for another one. -/
def displacedRequest : Message :=
  { Message.ofBlocks "2" .permissionRequest 1 [] with
    metadata := { Metadata.none with
      permissionRequest := some bashRequest
      display := some
        { tools := some ⟨[("t",
            { state := .awaitingPermission, toolName := none, requestId := some "q" })], by simp⟩
          orphans := none
          links := none } } }

/-- The request is attached to the tool use both times; the frame is announced with it, the
message with none. -/
theorem prompt_names_attached_iff_of_displacedRequest :
    let asking : ChannelEvent := .frame (.session "s") 3 (.permissionRequest bashRequest)
    let telling : ChannelEvent := .frame (.session "s") 3 (.message none displacedRequest)
    let after := ((followingTool.step (.channel telling)).1.messages.log "s").tracker
    Reachable {} followingTool ∧
      ((followingTool.messages.log "s").tracker.onPermissionRequest bashRequest).2 = some "t" ∧
      .publish (.permissionRequested "s" "r" (some "t")) ∈
        (followingTool.step (.channel asking)).2 ∧
      .publish (.permissionRequested "s" "r" none) ∈ (followingTool.step (.channel telling)).2 ∧
      after.requestOf? "t" = some "q" ∧
      ¬ ∀ calls : List ToolCall, calls.Perm after.calls.values →
        Tracker.firstSpeaking? "r" calls = some "t" := by
  intro asking telling after
  have attached :
      ((followingTool.messages.log "s").tracker.onPermissionRequest bashRequest).2 = some "t" := by
    decide +kernel
  have unfound : Tracker.firstSpeaking? "r" after.inOrder = none := by decide +kernel
  obtain ⟨frame, message⟩ := prompt_names_attached_iff reachable_followingTool (by decide +kernel)
    "s" 3 bashRequest
  have asked := frame (by decide +kernel)
  rw [attached] at asked
  obtain ⟨told, speaks, sure⟩ := message none displacedRequest "s" (by decide +kernel) rfl rfl
    (by decide +kernel)
  have announced : (followingTool.step (.channel telling)).2 =
      [.publish (.messagesChanged "s"), .publish (.toolCallsChanged "s"),
        .publish (.permissionRequested "s" "r" (Tracker.firstSpeaking? "r" after.inOrder))] := told
  rw [unfound] at announced
  have displaced : after.requestOf? "t" = some "q" := speaks "t"
  refine ⟨reachable_followingTool, attached, ?_, ?_, displaced, fun always => ?_⟩
  · rw [asked]
    simp [bashRequest]
  · rw [announced]
    simp
  · have alone := (sure.1 always).resolve_left Bool.false_ne_true
    have speaking : after.requestOf? "t" = some "r" := (alone "t").2 attached
    rw [displaced] at speaking
    exact absurd speaking (by decide)

end Engine

end SessionSync
