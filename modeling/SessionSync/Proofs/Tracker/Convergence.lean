import Mathlib.Data.List.TakeWhile
import SessionSync.Proofs.Json.Colons
import SessionSync.Proofs.Tracker.Records

/-!
# Records that come late, again, or out of order

The older protocol tells of a tool use in up to four records: the use, the request for
permission, the answer, and the result of a tool that was allowed.  They may come in any
order and any number of times.  A call's final state then does not depend on that, with
one exception: an answer does not create a call, so an answer that comes before
everything else is lost, and the call never learns of the decision unless the answer
comes again.

`converges_iff` is the exact condition: the call is the one that the records leave in
the order of the protocol, apart from its place in the order of creation, exactly if an
answer comes after some record that is not an answer.

The proof gives the call in closed form (`Exchange.callWhen`): whatever the order was,
it is the call that the records heard so far leave in the order of the protocol.  For
this every record has to commute with those that come after it in the protocol and to
do nothing when it comes again.
-/

set_option autoImplicit false

namespace SessionSync

/-! ## The records of one tool use -/

/-- What the older protocol tells of one tool use.  There is a result exactly if the use
was allowed. -/
structure Exchange where
  toolUse : ToolUse
  request : PermissionRequest
  response : PermissionResponse
  result : Option ToolResult
  asks : request.toolId = some toolUse.toolId ∧ request.toolName = toolUse.name ∧
    request.input = toolUse.input
  answers : response.toolId = some toolUse.toolId ∧ response.requestId = request.requestId
  reports : ∀ reported, result = some reported → reported.toolId = toolUse.toolId
  ends : result.isSome = true ↔ response.decision = .allow

namespace Exchange

variable (exchange : Exchange)

/-- The records in the order of the protocol. -/
def records : List TrackerChange :=
  [.toolUse exchange.toolUse, .permissionRequest exchange.request,
    .permissionResponse exchange.response] ++ exchange.result.toList.map .toolResult

variable {exchange}

theorem mem_records {change : TrackerChange} (member : change ∈ exchange.records) :
    change = .toolUse exchange.toolUse ∨ change = .permissionRequest exchange.request ∨
      change = .permissionResponse exchange.response ∨
        ∃ result, exchange.result = some result ∧ change = .toolResult result := by
  simpa [records, or_assoc, eq_comm] using member

end Exchange

namespace TrackerChange

/-- Whether a change is a tool use. -/
def isUse : TrackerChange → Bool
  | .toolUse _ => true
  | _ => false

/-- Whether a change is a permission request. -/
def isRequest : TrackerChange → Bool
  | .permissionRequest _ => true
  | _ => false

/-- Whether a change is the answer to a permission request. -/
def isAnswer : TrackerChange → Bool
  | .permissionResponse _ => true
  | _ => false

/-- Whether a change is a result. -/
def isResult : TrackerChange → Bool
  | .toolResult _ => true
  | _ => false

end TrackerChange

namespace Tracker

/-! ## Records that come again or in another order -/

section Touches

variable {toolUse : ToolUse} {request : PermissionRequest} {response : PermissionResponse}
  {result : ToolResult} {call : ToolCall}

theorem askFor_askFor : askFor request (askFor request call) = askFor request call := by
  cases early : isUnanswered call with
  | true =>
      rw [askFor_of_unanswered early, askFor_of_unanswered rfl]
      cases request.suggestions.isEmpty <;> rfl
  | false =>
      have late : isUnanswered (askFor request call) = false := by
        rw [askFor_of_answered early]
        exact early
      rw [askFor_of_answered late, askFor_of_answered early]
      cases request.suggestions.isEmpty <;> rfl

theorem answerWith_answerWith :
    answerWith response (answerWith response call) = answerWith response call := by
  cases finished : call.status.isTerminal with
  | true =>
      have still : (answerWith response call).status.isTerminal = true := by
        rw [answerWith_of_finished finished]
        exact finished
      rw [answerWith_of_finished still, answerWith_of_finished finished]
  | false =>
      cases decided : response.decision with
      | allow => rw [answerWith_of_allow finished decided, answerWith_of_allow rfl decided]
      | deny =>
          rw [answerWith_of_deny finished decided, answerWith_of_finished rfl, decided]

theorem finishWith_finishWith :
    finishWith result (finishWith result call) = finishWith result call := rfl

theorem isTerminal_finishWith : (finishWith result call).status.isTerminal = true := by
  unfold finishWith
  cases result.isError <;> rfl

theorem isUnanswered_finishWith : isUnanswered (finishWith result call) = false := by
  unfold isUnanswered finishWith
  cases result.isError <;> rfl

/-- A request before the result and a request after it leave the same call. -/
theorem askFor_finishWith :
    askFor request (finishWith result call) = finishWith result (askFor request call) := by
  rw [askFor_of_answered isUnanswered_finishWith]
  cases early : isUnanswered call with
  | true => rw [askFor_of_unanswered early]; rfl
  | false => rw [askFor_of_answered early]; rfl

theorem answerWith_finishWith :
    answerWith response (finishWith result call) = finishWith result (answerWith response call) := by
  rw [answerWith_of_finished isTerminal_finishWith]
  cases finished : call.status.isTerminal with
  | true => rw [answerWith_of_finished finished]; rfl
  | false =>
      cases decided : response.decision with
      | allow => rw [answerWith_of_allow finished decided]; rfl
      | deny => rw [answerWith_of_deny finished decided]; rfl

/-- The answer may come before its request, once there is a call.  The call has to be
expanded, since a request expands it and an answer does not. -/
theorem askFor_answerWith (expanded : call.expanded = true)
    (same : response.requestId = request.requestId) :
    askFor request (answerWith response call) = answerWith response (askFor request call) := by
  obtain ⟨toolId, sessionId, toolName, input, status, requestId, decision, suggestions, outcome,
    shown, orphaned, orphanReason, seq⟩ := call
  cases expanded
  cases decided : response.decision <;> cases status <;>
    simp [askFor, answerWith, decided, same, ToolStatus.isTerminal]

theorem decision_answerWith (response : PermissionResponse) (call : ToolCall) :
    (answerWith response call).decision = some response.decision := by
  cases finished : call.status.isTerminal with
  | true => rw [answerWith_of_finished finished]
  | false =>
      cases decided : response.decision with
      | allow => rw [answerWith_of_allow finished decided]
      | deny => rw [answerWith_of_deny finished decided]

/-- No other record looks at name and input. -/
theorem askFor_renamed (toolName : String) (input : Json) :
    askFor request (renamed toolName input call) = renamed toolName input (askFor request call) := by
  unfold askFor renamed
  cases call.status <;> simp

theorem answerWith_renamed (toolName : String) (input : Json) :
    answerWith response (renamed toolName input call) =
      renamed toolName input (answerWith response call) := by
  unfold answerWith renamed
  cases finished : call.status.isTerminal with
  | true => simp [finished]
  | false => cases response.decision <;> simp [finished]

theorem nameAs_askFor :
    nameAs toolUse (askFor request call) = askFor request (nameAs toolUse call) := by
  have kept : askFor request call = renamed call.toolName call.input (askFor request call) :=
    askFor_renamed call.toolName call.input
  have named : (askFor request call).signature = call.signature := by
    rw [kept]
    rfl
  unfold nameAs
  rw [named]
  split
  · rfl
  · rw [askFor_renamed]

theorem nameAs_answerWith :
    nameAs toolUse (answerWith response call) = answerWith response (nameAs toolUse call) := by
  have kept : answerWith response call =
      renamed call.toolName call.input (answerWith response call) :=
    answerWith_renamed call.toolName call.input
  have named : (answerWith response call).signature = call.signature := by
    rw [kept]
    rfl
  unfold nameAs
  rw [named]
  split
  · rfl
  · rw [answerWith_renamed]

theorem nameAs_finishWith :
    nameAs toolUse (finishWith result call) = finishWith result (nameAs toolUse call) := by
  unfold nameAs
  split
  · rename_i named
    rw [if_pos (show call.signature = _ from named)]
  · rename_i unnamed
    rw [if_neg (show ¬ call.signature = _ from unnamed)]
    rfl

end Touches

/-! ## A call apart from its place -/

/-- A call without its place in the order of creation. -/
def unplaced (call : ToolCall) : ToolCall := { call with seq := 0 }

section Unplaced

variable (call : ToolCall)

theorem unplaced_nameAs (toolUse : ToolUse) :
    unplaced (nameAs toolUse call) = nameAs toolUse (unplaced call) := by
  have named : (unplaced call).signature = call.signature := rfl
  unfold nameAs
  rw [named]
  split <;> rfl

theorem unplaced_askFor (request : PermissionRequest) :
    unplaced (askFor request call) = askFor request (unplaced call) := by
  unfold askFor unplaced
  cases call.status <;> simp

theorem unplaced_answerWith (response : PermissionResponse) :
    unplaced (answerWith response call) = answerWith response (unplaced call) := by
  unfold answerWith unplaced
  cases finished : call.status.isTerminal with
  | true => simp [finished]
  | false => cases response.decision <;> simp [finished]

theorem unplaced_finishWith (result : ToolResult) :
    unplaced (finishWith result call) = finishWith result (unplaced call) := rfl

end Unplaced

theorem sessionId_onPermissionResponse (tracker : Tracker) (response : PermissionResponse) :
    (tracker.onPermissionResponse response).1.sessionId = tracker.sessionId := by
  unfold onPermissionResponse
  cases response.toolId.or (tracker.requested? response.requestId) with
  | none => rfl
  | some toolId =>
      dsimp only
      cases (tracker.link response.requestId toolId).call? toolId with
      | none => rfl
      | some call =>
          dsimp only
          split <;> rfl

/-- What a tracker has of a tool use, apart from the place of the call. -/
def unplaced? (tracker : Tracker) (toolId : String) : Option ToolCall :=
  (tracker.call? toolId).map unplaced

end Tracker

/-! ## What has been heard -/

/-- Which records a call has taken in. -/
structure Heard where
  named : Bool
  asked : Bool
  answered : Bool
  reported : Bool

namespace Heard

/-- What a call has taken in with the record that created it. -/
def first (change : TrackerChange) : Heard :=
  { named := change.isUse || change.isRequest, asked := change.isRequest, answered := false
    reported := change.isResult }

/-- What a call has taken in with one more record. -/
def add (heard : Heard) (change : TrackerChange) : Heard :=
  { named := heard.named || change.isUse, asked := heard.asked || change.isRequest
    answered := heard.answered || change.isAnswer
    reported := heard.reported || change.isResult }

/-- What the call has taken in after one more record.  An answer creates no call. -/
def next : Option Heard → TrackerChange → Option Heard
  | some heard, change => some (heard.add change)
  | none, change => if change.isAnswer then none else some (first change)

section Adding

variable (heard : Heard)

theorem add_toolUse (toolUse : ToolUse) :
    heard.add (.toolUse toolUse) = { heard with named := true } := by
  simp [add, TrackerChange.isUse, TrackerChange.isRequest, TrackerChange.isAnswer,
    TrackerChange.isResult]

theorem add_permissionRequest (request : PermissionRequest) :
    heard.add (.permissionRequest request) = { heard with asked := true } := by
  simp [add, TrackerChange.isUse, TrackerChange.isRequest, TrackerChange.isAnswer,
    TrackerChange.isResult]

theorem add_permissionResponse (response : PermissionResponse) :
    heard.add (.permissionResponse response) = { heard with answered := true } := by
  simp [add, TrackerChange.isUse, TrackerChange.isRequest, TrackerChange.isAnswer,
    TrackerChange.isResult]

theorem add_toolResult (result : ToolResult) :
    heard.add (.toolResult result) = { heard with reported := true } := by
  simp [add, TrackerChange.isUse, TrackerChange.isRequest, TrackerChange.isAnswer,
    TrackerChange.isResult]

end Adding

theorem foldl_next_some (heard : Heard) (changes : List TrackerChange) :
    changes.foldl next (some heard) =
      some
        { named := heard.named || changes.any TrackerChange.isUse
          asked := heard.asked || changes.any TrackerChange.isRequest
          answered := heard.answered || changes.any TrackerChange.isAnswer
          reported := heard.reported || changes.any TrackerChange.isResult } := by
  induction changes generalizing heard with
  | nil => simp
  | cons change rest ih => simp [next, ih, add, Bool.or_assoc]

/-- Answers at the beginning are lost. -/
theorem foldl_next_none (changes : List TrackerChange) :
    changes.foldl next none = (changes.dropWhile TrackerChange.isAnswer).foldl next none := by
  induction changes with
  | nil => rfl
  | cons change rest ih =>
      cases answer : change.isAnswer with
      | true => simpa [next, answer] using ih
      | false => simp [answer]

end Heard

namespace Exchange

open Tracker

variable (exchange : Exchange) (sessionId : String)

/-- Change a call only if a condition holds. -/
def touchIf (condition : Bool) (touch : ToolCall → ToolCall) (call : ToolCall) : ToolCall :=
  if condition then touch call else call

/-- The call that is created by a record that names the tool, or by one that does not. -/
def startWhen (named : Bool) : ToolCall :=
  if named then
    ToolCall.start sessionId exchange.toolUse.toolId exchange.toolUse.name exchange.toolUse.input 0
  else ToolCall.start sessionId exchange.toolUse.toolId "" .null 0

/-- What the result makes of the call, if there is one. -/
def finish : ToolCall → ToolCall :=
  match exchange.result with
  | some result => finishWith result
  | none => id

/-- The call that has taken in some of the records, in the order of the protocol. -/
def callWhen (heard : Heard) : ToolCall :=
  touchIf heard.reported exchange.finish
    (touchIf heard.answered (answerWith exchange.response)
      (touchIf heard.asked (askFor exchange.request) (exchange.startWhen sessionId heard.named)))

section CallWhen

variable {exchange sessionId} {call : ToolCall} {touch other : ToolCall → ToolCall}

theorem touchIf_comm (condition : Bool) (commute : touch (other call) = other (touch call)) :
    touch (touchIf condition other call) = touchIf condition other (touch call) := by
  cases condition
  · rfl
  · exact commute

theorem touchIf_again (condition : Bool) (again : touch (touch call) = touch call) :
    touch (touchIf condition touch call) = touchIf true touch call := by
  cases condition
  · rfl
  · exact again

theorem askFor_finish (request : PermissionRequest) :
    askFor request (exchange.finish call) = exchange.finish (askFor request call) := by
  unfold finish
  cases exchange.result with
  | none => rfl
  | some result => exact askFor_finishWith

theorem answerWith_finish (response : PermissionResponse) :
    answerWith response (exchange.finish call) = exchange.finish (answerWith response call) := by
  unfold finish
  cases exchange.result with
  | none => rfl
  | some result => exact answerWith_finishWith

theorem nameAs_finish (toolUse : ToolUse) :
    nameAs toolUse (exchange.finish call) = exchange.finish (nameAs toolUse call) := by
  unfold finish
  cases exchange.result with
  | none => rfl
  | some result => exact nameAs_finishWith

theorem finish_finish : exchange.finish (exchange.finish call) = exchange.finish call := by
  unfold finish
  cases exchange.result with
  | none => rfl
  | some result => exact finishWith_finishWith

/-- The call of a result that came first has neither name nor input; the use brings
both. -/
theorem nameAs_startWhen (named : Bool) :
    nameAs exchange.toolUse (exchange.startWhen sessionId named) =
      exchange.startWhen sessionId true := by
  cases named with
  | true => exact if_pos rfl
  | false =>
      unfold nameAs
      -- A use is passed over only if its name is empty and its input is null: the input's
      -- text tells null from every other value.
      split
      · rename_i nameless
        obtain ⟨name, input⟩ := eq_of_toolSignature_nameless nameless.symm
        simp [startWhen, name, input]
      · rfl

theorem expanded_asked (asked named : Bool) :
    (touchIf asked (askFor exchange.request) (exchange.startWhen sessionId named)).expanded =
      true := by
  cases asked <;> cases named <;> rfl

variable (exchange sessionId) (heard : Heard)

theorem nameAs_callWhen :
    nameAs exchange.toolUse (exchange.callWhen sessionId heard) =
      exchange.callWhen sessionId { heard with named := true } := by
  unfold callWhen
  rw [touchIf_comm _ (nameAs_finish _), touchIf_comm _ nameAs_answerWith,
    touchIf_comm _ nameAs_askFor, nameAs_startWhen]

theorem askFor_callWhen :
    askFor exchange.request (exchange.callWhen sessionId heard) =
      exchange.callWhen sessionId { heard with asked := true } := by
  unfold callWhen
  rw [touchIf_comm _ (askFor_finish _),
    touchIf_comm _ (askFor_answerWith (expanded_asked _ _) exchange.answers.2),
    touchIf_again _ askFor_askFor]

theorem answerWith_callWhen :
    answerWith exchange.response (exchange.callWhen sessionId heard) =
      exchange.callWhen sessionId { heard with answered := true } := by
  unfold callWhen
  rw [touchIf_comm _ (answerWith_finish _), touchIf_again _ answerWith_answerWith]

theorem finish_callWhen :
    exchange.finish (exchange.callWhen sessionId heard) =
      exchange.callWhen sessionId { heard with reported := true } :=
  touchIf_again _ finish_finish

/-- Only the answer decides. -/
theorem decision_callWhen :
    (exchange.callWhen sessionId heard).decision =
      if heard.answered then some exchange.response.decision else none := by
  have finished : ∀ call, (exchange.finish call).decision = call.decision := by
    unfold finish
    cases exchange.result <;> exact fun _ => rfl
  have undecided : ∀ call, (askFor exchange.request call).decision = call.decision := by
    intro call
    cases early : isUnanswered call with
    | true => rw [askFor_of_unanswered early]
    | false => rw [askFor_of_answered early]
  have decided : ∀ call, (answerWith exchange.response call).decision =
      some exchange.response.decision := decision_answerWith _
  have begun : (exchange.startWhen sessionId heard.named).decision = none := by
    cases heard.named <;> rfl
  unfold callWhen touchIf
  cases heard.reported <;> cases heard.answered <;> cases heard.asked <;>
    simp [finished, decided, undecided, begun]

theorem decision_of_unplaced {call : ToolCall} {heard : Heard}
    (view : unplaced call = exchange.callWhen sessionId heard) :
    call.decision = if heard.answered then some exchange.response.decision else none := by
  rw [← decision_callWhen exchange sessionId heard, ← view]
  rfl

end CallWhen

/-! ## What the tracker has -/

/-- A tracker has heard of a tool use what is said of it. -/
structure Stands (tracker : Tracker) (heard : Option Heard) : Prop where
  session : heard = none → tracker.sessionId = sessionId
  call : tracker.unplaced? exchange.toolUse.toolId = heard.map (exchange.callWhen sessionId)

variable {exchange sessionId} {tracker : Tracker} {heard : Option Heard}

theorem Stands.of_unseen (session : tracker.sessionId = sessionId)
    (unseen : tracker.call? exchange.toolUse.toolId = none) :
    Stands exchange sessionId tracker none := by
  refine ⟨fun _ => session, ?_⟩
  unfold unplaced?
  rw [unseen]
  rfl

/-- The call that a record finds or creates. -/
theorem Stands.unplaced_callOrStart (stands : Stands exchange sessionId tracker heard)
    (toolName : String) (input : Json) :
    unplaced (tracker.callOrStart exchange.toolUse.toolId toolName input) =
      (heard.map (exchange.callWhen sessionId)).getD
        (ToolCall.start sessionId exchange.toolUse.toolId toolName input 0) := by
  have call := stands.call
  unfold unplaced? at call
  rw [← call]
  cases held : tracker.call? exchange.toolUse.toolId with
  | some call => rw [callOrStart_of_call held]; rfl
  | none =>
      rw [held] at call
      have unheard : heard = none := by
        cases heard with
        | none => rfl
        | some heard => cases call
      rw [callOrStart_of_new held, stands.session unheard]
      rfl

/-- A record that finds or creates the call and is heard. -/
theorem Stands.of_touch {after : Tracker} {touch : ToolCall → ToolCall} {toolName : String}
    {input : Json} {now : Heard} (stands : Stands exchange sessionId tracker heard)
    (becomes : after.call? exchange.toolUse.toolId =
      some (touch (tracker.callOrStart exchange.toolUse.toolId toolName input)))
    (apart : ∀ call, unplaced (touch call) = touch (unplaced call))
    (hears : touch ((heard.map (exchange.callWhen sessionId)).getD
      (ToolCall.start sessionId exchange.toolUse.toolId toolName input 0)) =
        exchange.callWhen sessionId now) :
    Stands exchange sessionId after (some now) := by
  refine ⟨nofun, ?_⟩
  unfold unplaced?
  rw [becomes, Option.map_some, apart, stands.unplaced_callOrStart, hears]
  rfl

theorem Stands.onToolUse (stands : Stands exchange sessionId tracker heard) :
    Stands exchange sessionId (tracker.onToolUse exchange.toolUse)
      (Heard.next heard (.toolUse exchange.toolUse)) := by
  have becomes := tracker.call?_onToolUse exchange.toolUse
  have apart : ∀ call, unplaced (nameAs exchange.toolUse call) =
      nameAs exchange.toolUse (unplaced call) := fun call => unplaced_nameAs call _
  cases heard with
  | none => exact stands.of_touch becomes apart (if_pos rfl)
  | some heard =>
      refine stands.of_touch becomes apart ((exchange.nameAs_callWhen sessionId heard).trans ?_)
      rw [Heard.add_toolUse]

theorem Stands.onPermissionRequest (stands : Stands exchange sessionId tracker heard) :
    Stands exchange sessionId (tracker.onPermissionRequest exchange.request).1
      (Heard.next heard (.permissionRequest exchange.request)) := by
  have becomes :=
    tracker.call?_onPermissionRequest (tracker.requestTarget?_of_toolId exchange.asks.1)
  rw [exchange.asks.2.1, exchange.asks.2.2] at becomes
  have apart : ∀ call, unplaced (askFor exchange.request call) =
      askFor exchange.request (unplaced call) := fun call => unplaced_askFor call _
  cases heard with
  | none => exact stands.of_touch becomes apart rfl
  | some heard =>
      refine stands.of_touch becomes apart ((exchange.askFor_callWhen sessionId heard).trans ?_)
      rw [Heard.add_permissionRequest]

/-- An answer changes the call that is there, and creates none. -/
theorem Stands.onPermissionResponse (stands : Stands exchange sessionId tracker heard) :
    Stands exchange sessionId (tracker.onPermissionResponse exchange.response).1
      (Heard.next heard (.permissionResponse exchange.response)) := by
  have becomes :=
    tracker.call?_onPermissionResponse (tracker.responseTarget?_of_toolId exchange.answers.1)
  have call := stands.call
  unfold unplaced? at call
  cases heard with
  | none =>
      have unknown : tracker.call? exchange.toolUse.toolId = none := Option.map_eq_none_iff.1 call
      refine ⟨fun unheard => ?_, ?_⟩
      · rw [sessionId_onPermissionResponse]
        exact stands.session unheard
      · unfold unplaced?
        rw [becomes, unknown]
        rfl
  | some heard =>
      obtain ⟨known, held, view⟩ := Option.map_eq_some_iff.1 call
      refine ⟨nofun, ?_⟩
      unfold unplaced?
      rw [becomes, held, Option.map_some, Option.map_some, unplaced_answerWith, view,
        answerWith_callWhen]
      exact congrArg (fun now => some (exchange.callWhen sessionId now))
        (heard.add_permissionResponse exchange.response).symm

theorem Stands.onToolResult (stands : Stands exchange sessionId tracker heard) {result : ToolResult}
    (reported : exchange.result = some result) :
    Stands exchange sessionId (tracker.onToolResult result)
      (Heard.next heard (.toolResult result)) := by
  have finishes : exchange.finish = finishWith result := by
    unfold finish
    rw [reported]
  have becomes := tracker.call?_onToolResult result
  rw [exchange.reports result reported, ← finishes] at becomes
  have apart : ∀ call, unplaced (exchange.finish call) = exchange.finish (unplaced call) := by
    rw [finishes]
    exact fun call => unplaced_finishWith call result
  cases heard with
  | none => exact stands.of_touch becomes apart rfl
  | some heard =>
      refine stands.of_touch becomes apart ((exchange.finish_callWhen sessionId heard).trans ?_)
      rw [Heard.add_toolResult]

/-- Whatever record comes next is heard. -/
theorem Stands.after (stands : Stands exchange sessionId tracker heard) {change : TrackerChange}
    (told : change ∈ exchange.records) :
    Stands exchange sessionId (tracker.after change) (Heard.next heard change) := by
  rcases mem_records told with rfl | rfl | rfl | ⟨result, reported, rfl⟩
  · exact stands.onToolUse
  · exact stands.onPermissionRequest
  · exact stands.onPermissionResponse
  · exact stands.onToolResult reported

theorem Stands.run (stands : Stands exchange sessionId tracker heard)
    {changes : List TrackerChange} (told : ∀ change ∈ changes, change ∈ exchange.records) :
    Stands exchange sessionId (tracker.run changes) (changes.foldl Heard.next heard) := by
  induction changes generalizing tracker heard with
  | nil => exact stands
  | cons change rest ih =>
      exact ih (stands.after (told change List.mem_cons_self)) fun next member =>
        told next (List.mem_cons_of_mem _ member)

/-! ## Convergence -/

/-- In the order of the protocol every record is heard. -/
theorem heard_records (exchange : Exchange) :
    exchange.records.foldl Heard.next none =
      some { named := true, asked := true, answered := true
             reported := exchange.result.isSome } := by
  unfold records
  cases exchange.result <;> rfl

/-- A record that is not an answer is heard, whatever answers came before it. -/
theorem mem_dropWhile_isAnswer {changes : List TrackerChange} {change : TrackerChange}
    (member : change ∈ changes) (other : change.isAnswer = false) :
    change ∈ changes.dropWhile TrackerChange.isAnswer := by
  rw [← List.takeWhile_append_dropWhile (p := TrackerChange.isAnswer) (l := changes)] at member
  rcases List.mem_append.1 member with lost | heard
  · rw [List.mem_takeWhile_imp lost] at other
    cases other
  · exact heard

/-- Whether an answer comes after some record that is not an answer. -/
def answeredInTime (changes : List TrackerChange) : Bool :=
  (changes.dropWhile TrackerChange.isAnswer).any TrackerChange.isAnswer

/-- What is heard of records that all come at least once: everything, but the answer only
if it comes in time. -/
theorem heard_of_complete {changes : List TrackerChange}
    (complete : ∀ record ∈ exchange.records, record ∈ changes) :
    ∃ heard, changes.foldl Heard.next none = some heard ∧ heard.named = true ∧
      heard.asked = true ∧ heard.answered = answeredInTime changes ∧
      (exchange.result.isSome = true → heard.reported = true) := by
  have kept : ∀ record ∈ exchange.records, record.isAnswer = false →
      record ∈ changes.dropWhile TrackerChange.isAnswer := fun record member other =>
    mem_dropWhile_isAnswer (complete record member) other
  have used := kept (.toolUse exchange.toolUse) (by simp [records]) rfl
  have asked := kept (.permissionRequest exchange.request) (by simp [records]) rfl
  have first : ∀ change rest, changes.dropWhile TrackerChange.isAnswer = change :: rest →
      change.isAnswer = false := by
    intro change rest split
    have head := List.head?_dropWhile_not TrackerChange.isAnswer changes
    simpa [split] using head
  -- What counts begins with the record that creates the call; the answers before it are
  -- dropped on both sides.
  unfold answeredInTime
  rw [Heard.foldl_next_none]
  cases split : changes.dropWhile TrackerChange.isAnswer with
  | nil =>
      rw [split] at used
      cases used
  | cons change rest =>
      have other := first change rest split
      have creates : Heard.next none change = some (Heard.first change) := by
        simp [Heard.next, other]
      have comes : ∀ kind : TrackerChange → Bool, ∀ record ∈ change :: rest, kind record = true →
          (kind change || rest.any kind) = true := by
        intro kind record member same
        rw [← List.any_cons]
        exact List.any_eq_true.2 ⟨record, member, same⟩
      rw [split] at used asked
      rw [List.foldl_cons, creates, Heard.foldl_next_some]
      refine ⟨_, rfl, ?_, comes TrackerChange.isRequest _ asked rfl, by simp [Heard.first, other],
        fun reports => ?_⟩
      · exact (Bool.or_right_comm _ _ _).trans
          (Bool.or_eq_true_iff.2 (.inl (comes TrackerChange.isUse _ used rfl)))
      · obtain ⟨result, reported⟩ := Option.isSome_iff_exists.1 reports
        have finished := kept (.toolResult result) (by simp [records, reported]) rfl
        rw [split] at finished
        exact comes TrackerChange.isResult _ finished rfl

/-- A call that has taken in every record is the call of the protocol. -/
theorem callWhen_of_all {heard : Heard} (named : heard.named = true) (asked : heard.asked = true)
    (answered : heard.answered = true)
    (reported : exchange.result.isSome = true → heard.reported = true) :
    exchange.callWhen sessionId heard =
      exchange.callWhen sessionId
        { named := true, asked := true, answered := true, reported := exchange.result.isSome } := by
  unfold callWhen
  rw [named, asked, answered]
  -- Without a result there is nothing to report, whatever `reported` says.
  cases ended : exchange.result with
  | none =>
      have nothing : exchange.finish = id := by
        unfold finish
        rw [ended]
      rw [nothing]
      unfold touchIf
      cases heard.reported <;> rfl
  | some result =>
      rw [reported (by rw [ended]; rfl)]
      rfl

/-- **Convergence.**  A tracker without a call of the tool use hears its records in any
order and any number of times, each of them at least once; another tracker of the session
hears each once, in the order of the protocol.  Both then have a call of the tool use, and
the calls are the same apart from their places exactly if an answer came after some record
that is not an answer.  If none did, the call knows of no decision. -/
theorem converges_iff (exchange : Exchange) {first second : Tracker}
    (session : first.sessionId = second.sessionId)
    (unseen : first.call? exchange.toolUse.toolId = none)
    (unseen' : second.call? exchange.toolUse.toolId = none) {changes : List TrackerChange}
    (told : ∀ change ∈ changes, change ∈ exchange.records)
    (complete : ∀ record ∈ exchange.records, record ∈ changes) :
    ∃ call last, (first.run changes).call? exchange.toolUse.toolId = some call ∧
      (second.run exchange.records).call? exchange.toolUse.toolId = some last ∧
      (unplaced call = unplaced last ↔ answeredInTime changes = true) ∧
      (answeredInTime changes = false → call.decision = none) := by
  have mixed := ((Stands.of_unseen session unseen).run told).call
  have orderly := ((Stands.of_unseen rfl unseen').run fun _ member => member).call
  obtain ⟨heard, heardAll, named, asked, answered, reported⟩ := heard_of_complete complete
  rw [heardAll] at mixed
  rw [heard_records] at orderly
  obtain ⟨call, held, view⟩ := Option.map_eq_some_iff.1 mixed
  obtain ⟨last, heldLast, viewLast⟩ := Option.map_eq_some_iff.1 orderly
  have decision := exchange.decision_of_unplaced second.sessionId view
  have decided : last.decision = some exchange.response.decision :=
    exchange.decision_of_unplaced second.sessionId viewLast
  refine ⟨call, last, held, heldLast, ?_, fun late => ?_⟩
  · rw [← answered]
    constructor
    · intro same
      have agreed : (unplaced call).decision = (unplaced last).decision := by rw [same]
      change call.decision = last.decision at agreed
      rw [decision, decided] at agreed
      by_contra late
      rw [if_neg late] at agreed
      cases agreed
    · intro inTime
      rw [view, viewLast]
      exact callWhen_of_all named asked inTime reported
  · rw [decision, answered, late]
    rfl

/-- A use of a tool that is denied. -/
def deniedBash : Exchange where
  toolUse := { toolId := "t1", name := "Bash", input := Json.ofMembers [] }
  request :=
    { requestId := "r", toolName := "Bash", input := Json.ofMembers [], suggestions := []
      toolId := some "t1" }
  response :=
    { requestId := "r", decision := .deny, reasoning := none, toolId := some "t1"
      clarification := none, appliedUpdates := [] }
  result := none
  asks := ⟨rfl, rfl, rfl⟩
  answers := ⟨rfl, rfl⟩
  reports := nofun
  ends := by decide

/-- The answer comes first, once, and is lost: the call that the other records leave is
not the one of the protocol. -/
theorem converges_of_earlyDenial :
    let changes : List TrackerChange :=
      [.permissionResponse deniedBash.response, .toolUse deniedBash.toolUse,
        .permissionRequest deniedBash.request]
    (∀ change ∈ changes, change ∈ deniedBash.records) ∧
      (∀ record ∈ deniedBash.records, record ∈ changes) ∧ answeredInTime changes = false ∧
      ∃ call last, ((Tracker.new "s").run changes).call? "t1" = some call ∧
        ((Tracker.new "s").run deniedBash.records).call? "t1" = some last ∧
        unplaced call ≠ unplaced last ∧ call.decision = none := by
  intro changes
  have told : ∀ change ∈ changes, change ∈ deniedBash.records := by
    simp [changes, records]
  have complete : ∀ record ∈ deniedBash.records, record ∈ changes := by
    simp [changes, records, deniedBash]
  have late : answeredInTime changes = false := rfl
  have unseen : (Tracker.new "s").call? deniedBash.toolUse.toolId = none := rfl
  obtain ⟨call, last, held, heldLast, same, undecided⟩ :=
    converges_iff deniedBash rfl unseen unseen told complete
  refine ⟨told, complete, late, call, last, held, heldLast, fun agree => ?_, undecided late⟩
  rw [same.1 agree] at late
  cases late

end Exchange

end SessionSync
