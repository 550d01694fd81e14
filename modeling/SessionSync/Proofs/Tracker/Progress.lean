import SessionSync.Proofs.Tracker.Records

/-!
# A tool use only goes forward

Events with a whole state and the backend's display states set a status without
regard to the one before.  Under all other changes a call goes forward only: from
waiting to the question, to running, and to one of the two ends.  It has an outcome
exactly if it is finished, and once it is finished nothing but a result of its own
tool use touches status and outcome again (`forward_of_run`).

Both facts are one relation between a call and what becomes of it
(`ToolCall.Onward`), which every record keeps in every status: a request that comes
again, an answer that comes late and a verdict of an orphan included.
-/

set_option autoImplicit false

namespace SessionSync

/-! ## Going forward -/

/-- The place of a status in the life of a tool use; the two ends share the last
place. -/
def ToolStatus.rank : ToolStatus → Nat
  | .pending => 0
  | .permissionRequired => 1
  | .executing => 2
  | .completed | .error => 3

/-- Whether a change sets a status without regard to the one before. -/
def TrackerChange.overrides : TrackerChange → Bool
  | .toolEvent _ | .displayStates _ => true
  | _ => false

/-- Whether a change is a result of a tool use. -/
def TrackerChange.reports (change : TrackerChange) (toolId : String) : Bool :=
  match change with
  | .toolResult result => result.toolId == toolId
  | _ => false

namespace ToolCall

/-- A call has an outcome exactly if it is finished. -/
def Settled (call : ToolCall) : Prop := call.outcome.isSome = call.status.isTerminal

/-- What may become of a call, with a result of its tool use (`reported`) or without
one. -/
structure Onward (reported : Bool) (before after : ToolCall) : Prop where
  rank : before.status.rank ≤ after.status.rank
  settled : before.Settled → after.Settled
  final : reported = false → before.status.isTerminal = true →
    after.status = before.status ∧ after.outcome = before.outcome

namespace Onward

variable {first second third : ToolCall} {reported : Bool}

theorem refl (reported : Bool) (call : ToolCall) : Onward reported call call :=
  ⟨Nat.le_refl _, id, fun _ _ => ⟨rfl, rfl⟩⟩

theorem trans {again : Bool} (earlier : Onward reported first second)
    (later : Onward again second third) : Onward (reported || again) first third := by
  refine ⟨Nat.le_trans earlier.rank later.rank, fun settled => later.settled (earlier.settled settled),
    fun unreported finished => ?_⟩
  obtain ⟨before, after⟩ := Bool.or_eq_false_iff.1 unreported
  obtain ⟨status, outcome⟩ := earlier.final before finished
  obtain ⟨status', outcome'⟩ := later.final after (status ▸ finished)
  exact ⟨status'.trans status, outcome'.trans outcome⟩

/-- A change that leaves status and outcome alone goes nowhere. -/
theorem of_same (status : second.status = first.status) (outcome : second.outcome = first.outcome) :
    Onward reported first second := by
  refine ⟨Nat.le_of_eq (congrArg ToolStatus.rank status.symm), fun settled => ?_,
    fun _ _ => ⟨status, outcome⟩⟩
  rw [Settled, status, outcome]
  exact settled

end Onward

theorem settled_start (sessionId toolId toolName : String) (input : Json) (seq : Nat) :
    (start sessionId toolId toolName input seq).Settled := rfl

end ToolCall

namespace Tracker

open ToolCall (Onward)

/-! ## What the records make of a call -/

theorem onward_nameAs (reported : Bool) (toolUse : ToolUse) (call : ToolCall) :
    Onward reported call (nameAs toolUse call) := by
  unfold nameAs
  split
  · exact Onward.refl _ _
  · exact Onward.of_same rfl rfl

/-- A request takes a waiting call to the question and changes no other status. -/
theorem onward_askFor (reported : Bool) (request : PermissionRequest) (call : ToolCall) :
    Onward reported call (askFor request call) := by
  cases early : isUnanswered call with
  | false =>
      rw [askFor_of_answered early]
      exact Onward.of_same rfl rfl
  | true =>
      have low : call.status.rank ≤ 1 := by
        rcases status_of_isUnanswered early with held | held <;> simp [held, ToolStatus.rank]
      have unfinished := isTerminal_of_isUnanswered early
      rw [askFor_of_unanswered early]
      refine ⟨low, fun settled => settled.trans unfinished, fun _ finished => ?_⟩
      rw [unfinished] at finished
      cases finished

/-- An answer lets a call run or finishes it with the denial, unless it is finished
already. -/
theorem onward_answerWith (reported : Bool) (response : PermissionResponse) (call : ToolCall) :
    Onward reported call (answerWith response call) := by
  cases finished : call.status.isTerminal with
  | true =>
      rw [answerWith_of_finished finished]
      exact Onward.of_same rfl rfl
  | false =>
      have low : call.status.rank ≤ 2 := by
        cases held : call.status <;> simp_all [ToolStatus.rank, ToolStatus.isTerminal]
      cases decided : response.decision with
      | allow =>
          rw [answerWith_of_allow finished decided]
          refine ⟨low, fun settled => settled.trans finished, fun _ final => ?_⟩
          rw [finished] at final
          cases final
      | deny =>
          rw [answerWith_of_deny finished decided]
          refine ⟨Nat.le_succ_of_le low, fun _ => rfl, fun _ final => ?_⟩
          rw [finished] at final
          cases final

/-- A result takes every call to its end. -/
theorem onward_finishWith (result : ToolResult) (call : ToolCall) :
    Onward true call (finishWith result call) := by
  have ended : (finishWith result call).status.rank = 3 := by
    unfold finishWith
    cases result.isError <;> rfl
  refine ⟨?_, fun _ => ?_, fun unreported => by cases unreported⟩
  · rw [ended]
    cases call.status <;> decide
  · unfold ToolCall.Settled finishWith
    cases result.isError <;> rfl

/-! ## What a change makes of the calls -/

/-- A tool use's call goes forward from one tracker to another, and a call that it
gets in between is settled. -/
structure Advances (toolId : String) (reported : Bool) (before after : Tracker) : Prop where
  kept : ∀ call, before.call? toolId = some call →
    ∃ later, after.call? toolId = some later ∧ Onward reported call later
  fresh : before.call? toolId = none → ∀ call, after.call? toolId = some call → call.Settled

namespace Advances

variable {toolId : String} {reported : Bool} {first second third : Tracker}

theorem of_same (same : second.call? toolId = first.call? toolId) :
    Advances toolId reported first second := by
  refine ⟨fun call held => ⟨call, same.trans held, Onward.refl _ _⟩, fun unknown call held => ?_⟩
  rw [same, unknown] at held
  cases held

theorem trans {again : Bool} (earlier : Advances toolId reported first second)
    (later : Advances toolId again second third) :
    Advances toolId (reported || again) first third := by
  constructor
  · intro call held
    obtain ⟨middle, heldThen, onward⟩ := earlier.kept call held
    obtain ⟨last, heldNow, onwardAgain⟩ := later.kept middle heldThen
    exact ⟨last, heldNow, onward.trans onwardAgain⟩
  · intro unknown call heldNow
    cases heldThen : second.call? toolId with
    | none => exact later.fresh heldThen call heldNow
    | some middle =>
        obtain ⟨last, heldLast, onward⟩ := later.kept middle heldThen
        rw [heldNow] at heldLast
        cases heldLast
        exact onward.settled (earlier.fresh unknown middle heldThen)

/-- A record that creates the call where there is none and then moves it on. -/
theorem of_callOrStart {touch : ToolCall → ToolCall} {toolName : String} {input : Json}
    (onward : ∀ call, Onward reported call (touch call))
    (becomes : second.call? toolId = some (touch (first.callOrStart toolId toolName input))) :
    Advances toolId reported first second := by
  constructor
  · intro call held
    rw [callOrStart_of_call held] at becomes
    exact ⟨touch call, becomes, onward call⟩
  · intro unknown call held
    rw [callOrStart_of_new unknown] at becomes
    rw [becomes] at held
    cases held
    exact (onward _).settled (ToolCall.settled_start _ _ _ _ _)

/-- A change that moves the call on where there is one. -/
theorem of_map (touch : ToolCall → ToolCall) (onward : ∀ call, Onward reported call (touch call))
    (becomes : second.call? toolId = (first.call? toolId).map touch) :
    Advances toolId reported first second := by
  constructor
  · intro call held
    rw [held] at becomes
    exact ⟨touch call, becomes, onward call⟩
  · intro unknown call held
    rw [becomes, unknown] at held
    cases held

end Advances

theorem advances_markOrphaned (tracker : Tracker) (toolId orphanId reason : String)
    (message : Option String) :
    Advances toolId false tracker (tracker.markOrphaned orphanId reason message) := by
  by_cases here : toolId = orphanId
  · subst here
    refine Advances.of_map (orphanCall reason) (fun _ => Onward.of_same rfl rfl) ?_
    exact (call?_recordOrphan tracker toolId toolId _).trans (if_pos rfl)
  · exact Advances.of_same (tracker.sameAt_recordOrphan here _).call

/-- **One change.**  Every change that overrides no status takes every call forward. -/
theorem advances_after (tracker : Tracker) {change : TrackerChange}
    (plain : change.overrides = false) (toolId : String) :
    Advances toolId (change.reports toolId) tracker (tracker.after change) := by
  cases change with
  | toolUse toolUse =>
      by_cases here : toolId = toolUse.toolId
      · subst here
        exact Advances.of_callOrStart (onward_nameAs _ toolUse) (tracker.call?_onToolUse toolUse)
      · exact Advances.of_same (tracker.sameAt_onToolUse here).call
  | permissionRequest request =>
      by_cases here : tracker.requestTarget? request = some toolId
      · exact Advances.of_callOrStart (onward_askFor _ request)
          (tracker.call?_onPermissionRequest here)
      · exact Advances.of_same (tracker.sameAt_onPermissionRequest here).call
  | permissionResponse response =>
      by_cases here : tracker.responseTarget? response = some toolId
      · exact Advances.of_map (answerWith response) (onward_answerWith _ response)
          (tracker.call?_onPermissionResponse here)
      · exact Advances.of_same (tracker.sameAt_onPermissionResponse here).call
  | toolResult result =>
      by_cases here : toolId = result.toolId
      · subst here
        have reported : (TrackerChange.toolResult result).reports result.toolId = true :=
          beq_self_eq_true _
        rw [reported]
        exact Advances.of_callOrStart (onward_finishWith result) (tracker.call?_onToolResult result)
      · exact Advances.of_same (tracker.sameAt_onToolResult here).call
  | toolEvent event => cases plain
  | displayLinks display => exact Advances.of_same (tracker.sameAt_applyDisplayLinks display).call
  | displayStates display => cases plain
  | markOrphaned orphanId reason message =>
      exact tracker.advances_markOrphaned toolId orphanId reason message
  | orphanUnfinished reason =>
      show Advances toolId false tracker (tracker.orphanUnfinished reason).1
      unfold orphanUnfinished
      dsimp only
      -- The ids are fixed before the first verdict, so the induction is on them.
      generalize tracker.unfinished.keys.filter (fun id => !tracker.isOrphaned id) = ids
      induction ids generalizing tracker with
      | nil => exact Advances.of_same rfl
      | cons id rest ih => exact (tracker.advances_markOrphaned toolId id reason none).trans (ih _)
  | recount => exact Advances.of_same rfl
  | toggle toggledId =>
      by_cases here : toolId = toggledId
      · subst here
        refine Advances.of_map (fun call => { call with expanded := !call.expanded })
          (fun _ => Onward.of_same rfl rfl) ?_
        exact tracker.call?_toggleExpanded toolId
      · exact Advances.of_same (tracker.sameAt_toggleExpanded here).call

/-! ## Runs -/

/-- **Runs.**  A run of changes that override no status takes every call forward. -/
theorem advances_run (tracker : Tracker) {changes : List TrackerChange}
    (plain : ∀ change ∈ changes, change.overrides = false) (toolId : String) :
    Advances toolId (changes.any fun change => change.reports toolId) tracker
      (tracker.run changes) := by
  induction changes generalizing tracker with
  | nil => exact Advances.of_same rfl
  | cons change rest ih =>
      have first := tracker.advances_after (plain change List.mem_cons_self) toolId
      have others := ih (tracker.after change) fun next member =>
        plain next (List.mem_cons_of_mem _ member)
      exact first.trans others

/-- A tracker that started empty holds settled calls only. -/
theorem settled_of_run {sessionId : String} {changes : List TrackerChange}
    (plain : ∀ change ∈ changes, change.overrides = false) {toolId : String} {call : ToolCall}
    (held : ((new sessionId).run changes).call? toolId = some call) : call.Settled :=
  ((new sessionId).advances_run plain toolId).fresh rfl call held

/-- **A tool use only goes forward.**  Cut a run of changes that override no status
anywhere: a call that is there at the cut is there at the end, with a status that is
not an earlier one, and with an outcome exactly if it is finished.  If it was finished
at the cut, its status and outcome are the same at the end unless a result of its own
tool use comes after the cut. -/
theorem forward_of_run {sessionId : String} {earlier later : List TrackerChange}
    (plain : ∀ change ∈ earlier ++ later, change.overrides = false)
    {toolId : String} {call : ToolCall}
    (held : ((new sessionId).run earlier).call? toolId = some call) :
    ∃ last, ((new sessionId).run (earlier ++ later)).call? toolId = some last ∧
      call.status.rank ≤ last.status.rank ∧
      (last.outcome.isSome = true ↔ last.status.isTerminal = true) ∧
      (call.status.isTerminal = true →
        (∀ result, TrackerChange.toolResult result ∈ later → result.toolId ≠ toolId) →
        last.status = call.status ∧ last.outcome = call.outcome) := by
  have laterPlain : ∀ change ∈ later, change.overrides = false := fun change member =>
    plain change (List.mem_append_right _ member)
  have advances := ((new sessionId).run earlier).advances_run laterPlain toolId
  obtain ⟨last, heldLast, onward⟩ := advances.kept call held
  rw [← run_append] at heldLast
  refine ⟨last, heldLast, onward.rank, ?_, fun finished unreported => ?_⟩
  · have settled : last.outcome.isSome = last.status.isTerminal := settled_of_run plain heldLast
    rw [settled]
  · refine onward.final ?_ finished
    rw [List.any_eq_false]
    intro change member reported
    cases change with
    | toolResult result => exact unreported result member (beq_iff_eq.1 reported)
    | _ => cases reported

/-! ### A tool use that was denied -/

/-- The agent asks without naming the tool use, and is denied. -/
def deniedTool : List TrackerChange :=
  [.toolUse { toolId := "t", name := "Bash", input := .null },
    .permissionRequest
      { requestId := "r", toolName := "Bash", input := .null, toolId := none, suggestions := [] },
    .permissionResponse
      { requestId := "r", decision := .deny, reasoning := none, toolId := none,
        clarification := none, appliedUpdates := [] }]

/-- The request comes again, an approval comes late, and another tool reports. -/
def afterDenial : List TrackerChange :=
  [.permissionRequest
      { requestId := "r", toolName := "Bash", input := .null, toolId := none, suggestions := [] },
    .permissionResponse
      { requestId := "r", decision := .allow, reasoning := none, toolId := none,
        clarification := none, appliedUpdates := [] },
    .orphanUnfinished "session was terminated",
    .toolResult { toolId := "u", content := .null, isError := true }]

/-- Whatever comes late, the denied call stays completed and keeps its denial. -/
theorem forward_of_deniedTool :
    let call : ToolCall :=
      { ToolCall.start "s" "t" "Bash" .null 0 with
        status := .completed
        requestId := some "r"
        decision := some .deny
        outcome := some (denialOutcome none)
        expanded := false }
    (∀ change ∈ deniedTool ++ afterDenial, change.overrides = false) ∧
      ((new "s").run deniedTool).call? "t" = some call ∧
      (∀ result, TrackerChange.toolResult result ∈ afterDenial → result.toolId ≠ "t") ∧
      ∃ last, ((new "s").run (deniedTool ++ afterDenial)).call? "t" = some last ∧
        last.status = .completed ∧ last.outcome = some (denialOutcome none) := by
  intro call
  have plain : ∀ change ∈ deniedTool ++ afterDenial, change.overrides = false := by
    simp [deniedTool, afterDenial, TrackerChange.overrides]
  have held : ((new "s").run deniedTool).call? "t" = some call := by decide +kernel
  have unreported : ∀ result, TrackerChange.toolResult result ∈ afterDenial →
      result.toolId ≠ "t" := by
    simp [afterDenial]
  refine ⟨plain, held, unreported, ?_⟩
  obtain ⟨last, heldLast, -, -, final⟩ := forward_of_run plain held
  obtain ⟨status, outcome⟩ := final rfl unreported
  exact ⟨last, heldLast, status, outcome⟩

end Tracker

end SessionSync
