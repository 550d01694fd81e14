import SessionSync.Proofs.Tracker.Roster
import SessionSync.Proofs.Tracker.Verdicts

/-!
# The parts of a tracker agree

A tracker writes the same facts down in several places: that a call exists, how far it is,
which request asked for it, and that it is an orphan.  The handlers update these places one
after another and may stop between two of them, so it takes an argument that the places
agree whenever a handler is done.

`well_kept_run` says so for every run.  Identities and ranks come from the roster; the
orphans from the standing of a tool use; what remains is that a tool use which is counted
as unfinished has a call that waits, and that the request of a call is linked
(`Tracker.Tidy`).  For each handler it is enough to look at the tool use that the handler
is about: elsewhere nothing changes but that there may be more links.
-/

set_option autoImplicit false

namespace SessionSync.Tracker

/-! ## One tool use -/

/-- What is written down about a tool use agrees: it is counted as unfinished only if its
call waits for a result, and the request that the call speaks of is linked. -/
structure Tidy (tracker : Tracker) (toolId : String) : Prop where
  counted : tracker.unfinished.contains toolId = true → tracker.awaits toolId = true
  linked : ∀ call requestId, tracker.call? toolId = some call →
    call.requestId = some requestId → (tracker.requested? requestId).isSome = true

/-- No link has been lost. -/
def KeepsLinks (before after : Tracker) : Prop :=
  ∀ requestId, (before.requested? requestId).isSome = true →
    (after.requested? requestId).isSome = true

namespace Tidy

variable {before after tracker : Tracker} {toolId probe : String}

theorem of_sameAt (tidy : Tidy before probe) (same : SameAt after before probe)
    (links : KeepsLinks before after) : Tidy after probe := by
  refine ⟨fun counted => ?_, fun call requestId held asked => ?_⟩
  · unfold awaits
    rw [same.call]
    exact tidy.counted (same.unfinished ▸ counted)
  · exact links requestId (tidy.linked call requestId (same.call ▸ held) asked)

/-- The tool use that a handler is about, by what its call has become. -/
theorem of_call {call : ToolCall} (held : tracker.call? toolId = some call)
    (counted : tracker.unfinished.contains toolId = true → call.status.isTerminal = false)
    (linked : ∀ requestId, call.requestId = some requestId →
      (tracker.requested? requestId).isSome = true) : Tidy tracker toolId := by
  refine ⟨fun isCounted => ?_, fun other requestId found asked => ?_⟩
  · unfold awaits
    rw [held, Option.any_some, counted isCounted]
    rfl
  · rw [held] at found
    cases found
    exact linked requestId asked

theorem status_of_call (tidy : Tidy tracker toolId) {call : ToolCall}
    (held : tracker.call? toolId = some call)
    (counted : tracker.unfinished.contains toolId = true) : call.status.isTerminal = false := by
  have waits := tidy.counted counted
  unfold awaits at waits
  rwa [held, Option.any_some, Bool.not_eq_true'] at waits

/-- The request of a call, or of the one that a first sight creates, is linked. -/
theorem linked_callOrStart (tidy : Tidy tracker toolId) (toolName : String) (input : Json)
    {requestId : String}
    (asked : (tracker.callOrStart toolId toolName input).requestId = some requestId) :
    (tracker.requested? requestId).isSome = true := by
  cases held : tracker.call? toolId with
  | none =>
      rw [callOrStart_of_new held] at asked
      cases asked
  | some call =>
      rw [callOrStart_of_call held] at asked
      exact tidy.linked call requestId held asked

/-! ### Elementary steps -/

theorem ensure (tidy : Tidy tracker probe) (toolId toolName : String) (input : Json) :
    Tidy (tracker.ensure toolId toolName input) probe := by
  have links : KeepsLinks tracker (tracker.ensure toolId toolName input) := by
    intro requestId
    unfold requested?
    rw [links_ensure]
    exact id
  by_cases here : probe = toolId
  · subst here
    cases held : tracker.call? probe with
    | some call =>
        rw [ensure_of_call held]
        exact tidy
    | none =>
        have created : (tracker.ensure probe toolName input).call? probe =
            some (ToolCall.start tracker.sessionId probe toolName input tracker.nextSeq) := by
          rw [call?_ensure, if_pos rfl, held]
          rfl
        exact of_call created (fun _ => rfl) fun _ asked => by cases asked
  · exact tidy.of_sameAt (tracker.sameAt_ensure here toolName input) links

theorem link (tidy : Tidy tracker probe) (requestId toolId : String) :
    Tidy (tracker.link requestId toolId) probe := by
  refine tidy.of_sameAt (tracker.sameAt_link requestId) fun other known => ?_
  rw [requested?_link]
  split
  · rfl
  · exact known

theorem reindex (tidy : Tidy tracker probe) (toolId old new : String) :
    Tidy (tracker.reindex toolId old new) probe := by
  obtain ⟨signatures, same⟩ := tracker.reindex_eq toolId old new
  rw [same]
  exact ⟨tidy.counted, tidy.linked⟩

/-- A change of a call that does not finish it, and speaks of linked requests only. -/
theorem modify (tidy : Tidy tracker probe) (toolId : String) {change : ToolCall → ToolCall}
    (keeps : ∀ call, tracker.call? toolId = some call →
      (change call).status.isTerminal = call.status.isTerminal)
    (asks : ∀ call requestId, (change call).requestId = some requestId →
      call.requestId = some requestId ∨ (tracker.requested? requestId).isSome = true) :
    Tidy (tracker.modify toolId change) probe := by
  by_cases here : probe = toolId
  · subst here
    have becomes := tracker.call?_modify probe probe change
    rw [if_pos rfl] at becomes
    cases held : tracker.call? probe with
    | none =>
        rw [held] at becomes
        exact tidy.of_sameAt ⟨becomes.trans held.symm, rfl, rfl⟩ fun _ known => known
    | some call =>
        rw [held] at becomes
        refine of_call becomes (fun counted => ?_) (fun requestId asked => ?_)
        · exact (keeps call held).trans (tidy.status_of_call held counted)
        · exact (asks call requestId asked).elim (tidy.linked call requestId held) id
  · exact tidy.of_sameAt (tracker.sameAt_modify here change) fun _ known => known

/-- A change of a call that may finish it, after which nothing counts it any more. -/
theorem modify_close (tidy : Tidy tracker probe) (toolId : String) {change : ToolCall → ToolCall}
    (asks : ∀ call requestId, (change call).requestId = some requestId →
      call.requestId = some requestId ∨ (tracker.requested? requestId).isSome = true) :
    Tidy ((tracker.modify toolId change).close toolId) probe := by
  by_cases here : probe = toolId
  · subst here
    refine ⟨fun counted => ?_, fun call requestId found asked => ?_⟩
    · simp [contains_unfinished_close] at counted
    · rw [call?_close, call?_modify, if_pos rfl] at found
      obtain ⟨before, held, rfl⟩ := Option.map_eq_some_iff.1 found
      exact (asks before requestId asked).elim (tidy.linked before requestId held) id
  · exact tidy.of_sameAt ((sameAt_close _ here).trans (tracker.sameAt_modify here change))
      fun _ known => known

theorem markOrphaned (tidy : Tidy tracker probe) (toolId reason : String)
    (message : Option String) : Tidy (tracker.markOrphaned toolId reason message) probe := by
  have marked : Tidy (tracker.modify toolId (orphanCall reason)) probe :=
    tidy.modify toolId (fun _ _ => rfl) (fun _ _ asked => Or.inl asked)
  refine ⟨fun counted => marked.counted ?_, marked.linked⟩
  have verdict := tracker.contains_unfinished_recordOrphan toolId probe
    { reason, message := message.getD Orphan.defaultMessage }
  exact (Bool.and_eq_true_iff.1 (verdict.symm.trans counted)).2

/-! ### Handlers -/

theorem onToolUse (tidy : Tidy tracker probe) (toolUse : ToolUse) :
    Tidy (tracker.onToolUse toolUse) probe := by
  unfold Tracker.onToolUse
  split
  · exact tidy.ensure _ _ _
  · dsimp only
    split
    · exact tidy
    · exact (tidy.reindex _ _ _).modify _ (fun _ _ => rfl) (fun _ _ asked => Or.inl asked)

theorem requestId_askFor (request : PermissionRequest) (call : ToolCall) :
    (askFor request call).requestId = some request.requestId := by
  obtain ⟨_, _, _, asked⟩ := askFor_eq request call
  rw [asked]

theorem requestId_answerWith (response : PermissionResponse) (call : ToolCall) :
    (answerWith response call).requestId = some response.requestId := by
  obtain ⟨_, _, _, answered⟩ := answerWith_eq response call
  rw [answered]

theorem onPermissionRequest (tidy : Tidy tracker probe) (request : PermissionRequest) :
    Tidy (tracker.onPermissionRequest request).1 probe := by
  unfold Tracker.onPermissionRequest
  cases tracker.requestTarget? request with
  | none => exact tidy
  | some toolId =>
      refine ((tidy.link request.requestId toolId).ensure toolId request.toolName
        request.input).modify toolId (fun call _ => isTerminal_askFor request call)
          fun call requestId asked => ?_
      rw [requestId_askFor, Option.some_inj] at asked
      right
      unfold requested?
      rw [links_ensure, ← asked]
      exact congrArg Option.isSome ((tracker.requested?_link _ _ _).trans (if_pos rfl))

/-- An answer finishes the call that it denies, and then nothing counts it any more. -/
theorem onPermissionResponse (tidy : Tidy tracker probe) (response : PermissionResponse) :
    Tidy (tracker.onPermissionResponse response).1 probe := by
  unfold Tracker.onPermissionResponse
  cases response.toolId.or (tracker.requested? response.requestId) with
  | none => exact tidy
  | some toolId =>
      have linked := tidy.link response.requestId toolId
      have asks : ∀ call requestId, (answerWith response call).requestId = some requestId →
          call.requestId = some requestId ∨
            ((tracker.link response.requestId toolId).requested? requestId).isSome = true := by
        intro call requestId asked
        rw [requestId_answerWith, Option.some_inj] at asked
        rw [requested?_link, if_pos asked.symm]
        exact Or.inr rfl
      dsimp only
      generalize tracker.link response.requestId toolId = link at linked asks
      cases held : link.call? toolId with
      | none => exact linked
      | some call =>
          dsimp only
          split
          · exact linked.modify_close toolId asks
          · rename_i stays
            refine linked.modify toolId (fun other found => ?_) asks
            obtain rfl : call = other := Option.some_inj.1 (held.symm.trans found)
            rw [isTerminal_answerWith]
            cases finished : call.status.isTerminal with
            | true => rfl
            | false => simpa [finished] using stays

theorem onToolResult (tidy : Tidy tracker probe) (result : ToolResult) :
    Tidy (tracker.onToolResult result) probe := by
  have links : (tracker.onToolResult result).links = tracker.links :=
    tracker.links_ensure result.toolId "" .null
  by_cases here : probe = result.toolId
  · subst here
    refine of_call (tracker.call?_onToolResult result) (fun counted => ?_)
      (fun requestId asked => ?_)
    · have closed : (tracker.onToolResult result).unfinished.contains result.toolId = false :=
        (contains_unfinished_close _ _ _).trans (by simp)
      rw [closed] at counted
      cases counted
    · unfold requested?
      rw [links]
      exact tidy.linked_callOrStart "" .null asked
  · refine tidy.of_sameAt (tracker.sameAt_onToolResult here) fun requestId known => ?_
    unfold requested?
    rw [links]
    exact known

theorem onToolEvent (tidy : Tidy tracker probe) (event : ToolEvent) :
    Tidy (tracker.onToolEvent event) probe := by
  have links : KeepsLinks tracker (tracker.onToolEvent event) := by
    intro requestId known
    rw [requested?_onToolEvent]
    split
    · rfl
    · exact known
  by_cases here : probe = event.toolId
  · subst here
    refine of_call (tracker.call?_onToolEvent event) (fun counted => ?_)
      (fun requestId asked => ?_)
    · rw [contains_unfinished_onToolEvent, Bool.not_eq_true'] at counted
      rw [assignEvent_eq]
      exact counted
    · rw [assignEvent_eq] at asked
      rcases Option.or_eq_some_iff.1 asked with now | ⟨-, before⟩
      · rw [requested?_onToolEvent, if_pos now]
        rfl
      · exact links requestId (tidy.linked_callOrStart _ _ before)
  · exact tidy.of_sameAt (tracker.sameAt_onToolEvent here) links

theorem requested?_applyDisplayedTool (tracker : Tracker) (toolId : String) (tool : DisplayedTool)
    (requestId : String) :
    (tracker.applyDisplayedTool toolId tool).requested? requestId =
      if tool.requestId = some requestId then some toolId else tracker.requested? requestId := by
  unfold requested?
  rw [links_applyDisplayedTool]
  unfold linkShown
  cases asked : tool.requestId with
  | none => simp
  | some askedId => simp [Table.find?_insert, eq_comm]

theorem applyDisplayedTool (tidy : Tidy tracker probe) (toolId : String) (tool : DisplayedTool) :
    Tidy (tracker.applyDisplayedTool toolId tool) probe := by
  have links : KeepsLinks tracker (tracker.applyDisplayedTool toolId tool) := by
    intro requestId known
    rw [requested?_applyDisplayedTool]
    split
    · rfl
    · exact known
  by_cases here : probe = toolId
  · subst here
    refine of_call (tracker.call?_applyDisplayedTool_self probe tool) (fun counted => ?_)
      (fun requestId asked => ?_)
    · rwa [contains_unfinished_applyDisplayedTool, Bool.not_eq_true'] at counted
    · rcases Option.or_eq_some_iff.1 asked with now | ⟨-, before⟩
      · rw [requested?_applyDisplayedTool, if_pos now]
        rfl
      · exact links requestId (tidy.linked_callOrStart _ _ before)
  · exact tidy.of_sameAt (tracker.sameAt_applyDisplayedTool here tool) links

theorem applyShown (tidy : Tidy tracker probe) (entries : List (String × DisplayedTool)) :
    Tidy (tracker.applyShown entries) probe :=
  List.foldlRecOn (motive := fun tracker => Tidy tracker probe) entries _ tidy
    fun _ tidy entry _ => tidy.applyDisplayedTool entry.1 entry.2

/-- A list of orphans takes tool uses out of the count, and adds none. -/
theorem replaceOrphans (tidy : Tidy tracker probe) (notices : List OrphanNotice) :
    Tidy (tracker.replaceOrphans notices) probe := by
  have links : KeepsLinks tracker (tracker.replaceOrphans notices) := by
    intro requestId
    unfold requested?
    rw [links_replaceOrphans]
    exact id
  have keeps : ∀ verdict known (call : ToolCall),
      (ruleOn verdict known call).status = call.status ∧
        (ruleOn verdict known call).requestId = call.requestId := by
    intro verdict known call
    obtain ⟨_, _, _, ruled⟩ := ruleOn_eq verdict known call
    rw [ruled]
    exact ⟨rfl, rfl⟩
  cases held : tracker.call? probe with
  | none =>
      have absent : (tracker.replaceOrphans notices).call? probe = none := by
        rw [call?_replaceOrphans, held]
        rfl
      refine ⟨fun counted => ?_, fun call requestId found => ?_⟩
      · rw [contains_unfinished_replaceOrphans] at counted
        have waits := tidy.counted (Bool.and_eq_true_iff.1 counted).2
        unfold awaits at waits
        rw [held] at waits
        cases waits
      · rw [absent] at found
        cases found
  | some call =>
      have becomes := tracker.call?_replaceOrphans notices probe
      rw [held] at becomes
      refine of_call becomes (fun counted => ?_) (fun requestId asked => ?_)
      · rw [contains_unfinished_replaceOrphans] at counted
        rw [(keeps _ _ call).1]
        exact tidy.status_of_call held (Bool.and_eq_true_iff.1 counted).2
      · rw [(keeps _ _ call).2] at asked
        exact links requestId (tidy.linked call requestId held asked)

/-- **One change** keeps what is written down about a tool use in agreement. -/
theorem step (tidy : Tidy tracker probe) (change : TrackerChange) :
    Tidy (tracker.after change) probe := by
  cases change with
  | toolUse toolUse => exact tidy.onToolUse toolUse
  | permissionRequest request => exact tidy.onPermissionRequest request
  | permissionResponse response => exact tidy.onPermissionResponse response
  | toolResult result => exact tidy.onToolResult result
  | toolEvent event => exact tidy.onToolEvent event
  | displayLinks display =>
      simp only [after, applyDisplayLinks]
      cases display.links with
      | none => exact tidy
      | some links =>
          exact List.foldlRecOn (motive := fun tracker => Tidy tracker probe) links.entries _ tidy
            fun _ tidy entry _ => tidy.link entry.1 entry.2
  | displayStates display =>
      simp only [after, applyDisplayStates_eq, applyDisplayedTools_eq]
      cases display.orphans with
      | none => exact tidy.applyShown _
      | some notices => exact (tidy.applyShown _).replaceOrphans notices
  | markOrphaned toolId reason message => exact tidy.markOrphaned toolId reason message
  | orphanUnfinished reason =>
      exact List.foldlRecOn (motive := fun tracker => Tidy tracker probe) _ _ tidy
        fun _ tidy toolId _ => tidy.markOrphaned toolId reason none
  | recount =>
      refine ⟨fun counted => ?_, tidy.linked⟩
      have isCounted : tracker.unfinishedCalls.contains probe = true :=
        (Table.contains_mapValues _ _ _).symm.trans counted
      rw [contains_unfinishedCalls] at isCounted
      exact (Bool.and_eq_true_iff.1 isCounted).1
  | toggle toolId =>
      simp only [after, toggleExpanded]
      split
      · exact tidy
      · exact tidy.modify toolId (fun _ _ => rfl) (fun _ _ asked => Or.inl asked)

theorem run (tidy : Tidy tracker probe) (changes : List TrackerChange) :
    Tidy (tracker.run changes) probe :=
  kept_run (motive := fun tracker => Tidy tracker probe) (fun _ change tidy => tidy.step change)
    tidy changes

end Tidy

theorem tidy_new (sessionId toolId : String) : Tidy (new sessionId) toolId := by
  constructor
  · intro counted
    cases counted
  · intro call requestId held
    cases held

/-! ## The whole tracker -/

/-- The parts of a tracker agree, and its calls are those of the tool uses that were seen,
in the order of their first sight. -/
structure WellKept (sessionId : String) (seen : List String) (tracker : Tracker) : Prop where
  session : tracker.sessionId = sessionId
  /-- A call is kept under its own id, with the tracker's session. -/
  filed : ∀ toolId call, tracker.call? toolId = some call →
    call.toolId = toolId ∧ call.sessionId = sessionId
  /-- The ranks count from zero, without gaps and without repetitions. -/
  ranks : tracker.inOrder.map ToolCall.seq = List.range tracker.calls.size
  order : tracker.inOrder.map ToolCall.toolId = seen
  /-- What is counted as unfinished has a call that waits for a result. -/
  counted : ∀ toolId, tracker.unfinished.contains toolId = true →
    ∃ call, tracker.call? toolId = some call ∧ call.status ≠ .completed ∧ call.status ≠ .error
  /-- A call that is shown as an orphan has a verdict, and shows its reason. -/
  judged : ∀ toolId call, tracker.call? toolId = some call → call.orphaned = true →
    ∃ orphan, tracker.orphans.find? toolId = some orphan ∧
      call.orphanReason = some orphan.reason
  /-- The request that a call speaks of is linked. -/
  linked : ∀ toolId call requestId, tracker.call? toolId = some call →
    call.requestId = some requestId → ∃ linkedId, tracker.requested? requestId = some linkedId

section WellKept

variable {sessionId toolId : String} {seen : List String} {tracker : Tracker}

theorem counted_of_tidy (tidy : Tidy tracker toolId)
    (counted : tracker.unfinished.contains toolId = true) :
    ∃ call, tracker.call? toolId = some call ∧ call.status ≠ .completed ∧
      call.status ≠ .error := by
  cases held : tracker.call? toolId with
  | none =>
      have waits := tidy.counted counted
      unfold awaits at waits
      rw [held] at waits
      cases waits
  | some call =>
      have waits := tidy.status_of_call held counted
      refine ⟨call, rfl, fun completed => ?_, fun failed => ?_⟩
      · rw [completed] at waits
        cases waits
      · rw [failed] at waits
        cases waits

/-- A call that is marked shows the verdict on record. -/
theorem judged_of_sound (sound : (tracker.standing toolId).Sound) {call : ToolCall}
    (held : tracker.call? toolId = some call) (marked : call.orphaned = true) :
    ∃ orphan, tracker.orphans.find? toolId = some orphan ∧
      call.orphanReason = some orphan.reason := by
  have shown : (tracker.standing toolId).shown = some call.mark :=
    congrArg (Option.map ToolCall.mark) held
  rcases sound call.mark shown with clear | ⟨orphan, onRecord, mark⟩
  · rw [(Prod.mk.inj clear).1] at marked
    cases marked
  · exact ⟨orphan, onRecord, (Prod.mk.inj mark).2⟩

theorem well_kept_of_parts (roster : Roster sessionId seen tracker)
    (tidy : ∀ toolId, Tidy tracker toolId) (sound : ∀ toolId, (tracker.standing toolId).Sound) :
    WellKept sessionId seen.eraseDups tracker where
  session := roster.session
  filed _ _ held :=
    ⟨(roster.identity_of_call held).2.1, (roster.identity_of_call held).2.2.1⟩
  ranks := roster.inOrder_seq
  order := roster.inOrder_toolId
  counted toolId counted := counted_of_tidy (tidy toolId) counted
  judged toolId _ held marked := judged_of_sound (sound toolId) held marked
  linked toolId call requestId held asked :=
    Option.isSome_iff_exists.1 ((tidy toolId).linked call requestId held asked)

end WellKept

/-- **The parts agree in every run.**  Let anything happen to a tracker that began empty.
Then its parts agree, and its calls stand in the order in which their tool uses were first
sighted.  Whatever happens later, every call stays, with its id, its session and its rank,
and a call that is created later ranks behind all that were there. -/
theorem well_kept_run (sessionId : String) (earlier later : List TrackerChange) :
    let tracker := (new sessionId).run earlier
    WellKept sessionId ((new sessionId).seenIn earlier).eraseDups tracker ∧
      (∀ toolId call, tracker.call? toolId = some call →
        ∃ kept, (tracker.run later).call? toolId = some kept ∧ kept.identity = call.identity) ∧
      ∀ toolId call, (tracker.run later).call? toolId = some call →
        tracker.call? toolId = none → tracker.calls.size ≤ call.seq := by
  intro tracker
  have roster : Roster sessionId ((new sessionId).seenIn earlier) tracker :=
    roster_run sessionId earlier
  have further := roster.run later
  refine ⟨?agree, fun toolId call held => ?keeps, fun toolId call held fresh => ?behind⟩
  case agree =>
    refine well_kept_of_parts roster (fun toolId => ?_) (fun toolId => ?_)
    · exact (tidy_new sessionId toolId).run earlier
    · exact sound_run (fun _ shows => by cases shows) earlier
  case keeps =>
    obtain ⟨known, -⟩ := roster.identity_of_call held
    have stays : (tracker.run later).identity? toolId = tracker.identity? toolId := by
      rw [further.identities, roster.identities, if_pos (List.mem_append_left _ known),
        if_pos known, idxOf_eraseDups_append known]
    have before : tracker.identity? toolId = some call.identity := congrArg _ held
    exact Option.map_eq_some_iff.1 (stays.trans before)
  case behind =>
    have unknown : toolId ∉ (new sessionId).seenIn earlier := by
      intro seen
      have created := (roster.isSome_call?_iff toolId).2 seen
      rw [fresh] at created
      cases created
    rw [(further.identity_of_call held).2.2.2, ← roster.size_calls]
    exact length_eraseDups_le_idxOf_append unknown _

end SessionSync.Tracker
