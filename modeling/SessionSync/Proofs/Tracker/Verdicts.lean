import SessionSync.Proofs.Tracker.Records

/-!
# What a call shows of its verdict

That a tool use is an orphan is written down twice: in the table of orphans, where
the verdict stands, and in the call, which shows it.  A verdict can be older than the
call.  Then the call is created without it, and shows nothing until something rules
on the tool use: a result, a verdict of its own, or a list of orphans, which rules on
all of them.

So for every run of a tracker that began empty, a call shows the verdict on record
exactly if its first sight did not come after that verdict without a ruling since
(`shows_verdict_iff`).  In the one case in which they disagree the table has a verdict
and the call shows none.

The proof follows a tool use through what a change can do to its standing: bring the
first sight of it (`Tracker.sees`), and rule on it (`Tracker.rulings`).
-/

set_option autoImplicit false

namespace SessionSync

/-! ## What a call shows -/

namespace ToolCall

/-- The part of a call that speaks of a verdict: the flag and the reason. -/
def mark (call : ToolCall) : Bool × Option String := (call.orphaned, call.orphanReason)

/-- A call shows a verdict, or shows that there is none. -/
def Shows (call : ToolCall) (verdict : Option Orphan) : Prop :=
  call.orphaned = verdict.isSome ∧ call.orphanReason = verdict.map Orphan.reason

variable {call : ToolCall} {verdict : Option Orphan}

/-- The caveat of a call that shows its verdict is the verdict's reason. -/
theorem Shows.caveat (shows : call.Shows verdict) : call.caveat = verdict.map Orphan.reason := by
  unfold ToolCall.caveat
  rw [shows.1, shows.2]
  cases verdict <;> rfl

theorem Shows.effectiveStatus (shows : call.Shows verdict) (judged : verdict.isSome = true) :
    call.effectiveStatus = .completed :=
  if_pos (shows.1.trans judged)

end ToolCall

/-! ## Standing of a tool use -/

/-- How a tool use stands: what its call shows, where it has one, and the verdict on
record. -/
structure Standing where
  shown : Option (Bool × Option String)
  verdict : Option Orphan

/-- Something that decides about a verdict. -/
inductive Ruling where
  /-- A result beats the verdict. -/
  | finish
  /-- The verdict on record is taken back. -/
  | release
  | judge (orphan : Orphan)

namespace Standing

/-- The tool use is seen; the first sight creates its call. -/
def seen (standing : Standing) : Standing :=
  { standing with shown := some (standing.shown.getD (false, none)) }

/-- The standing after a ruling. -/
def ruled (standing : Standing) : Ruling → Standing
  | .finish => { shown := standing.shown.map fun _ => (false, none), verdict := none }
  | .release =>
      { shown := if standing.verdict.isSome then standing.shown.map fun _ => (false, none)
          else standing.shown
        verdict := none }
  | .judge orphan =>
      { shown := standing.shown.map fun _ => (true, some orphan.reason), verdict := some orphan }

/-- What is shown, if anything, is the verdict on record. -/
def Sound (standing : Standing) : Prop :=
  ∀ mark, standing.shown = some mark → mark = (false, none) ∨
    ∃ orphan, standing.verdict = some orphan ∧ mark = (true, some orphan.reason)

/-- Whether there is a verdict that the call does not show. -/
def isOverlooked (standing : Standing) : Bool :=
  standing.verdict.isSome && standing.shown.any fun mark => !mark.1

theorem seen_of_call {standing : Standing} (known : standing.shown.isSome = true) :
    standing.seen = standing := by
  obtain ⟨shown, verdict⟩ := standing
  obtain ⟨mark, rfl⟩ := Option.isSome_iff_exists.1 known
  rfl

theorem sound_seen {standing : Standing} (sound : standing.Sound) : standing.seen.Sound := by
  intro mark shows
  cases held : standing.shown with
  | some before =>
      rw [seen_of_call (by simp [held])] at shows ⊢
      exact sound mark shows
  | none =>
      rw [seen, held] at shows
      cases shows
      exact Or.inl rfl

theorem sound_ruled {standing : Standing} (sound : standing.Sound) (ruling : Ruling) :
    (standing.ruled ruling).Sound := by
  intro mark shows
  cases ruling with
  | finish =>
      obtain ⟨before, -, rfl⟩ := Option.map_eq_some_iff.1 shows
      exact Or.inl rfl
  | release =>
      simp only [ruled] at shows
      split at shows
      · obtain ⟨before, -, rfl⟩ := Option.map_eq_some_iff.1 shows
        exact Or.inl rfl
      · rename_i unjudged
        rcases sound mark shows with clear | ⟨orphan, onRecord, -⟩
        · exact Or.inl clear
        · simp [onRecord] at unjudged
  | judge orphan =>
      obtain ⟨before, -, rfl⟩ := Option.map_eq_some_iff.1 shows
      exact Or.inr ⟨orphan, rfl, rfl⟩

/-- The first sight of a tool use overlooks the verdict on record. -/
theorem isOverlooked_seen (standing : Standing) :
    standing.seen.isOverlooked =
      (standing.shown.isNone && standing.verdict.isSome || standing.isOverlooked) := by
  cases held : standing.shown with
  | some mark => simp [seen_of_call, held]
  | none => simp [isOverlooked, seen, held]

/-- Nothing is overlooked once it has been ruled on. -/
theorem isOverlooked_ruled (standing : Standing) (ruling : Ruling) :
    (standing.ruled ruling).isOverlooked = false := by
  cases ruling with
  | finish => rfl
  | release => rfl
  | judge orphan => cases held : standing.shown <;> simp [isOverlooked, ruled, held]

theorem isOverlooked_foldl_ruled (standing : Standing) (rulings : List Ruling) :
    (rulings.foldl ruled standing).isOverlooked = (rulings.isEmpty && standing.isOverlooked) := by
  induction rulings generalizing standing with
  | nil => rfl
  | cons ruling rest ih => simp [ih, isOverlooked_ruled]

/-- A call shows the verdict on record exactly if that is not overlooked. -/
theorem Sound.shows_iff {standing : Standing} (sound : standing.Sound) {call : ToolCall}
    (shown : standing.shown = some call.mark) :
    call.Shows standing.verdict ↔ standing.isOverlooked = false := by
  unfold ToolCall.Shows isOverlooked
  rw [shown, Option.any_some]
  rcases sound call.mark shown with clear | ⟨orphan, onRecord, marked⟩
  · obtain ⟨unflagged, unexplained⟩ := Prod.mk.inj clear
    rw [clear, unflagged, unexplained]
    cases standing.verdict <;> simp
  · obtain ⟨flagged, explained⟩ := Prod.mk.inj marked
    rw [marked, flagged, explained, onRecord]
    simp

/-- A call that overlooks its verdict shows none. -/
theorem Sound.clear_of_isOverlooked {standing : Standing} (sound : standing.Sound)
    {call : ToolCall} (shown : standing.shown = some call.mark)
    (overlooked : standing.isOverlooked = true) :
    standing.verdict.isSome = true ∧ call.orphaned = false ∧ call.orphanReason = none := by
  obtain ⟨judged, unflagged⟩ := Bool.and_eq_true_iff.1 overlooked
  rw [shown, Option.any_some] at unflagged
  rcases sound call.mark shown with clear | ⟨orphan, -, marked⟩
  · exact ⟨judged, Prod.mk.inj clear⟩
  · rw [marked] at unflagged
    cases unflagged

theorem sound_foldl_ruled {standing : Standing} (sound : standing.Sound) (rulings : List Ruling) :
    (rulings.foldl ruled standing).Sound := by
  induction rulings generalizing standing with
  | nil => exact sound
  | cons ruling rest ih => exact ih (sound_ruled sound ruling)

end Standing

/-- The verdict of a notice. -/
def OrphanNotice.orphan (notice : OrphanNotice) : Orphan :=
  { reason := notice.reason, message := notice.message.getD Orphan.defaultMessage }

namespace Tracker

/-- How a tool use stands in a tracker. -/
def standing (tracker : Tracker) (toolId : String) : Standing :=
  { shown := (tracker.call? toolId).map ToolCall.mark, verdict := tracker.orphans.find? toolId }

/-- Whether a change creates the call of a tool use that has none. -/
def sees (tracker : Tracker) (change : TrackerChange) (toolId : String) : Bool :=
  match change with
  | .toolUse toolUse => toolId == toolUse.toolId
  | .permissionRequest request => tracker.requestTarget? request == some toolId
  | .toolResult result => toolId == result.toolId
  | .toolEvent event => toolId == event.toolId
  | .displayStates display => display.tools.any fun tools => tools.contains toolId
  | _ => false

/-- How a change rules on a tool use, in the order of its rulings. -/
def rulings (tracker : Tracker) (change : TrackerChange) (toolId : String) : List Ruling :=
  match change with
  | .toolResult result => if toolId = result.toolId then [.finish] else []
  | .toolEvent event => if toolId = event.toolId ∧ event.outcome.isSome then [.finish] else []
  | .displayStates display =>
      match display.orphans with
      | none => []
      | some notices =>
          .release :: (notices.filter fun notice => notice.toolId == toolId).map fun notice =>
            .judge notice.orphan
  | .markOrphaned orphanId reason message =>
      if toolId = orphanId then
        [.judge { reason, message := message.getD Orphan.defaultMessage }]
      else []
  | .orphanUnfinished reason =>
      ((tracker.orphanUnfinished reason).2.filter fun orphanId => orphanId == toolId).map fun _ =>
        .judge { reason, message := Orphan.defaultMessage }
  | _ => []

/-! ## What the records make of a standing -/

section Marks

@[simp] theorem mark_nameAs (toolUse : ToolUse) (call : ToolCall) :
    (nameAs toolUse call).mark = call.mark := by
  unfold nameAs
  split <;> rfl

@[simp] theorem mark_askFor (request : PermissionRequest) (call : ToolCall) :
    (askFor request call).mark = call.mark := by
  obtain ⟨_, _, _, asked⟩ := askFor_eq request call
  rw [asked]
  rfl

@[simp] theorem mark_answerWith (response : PermissionResponse) (call : ToolCall) :
    (answerWith response call).mark = call.mark := by
  obtain ⟨_, _, _, answered⟩ := answerWith_eq response call
  rw [answered]
  rfl

theorem mark_assignEvent (event : ToolEvent) (call : ToolCall) :
    (assignEvent event call).mark = if event.outcome.isSome then (false, none) else call.mark := by
  unfold assignEvent
  cases event.outcome with
  | some outcome => rfl
  | none =>
      dsimp only
      cases event.permission with
      | none => dsimp only; split <;> rfl
      | some permission => dsimp only; split <;> rfl

variable (tracker : Tracker)

theorem mark_callOrStart (toolId toolName : String) (input : Json) :
    (tracker.callOrStart toolId toolName input).mark =
      ((tracker.call? toolId).map ToolCall.mark).getD (false, none) := by
  cases held : tracker.call? toolId with
  | some call => simp [callOrStart_of_call held]
  | none =>
      rw [callOrStart_of_new held]
      rfl

end Marks

section Orphans

variable (tracker : Tracker)

theorem orphans_onToolEvent (event : ToolEvent) :
    (tracker.onToolEvent event).orphans =
      if event.outcome.isSome then tracker.orphans.erase event.toolId else tracker.orphans := by
  unfold onToolEvent
  extract_lets ensured assigned linked settled indexed
  have first : linked.orphans = tracker.orphans := by
    have told : assigned.orphans = tracker.orphans := tracker.orphans_ensure _ _ _
    unfold linked
    split
    · exact told
    · exact told
  have second : settled.orphans =
      if event.outcome.isSome then tracker.orphans.erase event.toolId else tracker.orphans := by
    unfold settled
    split
    · rw [← first]
    · exact first
  have third : indexed.orphans = settled.orphans := by
    unfold indexed
    split
    · simp
    · rfl
  split
  · exact third.trans second
  · exact third.trans second

end Orphans

/-! ## What a change makes of a standing -/

section Standings

variable (tracker : Tracker) {toolId : String}

theorem standing_of_sameAt {left right : Tracker} (same : SameAt left right toolId) :
    left.standing toolId = right.standing toolId := by
  unfold standing
  rw [same.call, same.orphan]

/-- A step that leaves a call, new or not, its mark and leaves all verdicts alone is a
sight of the tool use. -/
theorem standing_of_seen {after : Tracker} {toolName : String} {input : Json}
    (shows : (after.call? toolId).map ToolCall.mark =
      some (tracker.callOrStart toolId toolName input).mark)
    (orphans : after.orphans = tracker.orphans) :
    after.standing toolId = (tracker.standing toolId).seen := by
  unfold standing Standing.seen
  rw [shows, orphans, mark_callOrStart]

theorem standing_applyDisplayedTool (tool : DisplayedTool) (toldId : String) :
    (tracker.applyDisplayedTool toldId tool).standing toolId =
      if toolId = toldId then (tracker.standing toolId).seen else tracker.standing toolId := by
  split
  · rename_i here
    subst here
    unfold applyDisplayedTool
    extract_lets status ensured assigned counted
    have shows : (assigned.call? toolId).map ToolCall.mark =
        some (tracker.callOrStart toolId (tool.toolName.getD "") .null).mark := by
      rw [call?_modify_ensure]
      rfl
    have first : assigned.standing toolId = (tracker.standing toolId).seen :=
      tracker.standing_of_seen shows (tracker.orphans_ensure toolId _ _)
    have second : counted.standing toolId = assigned.standing toolId := by
      unfold counted
      split
      · rfl
      · rfl
    split
    · exact second.trans first
    · exact second.trans first
  · rename_i elsewhere
    exact standing_of_sameAt (tracker.sameAt_applyDisplayedTool elsewhere tool)

theorem standing_applyDisplayedTools (display : Display) :
    (tracker.applyDisplayedTools display).standing toolId =
      if display.tools.any (fun tools => tools.contains toolId) then
        (tracker.standing toolId).seen
      else tracker.standing toolId := by
  unfold applyDisplayedTools applyDisplayStates
  cases display.tools with
  | none => rfl
  | some tools =>
      have listed : tools.contains toolId = (tools.entries.map Prod.fst).contains toolId :=
        (tools.contains_keys toolId).symm
      dsimp only
      rw [Option.any_some, listed]
      induction tools.entries generalizing tracker with
      | nil => rfl
      | cons entry rest ih =>
          rw [List.foldl_cons, ih, standing_applyDisplayedTool, List.map_cons, List.contains_cons]
          by_cases here : toolId = entry.1
          · have again : (tracker.standing toolId).seen.seen = (tracker.standing toolId).seen :=
              Standing.seen_of_call rfl
            rw [if_pos here, again, ite_self, beq_iff_eq.2 here, Bool.true_or, if_pos rfl]
          · rw [if_neg here, beq_false_of_ne here, Bool.false_or]

theorem standing_markOrphaned (orphanId reason : String) (message : Option String) :
    (tracker.markOrphaned orphanId reason message).standing toolId =
      if toolId = orphanId then
        (tracker.standing toolId).ruled
          (.judge { reason, message := message.getD Orphan.defaultMessage })
      else tracker.standing toolId := by
  unfold markOrphaned
  split
  · rename_i here
    subst here
    simp only [standing, Standing.ruled]
    rw [call?_recordOrphan, if_pos rfl, orphans_recordOrphan, Table.find?_insert_self,
      Option.map_map, Option.map_map]
    rfl
  · rename_i elsewhere
    exact standing_of_sameAt (tracker.sameAt_recordOrphan elsewhere _)

/-- Verdicts on a list of tool uses rule on a tool use once for each time that it is on
the list. -/
theorem standing_foldl_markOrphaned {α : Type} (orphanId reason : α → String)
    (message : α → Option String) (verdicts : List α) :
    (verdicts.foldl (fun tracker verdict => tracker.markOrphaned (orphanId verdict)
        (reason verdict) (message verdict)) tracker).standing toolId =
      ((verdicts.filter fun verdict => orphanId verdict == toolId).map fun verdict =>
        Ruling.judge
          { reason := reason verdict
            message := (message verdict).getD Orphan.defaultMessage }).foldl
        Standing.ruled (tracker.standing toolId) := by
  induction verdicts generalizing tracker with
  | nil => rfl
  | cons verdict rest ih =>
      rw [List.foldl_cons, ih, standing_markOrphaned]
      by_cases here : toolId = orphanId verdict
      · simp [here]
      · simp [here, Ne.symm here]

theorem standing_forgetOrphans :
    tracker.forgetOrphans.standing toolId = (tracker.standing toolId).ruled .release := by
  have onRecord : tracker.isOrphaned toolId = (tracker.orphans.find? toolId).isSome := rfl
  unfold standing Standing.ruled
  rw [call?_forgetOrphans, onRecord]
  cases (tracker.orphans.find? toolId).isSome with
  | true =>
      simp only [if_true, Option.map_map]
      rfl
  | false =>
      simp only [Bool.false_eq_true, if_false, Option.map_id']
      rfl

theorem standing_replaceOrphans (notices : List OrphanNotice) :
    (tracker.replaceOrphans notices).standing toolId =
      ((notices.filter fun notice => notice.toolId == toolId).map fun notice =>
        Ruling.judge notice.orphan).foldl Standing.ruled
          ((tracker.standing toolId).ruled .release) := by
  unfold replaceOrphans
  rw [standing_foldl_markOrphaned _ OrphanNotice.toolId OrphanNotice.reason OrphanNotice.message,
    standing_forgetOrphans]
  rfl

theorem standing_onToolUse (toolUse : ToolUse) :
    (tracker.onToolUse toolUse).standing toolId =
      if toolId = toolUse.toolId then (tracker.standing toolId).seen
      else tracker.standing toolId := by
  split
  · rename_i here
    subst here
    have shows := congrArg (Option.map ToolCall.mark) (tracker.call?_onToolUse toolUse)
    rw [Option.map_some, mark_nameAs] at shows
    exact tracker.standing_of_seen shows (tracker.orphans_onToolUse toolUse)
  · rename_i elsewhere
    exact standing_of_sameAt (tracker.sameAt_onToolUse elsewhere)

theorem standing_onPermissionRequest (request : PermissionRequest) :
    (tracker.onPermissionRequest request).1.standing toolId =
      if tracker.requestTarget? request = some toolId then (tracker.standing toolId).seen
      else tracker.standing toolId := by
  split
  · rename_i here
    have shows := congrArg (Option.map ToolCall.mark) (tracker.call?_onPermissionRequest here)
    rw [Option.map_some, mark_askFor] at shows
    exact tracker.standing_of_seen shows (tracker.orphans_onPermissionRequest request)
  · rename_i elsewhere
    exact standing_of_sameAt (tracker.sameAt_onPermissionRequest elsewhere)

/-- An answer is no sight: it changes a call only if there is one. -/
theorem standing_onPermissionResponse (response : PermissionResponse) :
    (tracker.onPermissionResponse response).1.standing toolId = tracker.standing toolId := by
  by_cases here : tracker.responseTarget? response = some toolId
  · have answered : ((tracker.onPermissionResponse response).1.call? toolId).map ToolCall.mark =
        (tracker.call? toolId).map ToolCall.mark := by
      rw [tracker.call?_onPermissionResponse here, Option.map_map]
      congr 1
      funext call
      exact mark_answerWith response call
    unfold standing
    rw [answered, orphans_onPermissionResponse]
  · exact standing_of_sameAt (tracker.sameAt_onPermissionResponse here)

theorem standing_onToolResult (result : ToolResult) :
    (tracker.onToolResult result).standing toolId =
      if toolId = result.toolId then (tracker.standing toolId).seen.ruled .finish
      else tracker.standing toolId := by
  split
  · rename_i here
    subst here
    unfold standing Standing.seen Standing.ruled
    rw [call?_onToolResult, orphans_onToolResult, Table.find?_erase, if_pos rfl]
    rfl
  · rename_i elsewhere
    exact standing_of_sameAt (tracker.sameAt_onToolResult elsewhere)

/-- An event rules like a result if it brings one. -/
theorem standing_onToolEvent (event : ToolEvent) :
    (tracker.onToolEvent event).standing toolId =
      if toolId = event.toolId then
        if event.outcome.isSome then (tracker.standing toolId).seen.ruled .finish
        else (tracker.standing toolId).seen
      else tracker.standing toolId := by
  split
  · rename_i here
    subst here
    unfold standing Standing.seen Standing.ruled
    rw [call?_onToolEvent, orphans_onToolEvent, Option.map_some, mark_assignEvent,
      mark_callOrStart]
    split
    · rw [Table.find?_erase, if_pos rfl]
      rfl
    · rfl
  · rename_i elsewhere
    exact standing_of_sameAt (tracker.sameAt_onToolEvent elsewhere)

theorem standing_toggleExpanded (toggledId : String) :
    (tracker.toggleExpanded toggledId).1.standing toolId = tracker.standing toolId := by
  by_cases here : toolId = toggledId
  · subst here
    unfold standing
    rw [call?_toggleExpanded, Option.map_map]
    unfold toggleExpanded
    cases tracker.call? toolId <;> rfl
  · exact standing_of_sameAt (tracker.sameAt_toggleExpanded here)

/-- **One change.**  A change brings the sight of a tool use, if it does, and then its
rulings. -/
theorem standing_after (change : TrackerChange) :
    (tracker.after change).standing toolId =
      (tracker.rulings change toolId).foldl Standing.ruled
        (if tracker.sees change toolId then (tracker.standing toolId).seen
          else tracker.standing toolId) := by
  cases change with
  | toolUse toolUse => simp [after, sees, rulings, standing_onToolUse]
  | permissionRequest request => simp [after, sees, rulings, standing_onPermissionRequest]
  | permissionResponse response => exact tracker.standing_onPermissionResponse response
  | toolResult result =>
      by_cases here : toolId = result.toolId <;>
        simp [after, sees, rulings, standing_onToolResult, here]
  | toolEvent event =>
      by_cases here : toolId = event.toolId
      · cases reported : event.outcome.isSome <;>
          simp [after, sees, rulings, standing_onToolEvent, here, reported]
      · simp [after, sees, rulings, standing_onToolEvent, here]
  | displayLinks display => exact standing_of_sameAt (tracker.sameAt_applyDisplayLinks display)
  | displayStates display =>
      have saw : tracker.sees (.displayStates display) toolId =
          display.tools.any fun tools => tools.contains toolId := rfl
      rw [saw, ← standing_applyDisplayedTools]
      simp only [after, rulings, applyDisplayStates_eq]
      cases display.orphans with
      | none => rfl
      | some notices => exact (tracker.applyDisplayedTools display).standing_replaceOrphans notices
  | markOrphaned orphanId reason message =>
      by_cases here : toolId = orphanId <;>
        simp [after, sees, rulings, standing_markOrphaned, here]
  | orphanUnfinished reason =>
      exact tracker.standing_foldl_markOrphaned (fun orphanId => orphanId) (fun _ => reason)
        (fun _ => none) _
  | recount => rfl
  | toggle toggledId => exact tracker.standing_toggleExpanded toggledId

end Standings

/-! ## Runs -/

/-- Whether a change brings the first sight of a tool use that has a verdict on record,
and does not rule on it. -/
def overlooks (tracker : Tracker) (change : TrackerChange) (toolId : String) : Bool :=
  (tracker.call? toolId).isNone && tracker.isOrphaned toolId && tracker.sees change toolId &&
    (tracker.rulings change toolId).isEmpty

/-- Whether a change rules on a tool use. -/
def rulesOn (tracker : Tracker) (change : TrackerChange) (toolId : String) : Bool :=
  !(tracker.rulings change toolId).isEmpty

/-- A run shows a tool use for the first time when a verdict on it is on record, and
does not rule on it from then on. -/
def SeenAfterVerdict (start : Tracker) (changes : List TrackerChange) (toolId : String) : Prop :=
  LastSet (fun tracker change => tracker.overlooks change toolId)
    (fun tracker change => tracker.rulesOn change toolId) start changes

theorem isOverlooked_after (toolId : String) (tracker : Tracker) (change : TrackerChange) :
    ((tracker.after change).standing toolId).isOverlooked =
      (tracker.overlooks change toolId ||
        (tracker.standing toolId).isOverlooked && !tracker.rulesOn change toolId) := by
  have unseen : (tracker.standing toolId).shown.isNone = (tracker.call? toolId).isNone :=
    Option.isNone_map
  have judged : (tracker.standing toolId).verdict.isSome = tracker.isOrphaned toolId := rfl
  unfold overlooks rulesOn
  rw [standing_after, Standing.isOverlooked_foldl_ruled]
  cases (tracker.rulings change toolId).isEmpty with
  | false => simp
  | true =>
      cases tracker.sees change toolId with
      | false => simp
      | true => simp [Standing.isOverlooked_seen, unseen, judged]

theorem sound_after {tracker : Tracker} {toolId : String} (change : TrackerChange)
    (sound : (tracker.standing toolId).Sound) :
    ((tracker.after change).standing toolId).Sound := by
  rw [standing_after]
  split
  · exact Standing.sound_foldl_ruled (Standing.sound_seen sound) _
  · exact Standing.sound_foldl_ruled sound _

theorem sound_run {tracker : Tracker} {toolId : String}
    (sound : (tracker.standing toolId).Sound) (changes : List TrackerChange) :
    ((tracker.run changes).standing toolId).Sound := by
  have keeps : ∀ (tracker : Tracker) change, (tracker.standing toolId).Sound →
      ((tracker.after change).standing toolId).Sound := fun _ change => sound_after change
  exact kept_run keeps sound changes

theorem isOverlooked_run_iff (sessionId : String) (changes : List TrackerChange) (toolId : String) :
    (((new sessionId).run changes).standing toolId).isOverlooked = true ↔
      SeenAfterVerdict (new sessionId) changes toolId :=
  holds_run_iff_lastSet (fun tracker => (tracker.standing toolId).isOverlooked)
    (isOverlooked_after toolId) rfl changes

/-- **Calls and verdicts.**  Whatever has happened to a tracker that began empty, a call
shows the verdict on record about its tool use, the reason included, exactly if the run
did not first see the tool use after that verdict without ruling on it again.  If it did,
there is a verdict and the call shows none; if it did not, the caveat is the verdict's
reason and an orphan shows as completed. -/
theorem shows_verdict_iff {sessionId toolId : String} {changes : List TrackerChange}
    {call : ToolCall} (held : ((new sessionId).run changes).call? toolId = some call) :
    (call.Shows (((new sessionId).run changes).orphans.find? toolId) ↔
      ¬ SeenAfterVerdict (new sessionId) changes toolId) ∧
    (SeenAfterVerdict (new sessionId) changes toolId →
      ((new sessionId).run changes).isOrphaned toolId = true ∧ call.orphaned = false ∧
        call.orphanReason = none) ∧
    (¬ SeenAfterVerdict (new sessionId) changes toolId →
      call.caveat = (((new sessionId).run changes).orphans.find? toolId).map Orphan.reason ∧
        (((new sessionId).run changes).isOrphaned toolId = true →
          call.effectiveStatus = .completed)) := by
  have empty : ((new sessionId).standing toolId).Sound := by
    intro mark shows
    cases shows
  have sound := sound_run empty changes
  have shown : (((new sessionId).run changes).standing toolId).shown = some call.mark :=
    congrArg (Option.map ToolCall.mark) held
  have shows : call.Shows (((new sessionId).run changes).orphans.find? toolId) ↔
      ¬ SeenAfterVerdict (new sessionId) changes toolId := by
    rw [← isOverlooked_run_iff, Bool.not_eq_true]
    exact sound.shows_iff shown
  refine ⟨shows, fun late => ?_, fun intime => ?_⟩
  · exact sound.clear_of_isOverlooked shown ((isOverlooked_run_iff _ _ _).2 late)
  · have agrees := shows.2 intime
    exact ⟨agrees.caveat, agrees.effectiveStatus⟩

/-! ### A tool use that is seen late -/

/-- The session gives a tool use up, and only then is the tool use seen. -/
def lateTool : List TrackerChange :=
  [.markOrphaned "t" "gone" none, .toolUse { toolId := "t", name := "Bash", input := .null }]

/-- The verdict stands, and the call, which is younger, shows none. -/
theorem shows_verdict_of_lateTool :
    let tracker := (new "s").run lateTool
    let call := ToolCall.start "s" "t" "Bash" .null 0
    tracker.call? "t" = some call ∧ tracker.isOrphaned "t" = true ∧ call.orphaned = false ∧
      ¬ call.Shows (tracker.orphans.find? "t") ∧ SeenAfterVerdict (new "s") lateTool "t" := by
  intro tracker call
  have held : tracker.call? "t" = some call := by decide +kernel
  have judged : tracker.isOrphaned "t" = true := by decide +kernel
  have silent : ¬ call.Shows (tracker.orphans.find? "t") := by
    intro shows
    have flagged : call.orphaned = true := shows.1.trans judged
    cases flagged
  refine ⟨held, judged, rfl, silent, ?_⟩
  by_contra intime
  exact silent ((shows_verdict_iff held).1.2 intime)

end Tracker

end SessionSync
