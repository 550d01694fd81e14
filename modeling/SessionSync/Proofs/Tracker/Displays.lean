import SessionSync.Proofs.Latest
import SessionSync.Proofs.Tracker.Verdicts

/-!
# What a display block makes of a tracker

A display block brings permission links, the backend's states of tool uses, and a list of
orphans.

A state is written into the call of its tool use (`shownAs`), counts it as unfinished or not
(`countShown`), and may link a request (`linkShown`).  A call that shows its state already
stays as it is, so a block whose states are all shown touches nothing but counts and links
(`applyShown_of_shown`).  A list of orphans leaves a tool use with its last
verdict on the list, or with none (`judged?`).

The states of a block are taken as a list of entries in any order, of which only the ids
have to be distinct.
-/

set_option autoImplicit false

namespace SessionSync

/-- The states of a display block with the ids of their tool uses. -/
def Display.shown (display : Display) : List (String × DisplayedTool) :=
  (display.tools.map WalkedMap.entries).getD []

/-- A block has one state for a tool use at most. -/
theorem Display.nodup_shown (display : Display) : (display.shown.map Prod.fst).Nodup := by
  unfold Display.shown
  cases display.tools with
  | none => exact List.nodup_nil
  | some tools => exact tools.distinct

/-- Two readings of one block: they have the same parts, and may walk the states of the tool
uses in different orders. -/
structure Display.AlikeButOrder (left right : Display) : Prop where
  given : left.tools.isSome = right.tools.isSome
  shown : left.shown.Perm right.shown
  orphans : left.orphans = right.orphans
  links : left.links = right.links

namespace Display.AlikeButOrder

theorem refl (display : Display) : display.AlikeButOrder display := ⟨rfl, .refl _, rfl, rfl⟩

theorem isEmpty {left right : Display} (alike : left.AlikeButOrder right) :
    left.isEmpty = right.isEmpty := by
  unfold Display.isEmpty
  rw [alike.orphans, alike.links, ← Option.not_isSome, alike.given, Option.not_isSome]

/-- A block can be read in every order of its states. -/
theorem exists_of_perm {display : Display} {order : List (String × DisplayedTool)}
    (perm : order.Perm display.shown) :
    ∃ again, display.AlikeButOrder again ∧ again.shown = order := by
  obtain ⟨tools, orphans, links⟩ := display
  cases tools with
  | none =>
      have nothing : order = [] := List.perm_nil.1 perm
      exact ⟨_, refl _, nothing.symm⟩
  | some tools =>
      have distinct : (order.map Prod.fst).Nodup := (perm.map Prod.fst).nodup_iff.2 tools.distinct
      exact ⟨⟨some ⟨order, distinct⟩, orphans, links⟩, ⟨rfl, perm.symm, rfl, rfl⟩, rfl⟩

end Display.AlikeButOrder

namespace Tracker

/-! ## Links -/

/-- The links of a block are written one after another, and nothing else is. -/
theorem foldl_link (entries : List (String × String)) (tracker : Tracker) :
    entries.foldl (fun tracker entry => tracker.link entry.1 entry.2) tracker =
      { tracker with
        links := entries.foldl (fun links entry => links.insert entry.1 entry.2) tracker.links } := by
  induction entries generalizing tracker with
  | nil => rfl
  | cons entry rest ih => exact ih (tracker.link entry.1 entry.2)

/-- The links of a block go in whatever else the block says. -/
theorem applyDisplayLinks_congr {left right : Display} (same : left.links = right.links)
    (tracker : Tracker) : tracker.applyDisplayLinks left = tracker.applyDisplayLinks right := by
  unfold applyDisplayLinks
  rw [same]

/-! ## One state -/

/-- What the backend's state of a tool use makes of its call. -/
def shownAs (tool : DisplayedTool) (call : ToolCall) : ToolCall :=
  { call with
    toolName := if call.toolName.isEmpty then tool.toolName.getD call.toolName else call.toolName
    status := ToolStatus.ofState tool.state
    requestId := tool.requestId.or call.requestId
    expanded := if (ToolStatus.ofState tool.state).isTerminal then false else call.expanded }

/-- What a state makes of the tool uses that are counted as unfinished. -/
def countShown (unfinished : KeySet) (entry : String × DisplayedTool) : KeySet :=
  if (ToolStatus.ofState entry.2.state).isTerminal then unfinished.erase entry.1
  else unfinished.insert entry.1 ()

/-- What a state makes of the links. -/
def linkShown (links : Table String) (entry : String × DisplayedTool) : Table String :=
  match entry.2.requestId with
  | some requestId => links.insert requestId entry.1
  | none => links

theorem contains_countShown (unfinished : KeySet) (entry : String × DisplayedTool)
    (toolId : String) :
    (countShown unfinished entry).contains toolId =
      if entry.1 = toolId then !(ToolStatus.ofState entry.2.state).isTerminal
      else unfinished.contains toolId := by
  unfold countShown
  by_cases here : entry.1 = toolId
  · subst here
    cases (ToolStatus.ofState entry.2.state).isTerminal <;>
      simp [Table.contains_insert, Table.contains_erase]
  · have elsewhere : (toolId == entry.1) = false := beq_false_of_ne (Ne.symm here)
    cases (ToolStatus.ofState entry.2.state).isTerminal <;>
      simp [Table.contains_insert, Table.contains_erase, here, elsewhere, bne]

theorem find?_linkShown (links : Table String) (entry : String × DisplayedTool)
    (requestId : String) :
    (linkShown links entry).find? requestId =
      if entry.2.requestId = some requestId then some entry.1 else links.find? requestId := by
  unfold linkShown
  cases entry.2.requestId with
  | none => rfl
  | some asked =>
      rw [Table.find?_insert]
      simp only [Option.some_inj, eq_comm]

theorem shownAs_shownAs (tool : DisplayedTool) (call : ToolCall) :
    shownAs tool (shownAs tool call) = shownAs tool call := by
  unfold shownAs
  cases unnamed : call.toolName.isEmpty <;> cases (ToolStatus.ofState tool.state).isTerminal <;>
    cases tool.requestId <;> cases tool.toolName <;> simp [unnamed]

section OneState

variable (tracker : Tracker) (toolId : String) (tool : DisplayedTool)

/-- A state is written into the call of its tool use, new or not. -/
theorem call?_applyDisplayedTool_self :
    (tracker.applyDisplayedTool toolId tool).call? toolId =
      some (shownAs tool (tracker.callOrStart toolId (tool.toolName.getD "") .null)) := by
  rw [← call?_modify_ensure]
  unfold applyDisplayedTool
  extract_lets status ensured assigned counted
  have second : counted.call? toolId = assigned.call? toolId := by
    unfold counted
    split
    · rfl
    · rfl
  split
  · exact second
  · exact second

theorem unfinished_applyDisplayedTool :
    (tracker.applyDisplayedTool toolId tool).unfinished =
      countShown tracker.unfinished (toolId, tool) := by
  apply KeySet.ext_contains
  intro probe
  rw [contains_countShown]
  split
  · rename_i here
    rw [← here, contains_unfinished_applyDisplayedTool]
  · rename_i elsewhere
    exact (tracker.sameAt_applyDisplayedTool (Ne.symm elsewhere) tool).unfinished

theorem links_applyDisplayedTool :
    (tracker.applyDisplayedTool toolId tool).links = linkShown tracker.links (toolId, tool) := by
  have ensured := tracker.links_ensure toolId (tool.toolName.getD "") .null
  unfold applyDisplayedTool linkShown
  extract_lets status known assigned counted
  have counting : counted.links = tracker.links := by
    unfold counted
    split
    · exact ensured
    · exact ensured
  cases tool.requestId with
  | none => exact counting
  | some requestId =>
      show counted.links.insert requestId toolId = _
      rw [counting]

variable {tracker toolId tool}

/-- A call that shows its state already stays as it is. -/
theorem applyDisplayedTool_of_shown {call : ToolCall} (held : tracker.call? toolId = some call)
    (shown : shownAs tool call = call) :
    tracker.applyDisplayedTool toolId tool =
      { tracker with
        unfinished := countShown tracker.unfinished (toolId, tool)
        links := linkShown tracker.links (toolId, tool) } := by
  have assigned : tracker.modify toolId (shownAs tool) = tracker := modify_of_fixed held shown
  unfold shownAs at assigned
  unfold applyDisplayedTool countShown linkShown
  rw [ensure_of_call held]
  dsimp only
  rw [assigned]
  cases (ToolStatus.ofState tool.state).isTerminal <;> cases tool.requestId <;> rfl

end OneState

/-! ## All states of a block -/

section States

variable {tracker : Tracker} {entries : List (String × DisplayedTool)}

/-- Write the states of a block one after another. -/
def applyShown (tracker : Tracker) (entries : List (String × DisplayedTool)) : Tracker :=
  entries.foldl (fun tracker entry => tracker.applyDisplayedTool entry.1 entry.2) tracker

theorem applyShown_cons (tracker : Tracker) (entry : String × DisplayedTool)
    (rest : List (String × DisplayedTool)) :
    tracker.applyShown (entry :: rest) =
      (tracker.applyDisplayedTool entry.1 entry.2).applyShown rest := rfl

theorem applyDisplayedTools_eq (tracker : Tracker) (display : Display) :
    tracker.applyDisplayedTools display = tracker.applyShown display.shown := by
  unfold applyDisplayedTools applyDisplayStates Display.shown
  cases display.tools with
  | none => rfl
  | some tools => rfl

theorem unfinished_applyShown :
    (tracker.applyShown entries).unfinished = entries.foldl countShown tracker.unfinished := by
  induction entries generalizing tracker with
  | nil => rfl
  | cons entry rest ih =>
      rw [applyShown_cons, ih, unfinished_applyDisplayedTool]
      rfl

theorem links_applyShown :
    (tracker.applyShown entries).links = entries.foldl linkShown tracker.links := by
  induction entries generalizing tracker with
  | nil => rfl
  | cons entry rest ih =>
      rw [applyShown_cons, ih, links_applyDisplayedTool]
      rfl

/-- Where the calls show all states of a block, the block changes counts and links only. -/
theorem applyShown_of_shown
    (shown : ∀ entry ∈ entries, ∃ call, tracker.call? entry.1 = some call ∧
      shownAs entry.2 call = call) :
    tracker.applyShown entries =
      { tracker with
        unfinished := entries.foldl countShown tracker.unfinished
        links := entries.foldl linkShown tracker.links } := by
  induction entries generalizing tracker with
  | nil => rfl
  | cons entry rest ih =>
      obtain ⟨call, held, fixed⟩ := shown entry List.mem_cons_self
      have first := applyDisplayedTool_of_shown held fixed
      have later : ∀ next ∈ rest, ∃ call,
          (tracker.applyDisplayedTool entry.1 entry.2).call? next.1 = some call ∧
            shownAs next.2 call = call := by
        intro next member
        rw [first]
        exact shown next (List.mem_cons_of_mem _ member)
      rw [applyShown_cons, ih later, first]
      rfl

/-- After a block with distinct ids the calls show all its states. -/
theorem shown_applyShown (tracker : Tracker) (distinct : (entries.map Prod.fst).Nodup) :
    ∀ entry ∈ entries, ∃ call, (tracker.applyShown entries).call? entry.1 = some call ∧
      shownAs entry.2 call = call := by
  induction entries generalizing tracker with
  | nil => intro entry none; cases none
  | cons first rest ih =>
      obtain ⟨fresh, others⟩ := List.nodup_cons.1 distinct
      intro entry member
      rcases List.mem_cons.1 member with rfl | member
      · -- The states that follow are about other tool uses.
        have kept : SameAt (tracker.applyShown (entry :: rest))
            (tracker.applyDisplayedTool entry.1 entry.2) entry.1 := by
          rw [applyShown_cons]
          unfold applyShown
          refine sameAt_foldl _ fun next later tracker => ?_
          refine tracker.sameAt_applyDisplayedTool (fun same => fresh ?_) next.2
          exact List.mem_map.2 ⟨next, later, same.symm⟩
        refine ⟨_, kept.call.trans (tracker.call?_applyDisplayedTool_self entry.1 entry.2), ?_⟩
        exact shownAs_shownAs _ _
      · exact ih _ others entry member

end States

/-! ## The list of orphans -/

/-- The verdict that a list of orphans leaves a tool use with: the last one about it. -/
def judged? (notices : List OrphanNotice) (toolId : String) : Option Orphan :=
  latest? (fun notice => if notice.toolId = toolId then some notice.orphan else none) notices

/-- What a list of orphans makes of a call, by the verdict on the list and by whether there
was one before. -/
def ruleOn (verdict : Option Orphan) (known : Bool) (call : ToolCall) : ToolCall :=
  match verdict with
  | some orphan => orphanCall orphan.reason call
  | none => if known then { call with orphaned := false, orphanReason := none } else call

/-- A list of orphans changes what a call shows of its verdict, and nothing else. -/
theorem ruleOn_eq (verdict : Option Orphan) (known : Bool) (call : ToolCall) :
    ∃ expanded orphaned orphanReason, ruleOn verdict known call =
      { call with expanded, orphaned, orphanReason } := by
  cases verdict with
  | some orphan => exact ⟨_, _, _, rfl⟩
  | none => cases known <;> exact ⟨_, _, _, rfl⟩

/-- A list that comes again finds its own verdicts. -/
theorem ruleOn_ruleOn (verdict : Option Orphan) (known : Bool) (call : ToolCall) :
    ruleOn verdict verdict.isSome (ruleOn verdict known call) = ruleOn verdict known call := by
  cases verdict with
  | none => rfl
  | some orphan => rfl

/-- A verdict does not hide a state that is shown. -/
theorem shownAs_ruleOn {tool : DisplayedTool} {call : ToolCall} (shown : shownAs tool call = call)
    (verdict : Option Orphan) (known : Bool) :
    shownAs tool (ruleOn verdict known call) = ruleOn verdict known call := by
  cases verdict with
  | none =>
      cases known with
      | false => exact shown
      | true =>
          exact congrArg
            (fun call : ToolCall => { call with orphaned := false, orphanReason := none }) shown
  | some orphan =>
      refine Eq.trans ?_ (congrArg (orphanCall orphan.reason) shown)
      show shownAs tool (orphanCall orphan.reason call) = orphanCall orphan.reason (shownAs tool call)
      unfold shownAs orphanCall
      simp

section Lists

variable (tracker : Tracker) (notices : List OrphanNotice)

theorem judged?_concat (notice : OrphanNotice) (toolId : String) :
    judged? (notices ++ [notice]) toolId =
      if notice.toolId = toolId then some notice.orphan else judged? notices toolId := by
  unfold judged?
  rw [latest?_concat]
  split
  · rfl
  · rfl

/-- What the verdicts of a list, one after another, leave. -/
theorem foldl_markOrphaned_notices (toolId : String) :
    let after := notices.foldl (fun tracker notice => tracker.markOrphaned notice.toolId
      notice.reason notice.message) tracker
    after.call? toolId = (tracker.call? toolId).map (ruleOn (judged? notices toolId) false) ∧
      after.orphans.find? toolId = (judged? notices toolId).or (tracker.orphans.find? toolId) ∧
      after.unfinished.contains toolId =
        ((judged? notices toolId).isNone && tracker.unfinished.contains toolId) := by
  induction notices using List.reverseRecOn with
  | nil =>
      refine ⟨?_, rfl, rfl⟩
      show tracker.call? toolId = (tracker.call? toolId).map fun call => call
      rw [Option.map_id']
  | append_singleton notices notice ih =>
      obtain ⟨call, orphan, counted⟩ := ih
      simp only [List.foldl_append, List.foldl_cons, List.foldl_nil, judged?_concat]
      generalize notices.foldl (fun tracker notice => tracker.markOrphaned notice.toolId
        notice.reason notice.message) tracker = before at call orphan counted ⊢
      by_cases here : notice.toolId = toolId
      · subst here
        rw [if_pos rfl]
        refine ⟨?_, Table.find?_insert_self _ _ _, ?_⟩
        · refine (call?_recordOrphan before notice.toolId notice.toolId _).trans ?_
          rw [if_pos rfl, call, Option.map_map]
          congr 1
          funext held
          cases judged? notices notice.toolId <;> rfl
        · refine (contains_unfinished_recordOrphan before notice.toolId notice.toolId _).trans ?_
          simp
      · have kept : SameAt (before.markOrphaned notice.toolId notice.reason notice.message) before
            toolId := before.sameAt_recordOrphan (Ne.symm here) _
        rw [if_neg here]
        exact ⟨kept.call.trans call, kept.orphan.trans orphan, kept.unfinished.trans counted⟩

theorem call?_replaceOrphans (toolId : String) :
    (tracker.replaceOrphans notices).call? toolId =
      (tracker.call? toolId).map (ruleOn (judged? notices toolId) (tracker.isOrphaned toolId)) := by
  obtain ⟨call, -, -⟩ := foldl_markOrphaned_notices tracker.forgetOrphans notices toolId
  refine call.trans ?_
  rw [call?_forgetOrphans, Option.map_map]
  congr 1
  funext held
  cases judged? notices toolId <;> cases tracker.isOrphaned toolId <;> rfl

theorem find?_orphans_replaceOrphans (toolId : String) :
    (tracker.replaceOrphans notices).orphans.find? toolId = judged? notices toolId := by
  obtain ⟨-, orphan, -⟩ := foldl_markOrphaned_notices tracker.forgetOrphans notices toolId
  exact orphan.trans Option.or_none

theorem isOrphaned_replaceOrphans (toolId : String) :
    (tracker.replaceOrphans notices).isOrphaned toolId = (judged? notices toolId).isSome :=
  congrArg Option.isSome (tracker.find?_orphans_replaceOrphans notices toolId)

theorem contains_unfinished_replaceOrphans (toolId : String) :
    (tracker.replaceOrphans notices).unfinished.contains toolId =
      ((judged? notices toolId).isNone && tracker.unfinished.contains toolId) :=
  (foldl_markOrphaned_notices tracker.forgetOrphans notices toolId).2.2

/-- Beside calls, orphans and the count a list of orphans changes nothing. -/
theorem replaceOrphans_eq :
    ∃ calls orphans unfinished,
      tracker.replaceOrphans notices = { tracker with calls, orphans, unfinished } := by
  unfold replaceOrphans
  induction notices using List.reverseRecOn with
  | nil => exact ⟨_, _, _, rfl⟩
  | append_singleton notices notice ih =>
      obtain ⟨calls, orphans, unfinished, same⟩ := ih
      rw [List.foldl_append, same]
      exact ⟨_, _, _, rfl⟩

section Kept

@[simp] theorem sessionId_replaceOrphans :
    (tracker.replaceOrphans notices).sessionId = tracker.sessionId := by
  obtain ⟨calls, orphans, unfinished, same⟩ := tracker.replaceOrphans_eq notices
  rw [same]

@[simp] theorem signatures_replaceOrphans :
    (tracker.replaceOrphans notices).signatures = tracker.signatures := by
  obtain ⟨calls, orphans, unfinished, same⟩ := tracker.replaceOrphans_eq notices
  rw [same]

@[simp] theorem links_replaceOrphans :
    (tracker.replaceOrphans notices).links = tracker.links := by
  obtain ⟨calls, orphans, unfinished, same⟩ := tracker.replaceOrphans_eq notices
  rw [same]

@[simp] theorem nextSeq_replaceOrphans :
    (tracker.replaceOrphans notices).nextSeq = tracker.nextSeq := by
  obtain ⟨calls, orphans, unfinished, same⟩ := tracker.replaceOrphans_eq notices
  rw [same]

end Kept

end Lists

end Tracker

end SessionSync
