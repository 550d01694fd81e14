import SessionSync.Proofs.Tracker.Interleavings

/-!
# The order of the states in a display block

The states of a display block are a map, and the block says nothing of the order in which
they are written into the tracker.  A tool use has one state in the block at most, so it
does not matter for what the tracker has of one tool use (`AgreesOn.applyShown_perm`).  It
matters for two things that the tool uses share: a call that a state creates gets the next
rank and the last place in an entry of the index, and a request is linked to the last tool
use whose state speaks of it.

Two neighbours in the order can change places unless both create a call or both speak of one
request (`applyDisplayedTool_comm`).  So the order does not matter at all exactly for the
blocks that have one state without a call at most, and whose states speak of different
requests (`applyStatesIn_eq_iff`).
-/

set_option autoImplicit false

namespace SessionSync

/-- The permission requests that states speak of, each once for every state. -/
def requestsOf (entries : List (String × DisplayedTool)) : List String :=
  entries.filterMap fun entry => entry.2.requestId

namespace Tracker

/-- The states of tool uses that have no call yet. -/
def unseen (tracker : Tracker) (entries : List (String × DisplayedTool)) :
    List (String × DisplayedTool) :=
  entries.filter fun entry => (tracker.call? entry.1).isNone

/-- Take in a display block with its states in a given order. -/
def applyStatesIn (tracker : Tracker) (display : Display)
    (order : List (String × DisplayedTool)) : Tracker :=
  match display.orphans with
  | none => tracker.applyShown order
  | some notices => (tracker.applyShown order).replaceOrphans notices

theorem applyStatesIn_shown (tracker : Tracker) (display : Display) :
    tracker.applyStatesIn display display.shown = tracker.applyDisplayStates display := by
  rw [applyDisplayStates_eq, applyDisplayedTools_eq]
  rfl

/-! ## One state, field by field -/

attribute [ext] Tracker

section OneState

variable (tracker : Tracker) (toolId : String) (tool : DisplayedTool)

theorem orphans_applyDisplayedTool :
    (tracker.applyDisplayedTool toolId tool).orphans = tracker.orphans := by
  have ensured := tracker.orphans_ensure toolId (tool.toolName.getD "") .null
  unfold applyDisplayedTool
  extract_lets status known assigned counted
  have counting : counted.orphans = tracker.orphans := by
    unfold counted
    split
    · exact ensured
    · exact ensured
  split
  · exact counting
  · exact counting

theorem signatures_indexSignature (signature : String) :
    (tracker.indexSignature toolId signature).signatures =
      tracker.signatures.insert signature (enlist toolId (tracker.listed signature)) := by
  apply Table.ext_find?
  intro probe
  rw [find?_indexSignature, Table.find?_insert]

theorem signatures_applyDisplayedTool_of_new (unknown : tracker.call? toolId = none) :
    (tracker.applyDisplayedTool toolId tool).signatures =
      let signature := toolSignature (tool.toolName.getD "") .null
      tracker.signatures.insert signature (enlist toolId (tracker.listed signature)) := by
  rw [signatures_applyDisplayedTool, signatures_ensure_of_new _ unknown, signatures_indexSignature]

/-- A state in full. -/
theorem applyDisplayedTool_eq :
    let signature := toolSignature (tool.toolName.getD "") .null
    let known := (tracker.call? toolId).isSome
    tracker.applyDisplayedTool toolId tool =
      { tracker with
        calls := tracker.calls.insert toolId
          (shownAs tool (tracker.callOrStart toolId (tool.toolName.getD "") .null))
        signatures := if known then tracker.signatures
          else tracker.signatures.insert signature (enlist toolId (tracker.listed signature))
        links := linkShown tracker.links (toolId, tool)
        unfinished := countShown tracker.unfinished (toolId, tool)
        nextSeq := tracker.nextSeq + if known then 0 else 1 } := by
  intro signature known
  have sighted := tracker.sighted_applyDisplayedTool toolId tool
  refine Tracker.ext sighted.session ?calls ?signatures ?links ?orphans ?unfinished sighted.counted
  case calls =>
    apply Table.ext_find?
    intro probe
    rw [Table.find?_insert]
    split
    · rename_i here
      rw [here]
      exact tracker.call?_applyDisplayedTool_self toolId tool
    · rename_i elsewhere
      exact (tracker.sameAt_applyDisplayedTool elsewhere tool).call
  case signatures =>
    unfold known
    cases held : tracker.call? toolId with
    | none => exact tracker.signatures_applyDisplayedTool_of_new toolId tool held
    | some call =>
        rw [signatures_applyDisplayedTool, ensure_of_call held]
        rfl
  case links => exact tracker.links_applyDisplayedTool toolId tool
  case orphans => exact tracker.orphans_applyDisplayedTool toolId tool
  case unfinished => exact tracker.unfinished_applyDisplayedTool toolId tool

end OneState

/-! ## Two states that change places -/

section Neighbours

theorem countShown_comm (unfinished : KeySet) {left right : String × DisplayedTool}
    (different : left.1 ≠ right.1) :
    countShown (countShown unfinished left) right =
      countShown (countShown unfinished right) left := by
  apply KeySet.ext_contains
  intro probe
  simp only [contains_countShown]
  by_cases here : left.1 = probe
  · rw [if_neg fun there => different (here.trans there.symm), if_pos here, if_pos here]
  · rw [if_neg here, if_neg here]

theorem linkShown_comm (links : Table String) {left right : String × DisplayedTool}
    (unshared : ∀ requestId, left.2.requestId = some requestId →
      right.2.requestId ≠ some requestId) :
    linkShown (linkShown links left) right = linkShown (linkShown links right) left := by
  unfold linkShown
  cases asked : left.2.requestId with
  | none => rfl
  | some requestId =>
      cases asked' : right.2.requestId with
      | none => rfl
      | some requestId' =>
          refine Table.insert_comm _ (fun same => unshared requestId asked ?_) _ _
          rw [asked', same]

variable {tracker : Tracker} {left right : String × DisplayedTool}

/-- **Neighbours.**  Two states of which one finds its call, and that do not speak of one
request, can change places. -/
theorem applyDisplayedTool_comm (different : left.1 ≠ right.1)
    (known : (tracker.call? left.1).isSome = true)
    (unshared : ∀ requestId, left.2.requestId = some requestId →
      right.2.requestId ≠ some requestId) :
    (tracker.applyDisplayedTool left.1 left.2).applyDisplayedTool right.1 right.2 =
      (tracker.applyDisplayedTool right.1 right.2).applyDisplayedTool left.1 left.2 := by
  obtain ⟨call, held⟩ := Option.isSome_iff_exists.1 known
  have first := tracker.applyDisplayedTool_eq left.1 left.2
  have second := tracker.applyDisplayedTool_eq right.1 right.2
  have kept : (tracker.applyDisplayedTool left.1 left.2).call? right.1 = tracker.call? right.1 :=
    (tracker.sameAt_applyDisplayedTool different.symm left.2).call
  have kept' : (tracker.applyDisplayedTool right.1 right.2).call? left.1 = some call :=
    (tracker.sameAt_applyDisplayedTool different right.2).call.trans held
  rw [applyDisplayedTool_eq (tracker.applyDisplayedTool left.1 left.2),
    applyDisplayedTool_eq (tracker.applyDisplayedTool right.1 right.2)]
  unfold callOrStart
  rw [kept, kept']
  rw [first, second]
  unfold callOrStart
  simp only [held, Option.isSome_some, if_true, Option.getD_some, Nat.add_zero]
  refine Tracker.ext rfl ?calls rfl ?links rfl ?unfinished rfl
  case calls => exact Table.insert_comm _ different _ _
  case links => exact linkShown_comm _ unshared
  case unfinished => exact countShown_comm _ different

end Neighbours

/-! ## What an order leaves of one tool use -/

/-- What a display block makes of a card is known from the signature that the call has after
it. -/
theorem Card.Step.eq_of_own_showing {before first second : Card}
    (one : Step Filing.IsShowing before first) (other : Step Filing.IsShowing before second)
    (own : first.own = second.own) : first = second := by
  -- A name comes to a call without one, so a call that is renamed has another signature.
  have named : ∀ {old new : String}, before.Allows (.rename old new) →
      before.own ≠ some new := fun allowed same =>
    allowed.2.2 (Option.some_inj.1 (allowed.1.symm.trans same) ▸ allowed.2.1)
  have fresh : ∀ {old new : String}, before.Allows (.rename old new) → before.own ≠ none :=
    fun allowed same => Option.some_ne_none _ (allowed.1.symm.trans same)
  rcases one with rfl | ⟨filing, shows, allowed, rfl⟩
  · rcases other with rfl | ⟨filing, shows, allowed, rfl⟩
    · rfl
    · cases filing with
      | create signature => exact absurd (own.symm.trans allowed) (Option.some_ne_none _)
      | move old new => cases shows
      | rename old new => exact absurd own (named allowed)
  · rcases other with rfl | ⟨filing', shows', allowed', rfl⟩
    · cases filing with
      | create signature => exact absurd (own.trans allowed) (Option.some_ne_none _)
      | move old new => cases shows
      | rename old new => exact absurd own.symm (named allowed)
    · cases filing with
      | move old new => cases shows
      | create signature =>
          cases filing' with
          | create signature' =>
              obtain rfl := Option.some_inj.1 own
              rfl
          | move old new => cases shows'
          | rename old new => exact absurd allowed (fresh allowed')
      | rename old new =>
          cases filing' with
          | create signature => exact absurd allowed' (fresh allowed)
          | move old new => cases shows'
          | rename old' new' =>
              obtain rfl := Option.some_inj.1 own
              rfl

namespace AgreesOn

variable {left right tracker : Tracker} {toolId probe : String}

/-- A state leaves the trackers agreeing on every other tool use. -/
theorem elsewhere_shown (tracker : Tracker) (tool : DisplayedTool) (other : probe ≠ toolId) :
    AgreesOn (tracker.applyDisplayedTool toolId tool) tracker probe := by
  have same := tracker.sameAt_applyDisplayedTool other tool
  exact ⟨(tracker.sighted_applyDisplayedTool toolId tool).session,
    congrArg (Option.map unplaced) same.call, same.orphan, same.unfinished,
    (tracker.filesBy_applyDisplayedTool toolId tool).card_of_ne other⟩

section

variable (agree : AgreesOn left right probe)
include agree

theorem here_shown (tool : DisplayedTool) :
    AgreesOn (left.applyDisplayedTool probe tool) (right.applyDisplayedTool probe tool) probe := by
  have apart : ∀ call, unplaced (shownAs tool call) = shownAs tool (unplaced call) := fun _ => rfl
  have call : (left.applyDisplayedTool probe tool).unplaced? probe =
      (right.applyDisplayedTool probe tool).unplaced? probe :=
    agree.unplaced?_of_touch apart (left.call?_applyDisplayedTool_self probe tool)
      (right.call?_applyDisplayedTool_self probe tool)
  have own : ((left.applyDisplayedTool probe tool).card probe).own =
      ((right.applyDisplayedTool probe tool).card probe).own := by
    have signed := congrArg (Option.map ToolCall.signature) call
    unfold unplaced? at signed
    rwa [Option.map_map, Option.map_map] at signed
  have filed := (left.filesBy_applyDisplayedTool probe tool).cardStep probe
  have filed' := (right.filesBy_applyDisplayedTool probe tool).cardStep probe
  rw [agree.card] at filed
  refine ⟨?session, call, ?orphan, ?unfinished, filed.eq_of_own_showing filed' own⟩
  case session =>
    rw [(left.sighted_applyDisplayedTool probe tool).session,
      (right.sighted_applyDisplayedTool probe tool).session]
    exact agree.session
  case orphan =>
    rw [orphans_applyDisplayedTool, orphans_applyDisplayedTool]
    exact agree.orphan
  case unfinished =>
    rw [unfinished_applyDisplayedTool, unfinished_applyDisplayedTool, contains_countShown,
      contains_countShown, if_pos rfl, if_pos rfl]

/-- What a state makes of a tool use depends on nothing but that tool use. -/
theorem shown (entry : String × DisplayedTool) :
    AgreesOn (left.applyDisplayedTool entry.1 entry.2) (right.applyDisplayedTool entry.1 entry.2)
      probe := by
  by_cases here : probe = entry.1
  · subst here
    exact agree.here_shown entry.2
  · exact ((elsewhere_shown left entry.2 here).trans agree).trans
      (elsewhere_shown right entry.2 here).symm

theorem applyShown (entries : List (String × DisplayedTool)) :
    AgreesOn (left.applyShown entries) (right.applyShown entries) probe := by
  induction entries generalizing left right with
  | nil => exact agree
  | cons entry rest ih => exact ih (agree.shown entry)

/-- Two states of different tool uses leave the same of one tool use in either order. -/
theorem shown_swap {first second : String × DisplayedTool} (different : first.1 ≠ second.1) :
    AgreesOn ((left.applyDisplayedTool first.1 first.2).applyDisplayedTool second.1 second.2)
      ((right.applyDisplayedTool second.1 second.2).applyDisplayedTool first.1 first.2) probe := by
  by_cases here : probe = first.1
  · have other : probe ≠ second.1 := fun same => different (here.symm.trans same)
    exact (elsewhere_shown _ second.2 other).trans
      (agree.trans (elsewhere_shown right second.2 other).symm |>.shown first)
  · exact ((elsewhere_shown left first.2 here).trans agree |>.shown second).trans
      (elsewhere_shown _ first.2 here).symm

/-- **One tool use**: the order of the states does not matter for it. -/
theorem applyShown_perm {order order' : List (String × DisplayedTool)} (perm : order.Perm order')
    (distinct : (order.map Prod.fst).Nodup) :
    AgreesOn (left.applyShown order) (right.applyShown order') probe := by
  induction perm generalizing left right with
  | nil => exact agree
  | cons entry perm ih => exact ih (agree.shown entry) (List.nodup_cons.1 distinct).2
  | swap first second rest =>
      obtain ⟨fresh, -⟩ := List.nodup_cons.1 distinct
      have different : second.1 ≠ first.1 := fun same => fresh (same ▸ List.mem_cons_self)
      exact (agree.shown_swap different).applyShown rest
  | trans perm perm' ih ih' =>
      have distinct' := (perm.map Prod.fst).nodup_iff.1 distinct
      exact (ih agree distinct).trans (ih' (refl right probe) distinct')

/-- The list of orphans of a block concerns each tool use on its own. -/
theorem replaceOrphans (notices : List OrphanNotice) :
    AgreesOn (left.replaceOrphans notices) (right.replaceOrphans notices) probe := by
  refine ⟨?session, ?call, ?orphan, ?unfinished, ?card⟩
  case session =>
    rw [sessionId_replaceOrphans, sessionId_replaceOrphans]
    exact agree.session
  case call =>
    have orphaned : left.isOrphaned probe = right.isOrphaned probe :=
      congrArg Option.isSome agree.orphan
    refine agree.unplaced?_of_map (fun call => ?_) (call?_replaceOrphans left notices probe) ?_
    · cases judged? notices probe with
      | none => cases left.isOrphaned probe <;> rfl
      | some orphan => rfl
    · rw [orphaned]
      exact call?_replaceOrphans right notices probe
  case orphan => rw [find?_orphans_replaceOrphans, find?_orphans_replaceOrphans]
  case unfinished =>
    rw [contains_unfinished_replaceOrphans, contains_unfinished_replaceOrphans, agree.unfinished]
  case card =>
    rw [(left.sameIndex_replaceOrphans notices).card, (right.sameIndex_replaceOrphans notices).card]
    exact agree.card

end

end AgreesOn

/-! ## What an order leaves of the shared parts -/

section Links

variable {requestId : String}

/-- The same states leave the same link where there was the same one before. -/
theorem find?_foldl_linkShown_congr (entries : List (String × DisplayedTool))
    {links links' : Table String} (same : links.find? requestId = links'.find? requestId) :
    (entries.foldl linkShown links).find? requestId =
      (entries.foldl linkShown links').find? requestId := by
  induction entries generalizing links links' with
  | nil => exact same
  | cons entry rest ih =>
      refine ih ?_
      rw [find?_linkShown, find?_linkShown, same]

/-- A request that one state speaks of is linked alike in every order. -/
theorem find?_foldl_linkShown_perm {order order' : List (String × DisplayedTool)}
    (perm : order.Perm order') (links : Table String)
    (single : (requestsOf order).count requestId ≤ 1) :
    (order.foldl linkShown links).find? requestId =
      (order'.foldl linkShown links).find? requestId := by
  induction perm generalizing links with
  | nil => rfl
  | cons entry perm ih =>
      exact ih _ (le_trans (((List.sublist_cons_self _ _).filterMap _).count_le _) single)
  | swap first second rest =>
      apply find?_foldl_linkShown_congr rest
      simp only [find?_linkShown]
      by_cases asked : first.2.requestId = some requestId
      · by_cases asked' : second.2.requestId = some requestId
        · simp [requestsOf, asked, asked'] at single
        · rw [if_neg asked', if_neg asked']
      · rw [if_neg asked, if_neg asked]
  | trans perm perm' ih ih' =>
      refine (ih links single).trans (ih' links ?_)
      exact (perm.filterMap _).count_eq requestId ▸ single

end Links

section Exact

variable {tracker : Tracker} {order order' : List (String × DisplayedTool)}

/-- A state creates no call that another state would create. -/
theorem unseen_applyDisplayedTool {entry : String × DisplayedTool}
    (fresh : entry.1 ∉ order.map Prod.fst) :
    (tracker.applyDisplayedTool entry.1 entry.2).unseen order = tracker.unseen order := by
  refine List.filter_congr fun other member => ?_
  have different : other.1 ≠ entry.1 := fun same => fresh (List.mem_map.2 ⟨other, member, same⟩)
  rw [(tracker.sameAt_applyDisplayedTool different entry.2).call]

/-- **Any order**: with one state to create a call at most, and without a request that two
states speak of, the order of the states does not matter. -/
theorem applyShown_eq_of_perm (perm : order.Perm order')
    (distinct : (order.map Prod.fst).Nodup) (single : (tracker.unseen order).length ≤ 1)
    (unshared : (requestsOf order).Nodup) :
    tracker.applyShown order = tracker.applyShown order' := by
  induction perm generalizing tracker with
  | nil => rfl
  | @cons entry rest rest' perm ih =>
      obtain ⟨fresh, others⟩ := List.nodup_cons.1 distinct
      refine ih others ?_ (unshared.sublist ((List.sublist_cons_self _ _).filterMap _))
      rw [unseen_applyDisplayedTool fresh]
      exact le_trans ((List.sublist_cons_self entry rest).filter _).length_le single
  | swap first second rest =>
      obtain ⟨fresh, -⟩ := List.nodup_cons.1 distinct
      have different : second.1 ≠ first.1 := fun same => fresh (same ▸ List.mem_cons_self)
      have apart : ∀ requestId, second.2.requestId = some requestId →
          first.2.requestId ≠ some requestId := by
        intro requestId asked asked'
        simp [requestsOf, asked, asked'] at unshared
      have known : (tracker.call? second.1).isSome = true ∨
          (tracker.call? first.1).isSome = true := by
        by_contra unknown
        simp only [not_or, Bool.not_eq_true, Option.isSome_eq_false_iff] at unknown
        simp [unseen, unknown] at single
      have swapped : (tracker.applyDisplayedTool second.1 second.2).applyDisplayedTool first.1
          first.2 = (tracker.applyDisplayedTool first.1 first.2).applyDisplayedTool second.1
            second.2 := by
        rcases known with known | known
        · exact applyDisplayedTool_comm different known apart
        · refine (applyDisplayedTool_comm different.symm known ?_).symm
          exact fun requestId asked asked' => apart requestId asked' asked
      simp only [applyShown_cons, swapped]
  | trans perm perm' ih ih' =>
      refine (ih distinct single unshared).trans (ih' ?_ ?_ ?_)
      · exact (perm.map Prod.fst).nodup_iff.1 distinct
      · exact (perm.filter _).length_eq ▸ single
      · exact (perm.filterMap _).nodup_iff.1 unshared

/-- **Two readings of a block** leave the same tracker, under the same condition. -/
theorem applyDisplayStates_eq_of_alike {display again : Display}
    (alike : display.AlikeButOrder again) (single : (tracker.unseen display.shown).length ≤ 1)
    (unshared : (requestsOf display.shown).Nodup) :
    tracker.applyDisplayStates display = tracker.applyDisplayStates again := by
  have told := applyShown_eq_of_perm alike.shown display.nodup_shown single unshared
  rw [applyDisplayStates_eq, applyDisplayStates_eq, applyDisplayedTools_eq, applyDisplayedTools_eq,
    told, alike.orphans]

end Exact

/-! ## What shows the order -/

section Told

variable {sessionId : String} {seen : List String} {tracker : Tracker}
  {first second : String × DisplayedTool} (rest : List (String × DisplayedTool))

/-- The call that the first state creates gets the next rank. -/
theorem Roster.identity?_of_first (roster : Roster sessionId seen tracker)
    (unknown : first.1 ∉ seen) :
    (tracker.applyShown (first :: rest)).identity? first.1 =
      some (first.1, sessionId, seen.eraseDups.length) := by
  have told := (roster.applyShown (first :: rest)).identities first.1
  rw [List.map_cons, List.append_cons] at told
  rw [told, if_pos (by simp), idxOf_eraseDups_append (by simp), idxOf_eraseDups_concat_self unknown]

/-- Two calls that a block creates are ranked by the order of their states. -/
theorem Roster.applyShown_swap_ne (roster : Roster sessionId seen tracker)
    (different : first.1 ≠ second.1) (unknown : first.1 ∉ seen) (unknown' : second.1 ∉ seen) :
    (tracker.applyShown (first :: second :: rest)).identity? first.1 ≠
      (tracker.applyShown (second :: first :: rest)).identity? first.1 := by
  have after := roster.sighted (tracker.sighted_applyDisplayedTool second.1 second.2)
  have late : first.1 ∉ seen ++ [second.1] := by simp [unknown, different]
  rw [roster.identity?_of_first _ unknown, applyShown_cons tracker second,
    after.identity?_of_first _ late, eraseDups_concat, if_neg unknown']
  simp

/-- A request is linked to the last of the states that speak of it. -/
theorem requested?_of_last {requestId : String} (asked : first.2.requestId = some requestId) :
    (tracker.applyShown (rest ++ [first])).requested? requestId = some first.1 := by
  unfold requested?
  rw [links_applyShown, List.foldl_append, List.foldl_cons, List.foldl_nil, find?_linkShown,
    if_pos asked]

end Told

section Block

variable {tracker : Tracker} (display : Display)

/-- In a list of several states stand two of them. -/
theorem exists_pair_sublist {entries : List (String × DisplayedTool)}
    (several : 1 < entries.length) : ∃ first second, [first, second].Sublist entries := by
  match entries with
  | [] | [_] => simp at several
  | first :: second :: more =>
      exact ⟨first, second, (List.nil_sublist more).cons_cons second |>.cons_cons first⟩

/-- Two states that stand in a list can be brought to its front. -/
theorem perm_pair_append {first second : String × DisplayedTool}
    {entries : List (String × DisplayedTool)} (pair : [first, second].Sublist entries) :
    ∃ rest, (first :: second :: rest).Perm entries ∧ (second :: first :: rest).Perm entries := by
  obtain ⟨rest, perm⟩ := pair.exists_perm_append
  exact ⟨rest, perm.symm, (List.Perm.swap first second rest).trans perm.symm⟩

/-- Two states that stand in a block are for two tool uses. -/
theorem ne_of_pair_sublist {first second : String × DisplayedTool}
    (pair : [first, second].Sublist display.shown) : first.1 ≠ second.1 := by
  have distinct := display.nodup_shown.sublist (pair.map Prod.fst)
  simpa using distinct

theorem requested?_applyStatesIn (order : List (String × DisplayedTool)) (requestId : String) :
    (tracker.applyStatesIn display order).requested? requestId =
      (tracker.applyShown order).requested? requestId := by
  unfold applyStatesIn requested?
  cases display.orphans with
  | none => rfl
  | some notices => rw [links_replaceOrphans]

theorem sameRoster_applyStatesIn (order : List (String × DisplayedTool)) :
    SameRoster (tracker.applyShown order) (tracker.applyStatesIn display order) := by
  unfold applyStatesIn
  cases display.orphans with
  | none => exact ⟨rfl, rfl, fun _ => rfl⟩
  | some notices => exact sameRoster_replaceOrphans _ notices

/-- What no filing takes away, a block does not take away. -/
theorem kept_applyStatesIn {holds : Tracker → Prop}
    (keeps : ∀ {kinds : Filing → Prop} {toolId : String} {before after : Tracker},
      FilesBy kinds toolId before after → holds before → holds after)
    (held : holds tracker) (order : List (String × DisplayedTool)) :
    holds (tracker.applyStatesIn display order) := by
  have told : holds (tracker.applyShown order) :=
    List.foldlRecOn order _ held fun before held entry _ =>
      keeps (before.filesBy_applyDisplayedTool entry.1 entry.2) held
  unfold applyStatesIn
  cases display.orphans with
  | none => exact told
  | some notices =>
      have same : FilesBy Filing.IsShowing "" (tracker.applyShown order) _ :=
        Or.inl (sameIndex_replaceOrphans _ notices)
      exact keeps same told

variable {order : List (String × DisplayedTool)} (perm : order.Perm display.shown)
include perm

/-- Every order of a block's states is the order of one of its readings. -/
theorem exists_reading (tracker : Tracker) :
    ∃ again, display.AlikeButOrder again ∧
      tracker.applyStatesIn display order = tracker.applyDisplayStates again := by
  obtain ⟨again, alike, rfl⟩ := Display.AlikeButOrder.exists_of_perm perm
  refine ⟨again, alike, ?_⟩
  rw [← applyStatesIn_shown]
  unfold applyStatesIn
  rw [alike.orphans]

theorem AgreesOn.applyStatesIn_perm (toolId : String) :
    AgreesOn (tracker.applyStatesIn display order) (tracker.applyDisplayStates display) toolId := by
  have distinct : (order.map Prod.fst).Nodup := (perm.map _).nodup_iff.2 display.nodup_shown
  have told := (AgreesOn.refl tracker toolId).applyShown_perm perm distinct
  rw [← applyStatesIn_shown]
  unfold applyStatesIn
  cases display.orphans with
  | none => exact told
  | some notices => exact told.replaceOrphans notices

theorem Roster.nextSeq_applyStatesIn {sessionId : String} {seen : List String}
    (roster : Roster sessionId seen tracker) :
    (tracker.applyStatesIn display order).nextSeq =
      (tracker.applyDisplayStates display).nextSeq := by
  have sighted : ((seen ++ order.map Prod.fst).eraseDups).Perm
      (seen ++ display.shown.map Prod.fst).eraseDups := by
    refine (List.perm_ext_iff_of_nodup (nodup_eraseDups _) (nodup_eraseDups _)).2 fun toolId => ?_
    rw [List.mem_eraseDups, List.mem_eraseDups, List.mem_append, List.mem_append,
      (perm.map Prod.fst).mem_iff]
  rw [← applyStatesIn_shown, (sameRoster_applyStatesIn display _).counted,
    (sameRoster_applyStatesIn display _).counted, (roster.applyShown _).counted,
    (roster.applyShown _).counted, sighted.length_eq]

theorem requested?_applyStatesIn_perm {requestId : String}
    (single : (requestsOf display.shown).count requestId ≤ 1) :
    (tracker.applyStatesIn display order).requested? requestId =
      (tracker.applyDisplayStates display).requested? requestId := by
  rw [← applyStatesIn_shown, requested?_applyStatesIn, requested?_applyStatesIn]
  unfold requested?
  rw [links_applyShown, links_applyShown]
  refine find?_foldl_linkShown_perm perm _ ?_
  exact (perm.filterMap _).count_eq requestId ▸ single

omit perm

/-- An order with two calls to create has one with the two exchanged, and the ranks tell
them apart. -/
theorem length_unseen_le_one {sessionId : String} {seen : List String}
    (roster : Roster sessionId seen tracker) {identityOf : String → Option (String × String × Nat)}
    (same : ∀ order, order.Perm display.shown → ∀ toolId,
      (tracker.applyStatesIn display order).identity? toolId = identityOf toolId) :
    (tracker.unseen display.shown).length ≤ 1 := by
  by_contra several
  obtain ⟨first, second, pair⟩ := exists_pair_sublist (Nat.lt_of_not_le several)
  have unknown : ∀ entry ∈ [first, second], entry.1 ∉ seen := by
    intro entry member
    have new := (List.mem_filter.1 (pair.subset member)).2
    rw [← roster.isSome_call?_iff, Bool.not_eq_true, Option.isSome_eq_false_iff]
    exact new
  have shown := pair.trans List.filter_sublist
  obtain ⟨rest, perm, perm'⟩ := perm_pair_append shown
  refine roster.applyShown_swap_ne rest (ne_of_pair_sublist display shown) (unknown first (by simp))
    (unknown second (by simp)) ?_
  rw [← (sameRoster_applyStatesIn display _).identities,
    ← (sameRoster_applyStatesIn display _).identities, same _ perm, same _ perm']

/-- An order with two states that speak of one request has one with the two exchanged, and the
link tells them apart. -/
theorem nodup_requestsOf {linkOf : String → Option String}
    (same : ∀ order, order.Perm display.shown → ∀ requestId,
      (tracker.applyStatesIn display order).requested? requestId = linkOf requestId) :
    (requestsOf display.shown).Nodup := by
  refine List.pairwise_filterMap.2 (List.pairwise_iff_forall_sublist.2 ?_)
  intro first second shown requestId asked requestId' asked' shared
  subst shared
  obtain ⟨rest, perm, perm'⟩ := perm_pair_append shown
  have last : ∀ {left right : String × DisplayedTool},
      (left :: right :: rest).Perm display.shown → left.2.requestId = some requestId →
        linkOf requestId = some left.1 := by
    intro left right perm asked
    have behind : (right :: rest ++ [left]).Perm display.shown :=
      (List.perm_append_singleton left (right :: rest)).trans perm
    rw [← same _ behind, requested?_applyStatesIn, requested?_of_last _ asked]
  have linked := (last perm asked).symm.trans (last perm' asked')
  exact ne_of_pair_sublist display shown (Option.some_inj.1 linked)

end Block

/-! ## The order of a block -/

/-- **The order of the states.**  Take any tracker that a run has led to, and any display
block.  In every order of its states the block leaves the same calls apart from their ranks,
the same orphans, the same unfinished tool uses, the same next rank, the same link of every
request that at most one of the states speaks of, and the same index up to the order in an
entry.  And every order leaves the same tracker exactly if at most one of the states is for
a tool use without a call and no two of them speak of one request. -/
theorem applyStatesIn_eq_iff (sessionId : String) (history : List TrackerChange)
    (display : Display) :
    let tracker := (new sessionId).run history
    (∀ order, order.Perm display.shown →
      let left := tracker.applyStatesIn display order
      let right := tracker.applyDisplayStates display
      (∀ toolId, left.unplaced? toolId = right.unplaced? toolId) ∧
        left.orphans = right.orphans ∧ left.unfinished = right.unfinished ∧
        left.nextSeq = right.nextSeq ∧
        (∀ requestId, 1 < (requestsOf display.shown).count requestId ∨
          left.requested? requestId = right.requested? requestId) ∧
        ∀ signature, Option.Rel List.Perm (left.signatures.find? signature)
          (right.signatures.find? signature)) ∧
      ((∀ order, order.Perm display.shown →
          tracker.applyStatesIn display order = tracker.applyDisplayStates display) ↔
        (tracker.unseen display.shown).length ≤ 1 ∧ (requestsOf display.shown).Nodup) := by
  intro tracker
  have roster := roster_run sessionId history
  refine ⟨fun order perm => ?alike, ?exactly⟩
  case alike =>
    have agree : ∀ toolId, AgreesOn (tracker.applyStatesIn display order)
        (tracker.applyDisplayStates display) toolId := AgreesOn.applyStatesIn_perm display perm
    refine ⟨fun toolId => (agree toolId).call, Table.ext_find? fun toolId => (agree toolId).orphan,
      KeySet.ext_contains fun toolId => (agree toolId).unfinished,
      roster.nextSeq_applyStatesIn display perm, fun requestId => ?links, fun signature => ?index⟩
    case links =>
      rcases Nat.lt_or_ge 1 ((requestsOf display.shown).count requestId) with shared | single
      · exact Or.inl shared
      · exact Or.inr (requested?_applyStatesIn_perm display perm single)
    case index =>
      have nonempty : ∀ order, (tracker.applyStatesIn display order).NoEmptyEntry :=
        kept_applyStatesIn display (fun files => files.nonempty) (noEmptyEntry_run _ history)
      have distinct : ∀ order, ((tracker.applyStatesIn display order).listed signature).Nodup :=
        kept_applyStatesIn display (fun files => files.nodup)
          (nodup_listed_run _ history signature)
      have listed := fun toolId => congrFun (congrArg Card.isUnder (agree toolId).card) signature
      rw [← applyStatesIn_shown] at listed ⊢
      exact rel_perm_of_contains_listed (nonempty _) (nonempty _) (distinct _) (distinct _) listed
  case exactly =>
    constructor
    · intro same
      have ranked : ∀ order, order.Perm display.shown → ∀ toolId,
          (tracker.applyStatesIn display order).identity? toolId =
            (tracker.applyDisplayStates display).identity? toolId := by
        intro order perm toolId
        rw [same order perm]
      have linked : ∀ order, order.Perm display.shown → ∀ requestId,
          (tracker.applyStatesIn display order).requested? requestId =
            (tracker.applyDisplayStates display).requested? requestId := by
        intro order perm requestId
        rw [same order perm]
      exact ⟨length_unseen_le_one display roster ranked, nodup_requestsOf display linked⟩
    · intro ⟨single, unshared⟩ order perm
      have told := applyShown_eq_of_perm perm.symm display.nodup_shown single unshared
      rw [← applyStatesIn_shown]
      unfold applyStatesIn
      rw [told]

/-- A block with the states of two new tool uses, in the one order and in the other: the ranks
differ, and nothing else about a call. -/
theorem applyStatesIn_eq_iff_of_two_new :
    let waits : DisplayedTool := { state := .pending, toolName := none, requestId := none }
    let display : Display :=
      { tools := some ⟨[("t", waits), ("u", waits)], by simp⟩, orphans := none, links := none }
    let left := (new "s").applyStatesIn display display.shown.reverse
    let right := (new "s").applyDisplayStates display
    left ≠ right ∧ left.unplaced? "t" = right.unplaced? "t" ∧
      left.inOrder.map ToolCall.toolId = ["u", "t"] ∧
      right.inOrder.map ToolCall.toolId = ["t", "u"] := by
  intro waits display left right
  obtain ⟨alike, -⟩ := applyStatesIn_eq_iff "s" [] display
  refine ⟨by decide +kernel, (alike _ (List.reverse_perm _)).1 "t", ?_, ?_⟩
  · decide +kernel
  · decide +kernel

end Tracker

end SessionSync
