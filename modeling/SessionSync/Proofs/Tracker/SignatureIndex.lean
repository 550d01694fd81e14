import SessionSync.Proofs.Tracker.Filing

/-!
# When the index is right

The index is meant to list, under every signature, the tool uses whose calls have it, from
the oldest to the newest.  A permission request that names no tool use looks its tool use
up there.  Two things can make an entry differ from that, and only these two.

A tool use is misfiled: it is listed under a signature that its call no longer has, and
missing under the one that it has.  That happens when a display block names a call without
a name, and it lasts until a record or an event moves the tool use from the one signature
or to the other (`isMisfiled_run_iff`).

A tool use is overtaken: it stands behind a newer one.  That happens when a record or an
event moves it to a signature under which the newer one is listed already, and it lasts
until one of the two moves away (`isOvertaken_run_iff`).

So an entry is right exactly if neither has happened to it last (`listed_eq_having_run_iff`).
-/

set_option autoImplicit false

namespace SessionSync.Tracker

/-- The tool uses whose calls have a signature, from the oldest to the newest. -/
def having (tracker : Tracker) (signature : String) : List String :=
  (tracker.inOrder.filter fun call => call.signature == signature).map ToolCall.toolId

/-! ## Signatures that come and go -/

/-- Whether a signature comes to a call that had another one. -/
def comes (before after : Option String) (signature : String) : Bool :=
  before.isSome && before != some signature && after == some signature

/-- Whether a signature goes from a call that had it. -/
def goes (before after : Option String) (signature : String) : Bool :=
  before == some signature && after != some signature

section Signatures

variable (signature : String)

theorem comes_self (own : Option String) : comes own own signature = false := by
  unfold comes
  by_cases held : own = some signature
  · simp [held]
  · simp [held]

theorem goes_self (own : Option String) : goes own own signature = false := Bool.and_not_self _

theorem comes_none (after : Option String) : comes none after signature = false := rfl

theorem goes_none (after : Option String) : goes none after signature = false := rfl

variable {signature} {old new : String}

theorem comes_some (different : old ≠ new) :
    comes (some old) (some new) signature = (signature == new) := by
  unfold comes
  by_cases here : signature = new
  · simp [here, different]
  · simp [beq_false_of_ne here, beq_false_of_ne (Ne.symm here)]

theorem goes_some (different : old ≠ new) :
    goes (some old) (some new) signature = (signature == old) := by
  unfold goes
  by_cases here : signature = old
  · simp [here, Ne.symm different]
  · simp [beq_false_of_ne here, beq_false_of_ne (Ne.symm here)]

end Signatures

section Turns

variable (tracker : Tracker) (change : TrackerChange) (toolId signature : String)

/-- Whether a change gives a signature to a call that had another one. -/
def takesOn : Bool :=
  comes (tracker.signature? toolId) ((tracker.after change).signature? toolId) signature

/-- Whether a change takes a signature from a call that had it. -/
def givesUp : Bool :=
  goes (tracker.signature? toolId) ((tracker.after change).signature? toolId) signature

/-- Whether a display block gives a signature to a call or takes it from one. -/
def misfiles : Bool :=
  change.isDisplayStates &&
    (tracker.takesOn change toolId signature || tracker.givesUp change toolId signature)

/-- Whether a record or an event gives a signature to a call or takes it from one. -/
def refiles : Bool :=
  !change.isDisplayStates &&
    (tracker.takesOn change toolId signature || tracker.givesUp change toolId signature)

end Turns

/-! ## Misfiled tool uses -/

/-- Whether a tool use is listed under a signature that its call does not have, or is
missing under the one that it has. -/
def isMisfiled (tracker : Tracker) (signature toolId : String) : Bool :=
  (tracker.listed signature).contains toolId != (tracker.signature? toolId == some signature)

/-- A display block has misfiled a tool use under a signature, and nothing has refiled it
there since. -/
def Misfiled (start : Tracker) (changes : List TrackerChange) (signature toolId : String) : Prop :=
  LastSet (fun tracker change => tracker.misfiles change toolId signature)
    (fun tracker change => tracker.refiles change toolId signature) start changes

namespace Card

variable {before after : Card} {signature : String}

/-- Whether a card is wrong about a signature. -/
def isWrong (card : Card) (signature : String) : Bool :=
  card.isUnder signature != (card.own == some signature)

/-- Whether the signature of a call has come or gone. -/
def isTurned (before after : Card) (signature : String) : Bool :=
  comes before.own after.own signature || goes before.own after.own signature

theorem isTurned_self (card : Card) : card.isTurned card signature = false := by
  unfold isTurned
  rw [comes_self, goes_self, Bool.or_self]

/-- A new call has its signature from the start. -/
theorem isTurned_create {new : String} (allowed : before.Allows (.create new)) :
    before.isTurned (before.filed (.create new)) signature = false := by
  have none : before.own = none := allowed
  unfold isTurned
  rw [none, comes_none, goes_none, Bool.or_self]

/-- A call that changes its signature turns from the one to the other. -/
theorem isTurned_of_own {old new : String} (held : before.own = some old)
    (becomes : after.own = some new) (different : old ≠ new) :
    before.isTurned after signature = (signature == new || signature == old) := by
  unfold isTurned
  rw [held, becomes, comes_some different, goes_some different]

/-- A new call is filed under its signature and nowhere else. -/
theorem isWrong_create (signature : String) (sound : before.Sound) {new : String}
    (allowed : before.Allows (.create new)) :
    before.isWrong signature = false ∧
      (before.filed (.create new)).isWrong signature = false := by
  have none : before.own = none := allowed
  have absent : before.isUnder signature = false :=
    Bool.eq_false_iff.2 fun under => sound.known signature under none
  unfold isWrong filed
  rw [none, absent]
  by_cases here : signature = new
  · simp [here]
  · simp [beq_false_of_ne here, beq_false_of_ne (Ne.symm here), absent]

/-- A move sets both signatures right. -/
theorem isWrong_refiled (sound : before.Sound) (step : Card.Step Filing.IsRefiling before after) :
    after.isWrong signature = (before.isWrong signature && !before.isTurned after signature) := by
  rcases step with rfl | ⟨filing, kind, allowed, rfl⟩
  · rw [isTurned_self, Bool.not_false, Bool.and_true]
  · cases filing with
    | create new =>
        obtain ⟨right, still⟩ := isWrong_create signature sound allowed
        rw [right, still, Bool.false_and]
    | move old new =>
        obtain ⟨held, different⟩ := allowed
        rw [isTurned_of_own held rfl different]
        unfold isWrong filed
        rw [held]
        by_cases first : signature = new
        · simp [first]
        · by_cases second : signature = old
          · simp [second, different, Ne.symm different]
          · simp [bne, beq_false_of_ne first, beq_false_of_ne second,
              beq_false_of_ne (Ne.symm first), beq_false_of_ne (Ne.symm second)]
    | rename old new => cases kind

/-- A new name makes both signatures wrong: the call was listed under the old one, which
has no name, and not under the new one, which has one. -/
theorem isWrong_shown (sound : before.Sound) (step : Card.Step Filing.IsShowing before after) :
    after.isWrong signature = (before.isTurned after signature || before.isWrong signature) := by
  rcases step with rfl | ⟨filing, kind, allowed, rfl⟩
  · rw [isTurned_self, Bool.false_or]
  · cases filing with
    | create new =>
        obtain ⟨right, still⟩ := isWrong_create signature sound allowed
        rw [right, still, isTurned_create allowed, Bool.false_or]
    | move old new => cases kind
    | rename old new =>
        obtain ⟨held, nameless, named⟩ := allowed
        have different : old ≠ new := fun same => named (same ▸ nameless)
        have here : before.isUnder old = true := sound.nameless old held nameless
        have absent : before.isUnder new = false := by
          refine Bool.eq_false_iff.2 fun under => ?_
          rcases sound.foreign new under with own | unnamed
          · rw [held, Option.some_inj] at own
            exact different own
          · exact named unnamed
        rw [isTurned_of_own held rfl different]
        unfold isWrong filed
        rw [held]
        by_cases first : signature = old
        · simp [first, here, Ne.symm different]
        · by_cases second : signature = new
          · simp [second, absent]
          · simp [bne, beq_false_of_ne first, beq_false_of_ne second,
              beq_false_of_ne (Ne.symm first), beq_false_of_ne (Ne.symm second)]

end Card

/-- **One change** and a tool use's place in the index. -/
theorem isMisfiled_after (signature toolId : String) (tracker : Tracker) (change : TrackerChange)
    (sound : (tracker.card toolId).Sound) :
    (tracker.after change).isMisfiled signature toolId =
      (tracker.misfiles change toolId signature ||
        tracker.isMisfiled signature toolId && !tracker.refiles change toolId signature) := by
  have step := tracker.cardStep_after change toolId
  have wrong : ∀ tracker : Tracker, tracker.isMisfiled signature toolId =
      (tracker.card toolId).isWrong signature := fun _ => rfl
  have turned : (tracker.takesOn change toolId signature ||
      tracker.givesUp change toolId signature) =
        (tracker.card toolId).isTurned ((tracker.after change).card toolId) signature := rfl
  unfold misfiles refiles
  rw [turned, wrong, wrong]
  cases shown : change.isDisplayStates with
  | false =>
      rw [shown] at step
      rw [Card.isWrong_refiled sound step]
      simp
  | true =>
      rw [shown] at step
      rw [Card.isWrong_shown sound step]
      simp

theorem isMisfiled_run_iff (sessionId : String) (changes : List TrackerChange)
    (signature toolId : String) :
    ((new sessionId).run changes).isMisfiled signature toolId = true ↔
      Misfiled (new sessionId) changes signature toolId :=
  holds_run_iff_lastSet_of_kept (fun tracker => tracker.isMisfiled signature toolId)
    (fun tracker => (tracker.card toolId).Sound)
    (fun tracker change sound => sound.step (tracker.cardStep_after change toolId))
    (isMisfiled_after signature toolId) (sound_card_new sessionId toolId) rfl changes

/-! ## Overtaken tool uses -/

/-- Whether the call of a tool use was created before that of another one. -/
def isOlder (tracker : Tracker) (left right : String) : Bool :=
  (tracker.call? left).any fun first => (tracker.call? right).any fun second =>
    first.seq < second.seq

/-- Whether an older tool use is listed behind a newer one. -/
def isOvertaken (tracker : Tracker) (signature newer older : String) : Bool :=
  decide ([newer, older].Sublist (tracker.listed signature)) && tracker.isOlder older newer

/-- Whether a change puts an older tool use behind a newer one: a record or an event gives
it the signature under which only the newer one is listed. -/
def overtakes (tracker : Tracker) (change : TrackerChange) (signature newer older : String) :
    Bool :=
  !change.isDisplayStates && tracker.takesOn change older signature &&
    !(tracker.listed signature).contains older && (tracker.listed signature).contains newer &&
      tracker.isOlder older newer

/-- Whether a change parts two tool uses: a record or an event takes the signature from one
of them. -/
def parts (tracker : Tracker) (change : TrackerChange) (signature newer older : String) : Bool :=
  !change.isDisplayStates &&
    (tracker.givesUp change newer signature || tracker.givesUp change older signature)

/-- A tool use was put behind a newer one, and nothing has parted them since. -/
def Overtaken (start : Tracker) (changes : List TrackerChange)
    (signature newer older : String) : Prop :=
  LastSet (fun tracker change => tracker.overtakes change signature newer older)
    (fun tracker change => tracker.parts change signature newer older) start changes

section Ranks

variable {sessionId : String} {seen : List String} {tracker after : Tracker}

theorem Roster.isOlder_iff (roster : Roster sessionId seen tracker) (left right : String) :
    tracker.isOlder left right = true ↔
      left ∈ seen ∧ right ∈ seen ∧ seen.eraseDups.idxOf left < seen.eraseDups.idxOf right := by
  unfold isOlder
  cases first : tracker.call? left with
  | none =>
      have unknown : left ∉ seen := fun known => by
        simpa [first] using (roster.isSome_call?_iff left).2 known
      simp [unknown]
  | some leftCall =>
      obtain ⟨leftKnown, -, -, leftRank⟩ := roster.identity_of_call first
      cases second : tracker.call? right with
      | none =>
          have unknown : right ∉ seen := fun known => by
            simpa [second] using (roster.isSome_call?_iff right).2 known
          simp [unknown]
      | some rightCall =>
          obtain ⟨rightKnown, -, -, rightRank⟩ := roster.identity_of_call second
          simp [leftKnown, rightKnown, leftRank, rightRank]

theorem Roster.mem_seen (roster : Roster sessionId seen tracker) {toolId signature : String}
    (signed : tracker.signature? toolId = some signature) : toolId ∈ seen := by
  obtain ⟨call, held, -⟩ := Option.map_eq_some_iff.1 signed
  exact (roster.isSome_call?_iff toolId).1 (by rw [held]; rfl)

/-- What is listed has a call. -/
theorem Roster.mem_seen_of_listed (roster : Roster sessionId seen tracker)
    {signature toolId : String} (sound : (tracker.card toolId).Sound)
    (member : toolId ∈ tracker.listed signature) : toolId ∈ seen := by
  obtain ⟨own, signed⟩ :=
    Option.ne_none_iff_exists'.1 (sound.known signature (List.contains_iff_mem.2 member))
  exact roster.mem_seen signed

theorem isOvertaken_iff (roster : Roster sessionId seen tracker)
    (sound : ∀ toolId, (tracker.card toolId).Sound) (signature newer older : String) :
    tracker.isOvertaken signature newer older = true ↔
      [newer, older].Sublist (tracker.listed signature) ∧
        seen.eraseDups.idxOf older < seen.eraseDups.idxOf newer := by
  unfold isOvertaken
  rw [Bool.and_eq_true, decide_eq_true_eq, roster.isOlder_iff]
  constructor
  · rintro ⟨pair, -, -, before⟩
    exact ⟨pair, before⟩
  · rintro ⟨pair, before⟩
    have known : ∀ id ∈ [newer, older], id ∈ seen := fun id member =>
      roster.mem_seen_of_listed (sound id) (pair.subset member)
    exact ⟨pair, known older (by simp), known newer (by simp), before⟩

theorem Roster.not_mem_seen (roster : Roster sessionId seen tracker) {toolId : String}
    (unsigned : tracker.signature? toolId = none) : toolId ∉ seen := by
  intro known
  have called := (roster.isSome_call?_iff toolId).2 known
  rw [signature?, Option.map_eq_none_iff] at unsigned
  rw [unsigned] at called
  cases called

/-- Tool uses that were seen keep their order when others are. -/
theorem idxOf_lt_append_iff {left right : String} (first : left ∈ seen) (second : right ∈ seen)
    (more : List String) :
    (seen ++ more).eraseDups.idxOf left < (seen ++ more).eraseDups.idxOf right ↔
      seen.eraseDups.idxOf left < seen.eraseDups.idxOf right := by
  rw [idxOf_eraseDups_append first, idxOf_eraseDups_append second]

end Ranks

/-! ### What a filing makes of the order -/

section Turns

variable {before after : Tracker} {toolId : String}

theorem Filed.turns_create {new : String} (filed : Filed toolId (.create new) before after)
    (probe signature : String) :
    comes (before.signature? probe) (after.signature? probe) signature = false ∧
      goes (before.signature? probe) (after.signature? probe) signature = false := by
  by_cases here : probe = toolId
  · have none : before.signature? toolId = none := filed.allowed
    rw [here, none]
    exact ⟨rfl, rfl⟩
  · rw [filed.others probe here]
    exact ⟨comes_self _ _, goes_self _ _⟩

theorem Filed.turns_move {old new : String} (filed : Filed toolId (.move old new) before after)
    (probe signature : String) :
    comes (before.signature? probe) (after.signature? probe) signature =
        (probe == toolId && signature == new) ∧
      goes (before.signature? probe) (after.signature? probe) signature =
        (probe == toolId && signature == old) := by
  obtain ⟨held, different⟩ := filed.allowed
  have held : before.signature? toolId = some old := held
  by_cases here : probe = toolId
  · have becomes : after.signature? toolId = some new := filed.own
    rw [here, held, becomes, beq_self_eq_true, Bool.true_and, Bool.true_and]
    exact ⟨comes_some different, goes_some different⟩
  · rw [filed.others probe here, beq_false_of_ne here, Bool.false_and, Bool.false_and]
    exact ⟨comes_self _ _, goes_self _ _⟩

end Turns

section Filings

variable {sessionId : String} {seen more : List String} {tracker after : Tracker}
  {toolId : String} (roster : Roster sessionId seen tracker)
  (further : Roster sessionId (seen ++ more) after)
  (sound : ∀ toolId, (tracker.card toolId).Sound) (sound' : ∀ toolId, (after.card toolId).Sound)
  (signature newer older : String)
include roster further sound sound'

variable (more) in
omit further sound' in
/-- Two tool uses that are listed keep their ranks when others are seen. -/
theorem rank_lt_append_iff (pair : [newer, older].Sublist (tracker.listed signature)) :
    (seen ++ more).eraseDups.idxOf older < (seen ++ more).eraseDups.idxOf newer ↔
      seen.eraseDups.idxOf older < seen.eraseDups.idxOf newer := by
  have known : ∀ id ∈ [newer, older], id ∈ seen := fun id member =>
    roster.mem_seen_of_listed (sound id) (pair.subset member)
  exact idxOf_lt_append_iff (known older (by simp)) (known newer (by simp)) more

/-- Where the list stays as it was, so does the order in it. -/
theorem isOvertaken_of_listed (same : after.listed signature = tracker.listed signature) :
    after.isOvertaken signature newer older = tracker.isOvertaken signature newer older := by
  rw [Bool.eq_iff_iff, isOvertaken_iff further sound', isOvertaken_iff roster sound, same]
  exact and_congr_right (rank_lt_append_iff more roster sound signature newer older)

/-- A tool use at the end of a list can only stand behind the others. -/
theorem isOvertaken_of_concat
    (listed : after.listed signature = tracker.listed signature ++ [toolId]) :
    after.isOvertaken signature newer older = true ↔
      tracker.isOvertaken signature newer older = true ∨
        newer ∈ tracker.listed signature ∧ older = toolId ∧
          (seen ++ more).eraseDups.idxOf older < (seen ++ more).eraseDups.idxOf newer := by
  rw [isOvertaken_iff further sound', isOvertaken_iff roster sound, listed, pair_sublist_concat,
    or_and_right, and_assoc]
  exact or_congr_left (and_congr_right (rank_lt_append_iff more roster sound signature newer older))

/-- A tool use that joins a list comes behind all that are on it. -/
theorem isOvertaken_of_enlist (known : toolId ∈ seen)
    (listed : after.listed signature = enlist toolId (tracker.listed signature)) :
    after.isOvertaken signature newer older =
      (older == toolId && !(tracker.listed signature).contains older &&
        (tracker.listed signature).contains newer && tracker.isOlder older newer ||
      tracker.isOvertaken signature newer older) := by
  by_cases already : toolId ∈ tracker.listed signature
  · rw [enlist, if_pos already] at listed
    rw [isOvertaken_of_listed roster further sound sound' signature newer older listed]
    by_cases itself : older = toolId
    · simp [itself, already]
    · simp [itself]
  · rw [enlist, if_neg already] at listed
    rw [Bool.eq_iff_iff,
      isOvertaken_of_concat roster further sound sound' signature newer older listed,
      Bool.or_eq_true, or_comm]
    refine or_congr_left ?_
    simp only [Bool.and_eq_true, beq_iff_eq, Bool.not_eq_true', List.contains_eq_mem,
      decide_eq_true_eq, decide_eq_false_iff_not, roster.isOlder_iff]
    constructor
    · rintro ⟨member, rfl, before⟩
      have other := roster.mem_seen_of_listed (sound newer) member
      exact ⟨⟨⟨rfl, already⟩, member⟩, known, other, (idxOf_lt_append_iff known other more).1 before⟩
    · rintro ⟨⟨⟨rfl, -⟩, member⟩, -, other, before⟩
      exact ⟨member, rfl, (idxOf_lt_append_iff known other more).2 before⟩

/-- A tool use that leaves a list is parted from all that stay. -/
theorem isOvertaken_of_delist
    (listed : after.listed signature = delist toolId (tracker.listed signature)) :
    after.isOvertaken signature newer older =
      (tracker.isOvertaken signature newer older && !(newer == toolId || older == toolId)) := by
  rw [Bool.eq_iff_iff, isOvertaken_iff further sound', listed, pair_sublist_delist]
  simp only [Bool.and_eq_true, Bool.not_eq_true', Bool.or_eq_false_iff, beq_eq_false_iff_ne,
    isOvertaken_iff roster sound]
  have ranks := rank_lt_append_iff more roster sound signature newer older
  constructor
  · rintro ⟨⟨pair, others⟩, before⟩
    exact ⟨⟨pair, (ranks pair).1 before⟩, others⟩
  · rintro ⟨⟨pair, before⟩, others⟩
    exact ⟨⟨pair, others⟩, (ranks pair).2 before⟩

/-- A new call is newer than all that are listed. -/
theorem isOvertaken_create {new : String} (filed : Filed toolId (.create new) tracker after) :
    after.isOvertaken signature newer older = tracker.isOvertaken signature newer older := by
  have unknown : toolId ∉ seen := roster.not_mem_seen filed.allowed
  have listed := filed.listed signature
  simp only [Filing.list] at listed
  split at listed
  · have absent : toolId ∉ tracker.listed signature := fun member =>
      unknown (roster.mem_seen_of_listed (sound toolId) member)
    rw [enlist, if_neg absent] at listed
    rw [Bool.eq_iff_iff,
      isOvertaken_of_concat roster further sound sound' signature newer older listed]
    refine or_iff_left ?_
    rintro ⟨member, rfl, before⟩
    have known := roster.mem_seen_of_listed (sound newer) member
    have behind := length_eraseDups_le_idxOf_append unknown more
    have front := List.idxOf_lt_length_of_mem (List.mem_eraseDups.2 known)
    rw [idxOf_eraseDups_append known] at before
    omega
  · exact isOvertaken_of_listed roster further sound sound' signature newer older listed

/-- A tool use that is moved comes behind all that are listed, and leaves the rest. -/
theorem isOvertaken_move {old new : String} (filed : Filed toolId (.move old new) tracker after) :
    after.isOvertaken signature newer older =
      (older == toolId && signature == new && !(tracker.listed signature).contains older &&
        (tracker.listed signature).contains newer && tracker.isOlder older newer ||
      tracker.isOvertaken signature newer older &&
        !(newer == toolId && signature == old || older == toolId && signature == old)) := by
  obtain ⟨held, different⟩ := filed.allowed
  have listed := filed.listed signature
  simp only [Filing.list] at listed
  by_cases joined : signature = new
  · rw [if_pos joined] at listed
    rw [isOvertaken_of_enlist roster further sound sound' signature newer older
      (roster.mem_seen held) listed, joined, beq_self_eq_true, beq_false_of_ne (Ne.symm different),
      Bool.and_true, Bool.and_false, Bool.and_false, Bool.or_self, Bool.not_false, Bool.and_true]
  · rw [if_neg joined] at listed
    by_cases left : signature = old
    · rw [if_pos left] at listed
      rw [isOvertaken_of_delist roster further sound sound' signature newer older listed,
        beq_false_of_ne joined, beq_iff_eq.2 left]
      simp
    · rw [if_neg left] at listed
      rw [isOvertaken_of_listed roster further sound sound' signature newer older listed,
        beq_false_of_ne joined, beq_false_of_ne left]
      simp

end Filings

/-- The states of a display block move nothing, so nothing is overtaken and nothing parted. -/
theorem isOvertaken_applyShown {sessionId : String} {seen : List String} {tracker : Tracker}
    (roster : Roster sessionId seen tracker) (sound : ∀ toolId, (tracker.card toolId).Sound)
    (signature newer older : String) (entries : List (String × DisplayedTool)) :
    (tracker.applyShown entries).isOvertaken signature newer older =
        tracker.isOvertaken signature newer older ∧
      ∀ toolId, ((tracker.applyShown entries).card toolId).Sound := by
  induction entries generalizing seen tracker with
  | nil => exact ⟨rfl, sound⟩
  | cons entry rest ih =>
      have files := tracker.filesBy_applyDisplayedTool entry.1 entry.2
      have further := roster.sighted (tracker.sighted_applyDisplayedTool entry.1 entry.2)
      have sound' : ∀ toolId, ((tracker.applyDisplayedTool entry.1 entry.2).card toolId).Sound :=
        fun toolId => (sound toolId).step (files.cardStep toolId)
      have first : (tracker.applyDisplayedTool entry.1 entry.2).isOvertaken signature newer older =
          tracker.isOvertaken signature newer older := by
        rcases files with still | ⟨filing, kind, filed⟩
        · exact isOvertaken_of_listed roster further sound sound' signature newer older
            (still.listed signature)
        · cases filing with
          | create new =>
              exact isOvertaken_create roster further sound sound' signature newer older filed
          | move old new => cases kind
          | rename old new =>
              exact isOvertaken_of_listed roster further sound sound' signature newer older
                (filed.listed signature)
      obtain ⟨others, always⟩ := ih further sound'
      exact ⟨others.trans first, always⟩

/-- **One change** and the order of two tool uses under a signature. -/
theorem isOvertaken_after (signature newer older : String) (tracker : Tracker)
    (change : TrackerChange)
    (kept : (∃ sessionId seen, Roster sessionId seen tracker) ∧
      ∀ toolId, (tracker.card toolId).Sound) :
    (tracker.after change).isOvertaken signature newer older =
      (tracker.overtakes change signature newer older ||
        tracker.isOvertaken signature newer older &&
          !tracker.parts change signature newer older) := by
  obtain ⟨⟨sessionId, seen, roster⟩, sound⟩ := kept
  have further := roster.step change
  have sound' : ∀ toolId, ((tracker.after change).card toolId).Sound := fun toolId =>
    (sound toolId).step (tracker.cardStep_after change toolId)
  unfold overtakes parts takesOn givesUp
  cases shown : change.isDisplayStates with
  | true =>
      cases change with
      | displayStates display =>
          obtain ⟨told, sounds⟩ :=
            isOvertaken_applyShown roster sound signature newer older display.shown
          have between := roster.applyShown display.shown
          have last : Roster sessionId (seen ++ display.shown.map Prod.fst ++ [])
              (tracker.applyDisplayStates display) := by
            rw [List.append_nil]
            exact further
          have same := isOvertaken_of_listed between last sounds sound' signature newer older
            ((tracker.sameIndex_applyDisplayStates display).listed signature)
          simp only [Bool.not_true, Bool.false_and, Bool.false_or, Bool.not_false, Bool.and_true]
          exact same.trans told
      | _ => cases shown
  | false =>
      simp only [Bool.not_false, Bool.true_and]
      obtain ⟨toolId, files⟩ := tracker.filesBy_after shown
      rcases files with still | ⟨filing, kind, filed⟩
      · rw [isOvertaken_of_listed roster further sound sound' signature newer older
          (still.listed signature), still.signatures, still.signatures, comes_self, goes_self,
          goes_self]
        simp
      · cases filing with
        | create new =>
            have turns := filed.turns_create
            rw [isOvertaken_create roster further sound sound' signature newer older filed,
              (turns older signature).1, (turns newer signature).2, (turns older signature).2]
            simp
        | move old new =>
            have turns := filed.turns_move
            rw [isOvertaken_move roster further sound sound' signature newer older filed,
              (turns older signature).1, (turns newer signature).2, (turns older signature).2]
        | rename old new => cases kind

theorem isOvertaken_run_iff (sessionId : String) (changes : List TrackerChange)
    (signature newer older : String) :
    ((new sessionId).run changes).isOvertaken signature newer older = true ↔
      Overtaken (new sessionId) changes signature newer older := by
  refine holds_run_iff_lastSet_of_kept (fun tracker => tracker.isOvertaken signature newer older)
    (fun tracker => (∃ sessionId seen, Roster sessionId seen tracker) ∧
      ∀ toolId, (tracker.card toolId).Sound) ?_ (isOvertaken_after signature newer older)
    ⟨⟨sessionId, [], roster_new sessionId⟩, sound_card_new sessionId⟩ rfl changes
  rintro tracker change ⟨⟨sessionId, seen, roster⟩, sound⟩
  exact ⟨⟨sessionId, _, roster.step change⟩,
    fun toolId => (sound toolId).step (tracker.cardStep_after change toolId)⟩

/-! ## The entries -/

theorem noEmptyEntry_run (sessionId : String) (changes : List TrackerChange) :
    ((new sessionId).run changes).NoEmptyEntry := by
  have keeps : ∀ tracker change, NoEmptyEntry tracker → (tracker.after change).NoEmptyEntry :=
    fun _ change nonempty => kept_after (fun files => files.nonempty) nonempty change
  have begins : (new sessionId).NoEmptyEntry := fun _ found => by cases found
  exact kept_run keeps begins changes

theorem nodup_listed_run (sessionId : String) (changes : List TrackerChange) (signature : String) :
    (((new sessionId).run changes).listed signature).Nodup := by
  have keeps : ∀ (tracker : Tracker) change, (tracker.listed signature).Nodup →
      ((tracker.after change).listed signature).Nodup :=
    fun _ change distinct => kept_after (fun files => files.nodup) distinct change
  have begins : ((new sessionId).listed signature).Nodup := List.nodup_nil
  exact kept_run keeps begins changes

section Entries

variable {sessionId : String} {seen : List String} {tracker : Tracker} {signature : String}
  (roster : Roster sessionId seen tracker)
include roster

theorem mem_having {toolId : String} :
    toolId ∈ tracker.having signature ↔ tracker.signature? toolId = some signature := by
  have sorted : tracker.inOrder.Perm tracker.calls.values := sortByKey_perm _ _
  unfold having signature?
  simp only [List.mem_map, List.mem_filter, beq_iff_eq, Option.map_eq_some_iff]
  constructor
  · rintro ⟨call, ⟨member, signed⟩, rfl⟩
    exact ⟨call, roster.of_mem_values (sorted.mem_iff.1 member), signed⟩
  · rintro ⟨call, held, signed⟩
    refine ⟨call, ⟨sorted.mem_iff.2 ?_, signed⟩, (roster.identity_of_call held).2.1⟩
    exact List.mem_map.2 ⟨(toolId, call), Table.mem_entries_iff.2 held, rfl⟩

theorem pairwise_having (signature : String) :
    (tracker.having signature).Pairwise fun left right =>
      seen.eraseDups.idxOf left < seen.eraseDups.idxOf right := by
  have part : (tracker.having signature).Sublist seen.eraseDups := by
    rw [← roster.inOrder_toolId]
    exact List.filter_sublist.map _
  exact (pairwise_idxOf (nodup_eraseDups seen)).sublist part

/-- **When an entry is right**: no tool use is misfiled, and none is overtaken. -/
theorem listed_eq_having_iff (sound : ∀ toolId, (tracker.card toolId).Sound)
    (distinct : (tracker.listed signature).Nodup) :
    tracker.listed signature = tracker.having signature ↔
      (∀ toolId, tracker.isMisfiled signature toolId = false) ∧
        ∀ newer older, tracker.isOvertaken signature newer older = false := by
  have ascending := pairwise_having roster signature
  have filed : ∀ toolId, tracker.isMisfiled signature toolId = false ↔
      (toolId ∈ tracker.listed signature ↔ toolId ∈ tracker.having signature) := by
    intro toolId
    unfold isMisfiled
    rw [bne_eq_false_iff_eq, Bool.eq_iff_iff, List.contains_iff_mem, beq_iff_eq, mem_having roster]
  have ordered : ∀ newer older, tracker.isOvertaken signature newer older = false ↔
      ([newer, older].Sublist (tracker.listed signature) →
        seen.eraseDups.idxOf newer ≤ seen.eraseDups.idxOf older) := by
    intro newer older
    rw [Bool.eq_false_iff, Ne, isOvertaken_iff roster sound, not_and, Nat.not_lt]
  simp only [filed, ordered]
  constructor
  · intro same
    refine ⟨fun toolId => by rw [same], fun newer older pair => ?_⟩
    exact Nat.le_of_lt (List.pairwise_iff_forall_sublist.1 ascending (same ▸ pair))
  · rintro ⟨members, order⟩
    refine List.Perm.eq_of_pairwise ?_ (List.pairwise_iff_forall_sublist.2 (order _ _))
      (ascending.imp fun before => Nat.le_of_lt before)
      ((List.perm_ext_iff_of_nodup distinct (ascending.imp ?_)).2 members)
    · intro left right member _ below above
      have known := roster.mem_seen_of_listed (sound left) member
      exact (List.idxOf_inj (List.mem_eraseDups.2 known)).1 (Nat.le_antisymm below above)
    · rintro left right before rfl
      exact Nat.lt_irrefl _ before

end Entries

/-- **The index.**  Whatever has happened to a tracker that began empty, no entry of its
index is empty, none lists a tool use twice, and what is listed has a call.  A tool use is
listed under a signature exactly when its call has it, unless a display block has misfiled
it there last.  The entry is the list of the tool uses whose calls have the signature, from
the oldest to the newest, exactly if besides none of them was overtaken last. -/
theorem listed_eq_having_run_iff (sessionId : String) (changes : List TrackerChange)
    (signature : String) :
    let tracker := (new sessionId).run changes
    tracker.signatures.find? signature ≠ some [] ∧ (tracker.listed signature).Nodup ∧
      (∀ toolId ∈ tracker.listed signature, (tracker.call? toolId).isSome = true) ∧
      (∀ toolId, (toolId ∈ tracker.listed signature ↔
          tracker.signature? toolId = some signature) ↔
        ¬ Misfiled (new sessionId) changes signature toolId) ∧
      (tracker.listed signature = tracker.having signature ↔
        (∀ toolId, ¬ Misfiled (new sessionId) changes signature toolId) ∧
          ∀ newer older, ¬ Overtaken (new sessionId) changes signature newer older) := by
  intro tracker
  have roster := roster_run sessionId changes
  have sound := sound_card_run sessionId changes
  have distinct := nodup_listed_run sessionId changes signature
  refine ⟨noEmptyEntry_run sessionId changes signature, distinct, fun toolId member => ?called,
    fun toolId => ?filed, ?entry⟩
  case called =>
    exact (roster.isSome_call?_iff toolId).2 (roster.mem_seen_of_listed (sound toolId) member)
  case filed =>
    rw [← isMisfiled_run_iff, Bool.not_eq_true]
    unfold isMisfiled
    rw [bne_eq_false_iff_eq, Bool.eq_iff_iff, List.contains_iff_mem, beq_iff_eq]
  case entry =>
    simp only [← isMisfiled_run_iff, ← isOvertaken_run_iff, Bool.not_eq_true]
    exact listed_eq_having_iff roster sound distinct

/-! ### A tool use that is named late -/

/-- A display block tells of a tool use without its name, and a second one names it. -/
def lateName : List TrackerChange :=
  [none, some "Bash"].map fun toolName =>
    .displayStates
      { tools := some ⟨[("t", { state := .pending, toolName, requestId := none })], by simp⟩
        orphans := none
        links := none }

/-- The call has the signature, the index does not list it there, and a permission request
for it finds no tool use. -/
theorem listed_eq_having_run_of_lateName :
    let tracker := (new "s").run lateName
    let signature := toolSignature "Bash" .null
    let request : PermissionRequest :=
      { requestId := "r", toolName := "Bash", input := .null, toolId := none, suggestions := [] }
    tracker.having signature = ["t"] ∧ tracker.listed signature = [] ∧
      tracker.requestTarget? request = none ∧
      Misfiled (new "s") lateName signature "t" := by
  intro tracker signature request
  have held : tracker.signature? "t" = some signature := by decide +kernel
  have absent : tracker.listed signature = [] := by decide +kernel
  have unfound : tracker.requestTarget? request = none := by decide +kernel
  refine ⟨by decide +kernel, absent, unfound, ?_⟩
  obtain ⟨-, -, -, filed, -⟩ := listed_eq_having_run_iff "s" lateName signature
  by_contra right
  have member : "t" ∈ tracker.listed signature := ((filed "t").2 right).2 held
  rw [absent] at member
  cases member

/-- A tool use that takes on the signature of a newer one is found before it. -/
example :
    let tracker := (new "s").run
      [.toolUse { toolId := "old", name := "Read", input := .null },
        .toolUse { toolId := "new", name := "Bash", input := .null },
        .toolUse { toolId := "old", name := "Bash", input := .null }]
    tracker.having (toolSignature "Bash" .null) = ["old", "new"] ∧
      tracker.findBySignature (toolSignature "Bash" .null) = some "old" := by
  decide +kernel

end SessionSync.Tracker
