import SessionSync.Proofs.MessageStore.PageLoads
import SessionSync.Proofs.MessageStore.Rereading

/-!
# Loading a page of history again

The second load of a page has the same messages to read, but the tracker that reads them
knows already what the page led to.  What it knew of orphans makes no difference
(`Tracker.find?_orphans_reread`).  What it knew of calls and links can: a request that found no
tool use finds one that comes later on the page, an answer reaches a call that was not there
yet, and a list of orphans names a tool use that had no call.

`Tracker.retraces` says of a change whether it goes the same way in both readings.  Two
readings in the same place of a page (`Tracker.RetracedIn`) stay so with every change that does
(`RetracedIn.after`), and so with all of them (`RetracedIn.run`).  At the end of the page the
first reading shows what it has left, so the second one shows the same (`Tracker.reread`,
`MessageStore.loadHistory_again`).

A page without requests, answers and lists of orphans always goes the same way
(`Tracker.retracesAll_of_isPlain`).
-/

set_option autoImplicit false

namespace SessionSync

namespace Tracker

/-! ## What a sight leaves -/

theorem isSome_shown_foldl_ruled (standing : Standing) (rulings : List Ruling) :
    (rulings.foldl Standing.ruled standing).shown.isSome = standing.shown.isSome := by
  have one : ∀ (standing : Standing) ruling,
      (standing.ruled ruling).shown.isSome = standing.shown.isSome := by
    intro standing ruling
    cases ruling with
    | finish => exact Option.isSome_map
    | release =>
        simp only [Standing.ruled]
        split
        · exact Option.isSome_map
        · rfl
    | judge orphan => exact Option.isSome_map
  induction rulings generalizing standing with
  | nil => rfl
  | cons ruling rest ih => exact (ih _).trans (one standing ruling)

/-- A change that sees a tool use leaves it with a call. -/
theorem isSome_call?_after_of_sees {tracker : Tracker} {change : TrackerChange} {toolId : String}
    (sees : tracker.sees change toolId = true) :
    ((tracker.after change).call? toolId).isSome = true := by
  have shown : ((tracker.after change).standing toolId).shown.isSome =
      ((tracker.after change).call? toolId).isSome := Option.isSome_map
  rw [← shown, standing_after, if_pos sees, isSome_shown_foldl_ruled]
  rfl

/-! ## Calls that stay -/

/-- The calls of a tracker are still there in a later one, and have lost no outcome. -/
def Precedes (earlier later : Tracker) : Prop :=
  ∀ toolId call, earlier.call? toolId = some call → ∃ final, later.call? toolId = some final ∧
    (call.outcome.isSome = true → final.outcome.isSome = true)

theorem Precedes.of_calls {earlier later last : Tracker} (precedes : Precedes earlier later)
    (same : ∀ toolId, last.call? toolId = later.call? toolId) : Precedes earlier last := by
  intro toolId call held
  rw [same]
  exact precedes toolId call held

theorem isSome_of_sees {tracker last : Tracker} {change : TrackerChange} {toolId : String}
    (behind : Precedes (tracker.after change) last) (sees : tracker.sees change toolId = true) :
    (last.call? toolId).isSome = true := by
  obtain ⟨call, held⟩ := Option.isSome_iff_exists.1 (isSome_call?_after_of_sees sees)
  obtain ⟨final, held', -⟩ := behind toolId call held
  exact Option.isSome_iff_exists.2 ⟨final, held'⟩

/-- Whatever is attached alike is seen alike. -/
theorem sees_eq_of_attached {first second : Tracker} {change : TrackerChange}
    (attached : second.attached? change = first.attached? change) (toolId : String) :
    second.sees change toolId = first.sees change toolId := by
  cases change with
  | permissionRequest request =>
      rw [attached?_permissionRequest, attached?_permissionRequest] at attached
      simp only [sees, attached]
  | _ => rfl

theorem sees_of_tool? {tracker : Tracker} {display : Display} {toolId : String}
    {tool : DisplayedTool} (told : display.tool? toolId = some tool) :
    tracker.sees (.displayStates display) toolId = true := by
  obtain ⟨tools, listed, found⟩ := Option.bind_eq_some_iff.1 told
  simp only [sees, listed, Option.any_some]
  exact WalkedMap.contains_of_find? found

theorem isSome_outcome_on (telling : Telling) {call : ToolCall}
    (told : call.outcome.isSome = true) : (telling.on call).outcome.isSome = true := by
  cases telling with
  | named toolUse =>
      obtain ⟨_, -, same⟩ := nameAs_eq toolUse call
      simp only [Telling.on]
      rw [same]
      exact told
  | asked request =>
      obtain ⟨_, _, _, same⟩ := askFor_eq request call
      simp only [Telling.on]
      rw [same]
      exact told
  | answered response =>
      simp only [Telling.on]
      cases final : call.status.isTerminal with
      | true =>
          rw [answerWith_of_finished final]
          exact told
      | false =>
          cases decided : response.decision with
          | allow =>
              rw [answerWith_of_allow final decided]
              exact told
          | deny =>
              rw [answerWith_of_deny final decided]
              rfl
  | finished result => rfl
  | assigned event =>
      simp only [Telling.on]
      rw [assignEvent_eq]
      obtain ⟨outcome, held⟩ := Option.isSome_iff_exists.1 told
      cases event.outcome <;> simp [held]
  | displayed tool => exact told
  | ruled verdict known =>
      obtain ⟨_, _, _, same⟩ := ruleOn_eq verdict known call
      simp only [Telling.on]
      rw [same]
      exact told

theorem precedes_run (tracker : Tracker) {changes : List TrackerChange}
    (read : ∀ change ∈ changes, change.isRead = true) :
    Precedes tracker (tracker.run changes) := by
  intro toolId call held
  exact call?_run_of_call
    (motive := fun after => call.outcome.isSome = true → after.outcome.isSome = true) read
    (fun telling _ kept told => isSome_outcome_on telling (kept told)) held id

/-! ## Two readings of a page -/

section TwoReadings

variable (first second : Tracker)

/-- Whether a request opens the card of a tool use that is waiting and collapsed, while the
second reading has it running. -/
def reopens (change : TrackerChange) : Bool :=
  match change with
  | .permissionRequest _ => (first.attached? change).any fun toolId =>
      ((first.call? toolId).any fun call => isUnanswered call && !call.expanded) &&
        (second.call? toolId).any fun call => call.status == .executing
  | _ => false

/-- Whether a list of orphans names a tool use that only the second reading has seen. -/
def foresees (change : TrackerChange) : Bool :=
  match change with
  | .displayStates display => (display.orphans.getD []).any fun notice =>
      ((second.after change).call? notice.toolId).isSome &&
        ((first.after change).call? notice.toolId).isNone
  | _ => false

variable {first second} in
/-- A tool use that a list of orphans names is known to both readings or to none. -/
theorem unmet_of_judged {change : TrackerChange} {toolId : String} {ruling : Option Orphan}
    (known : first.foresees second change = false)
    (told : change.verdictFor? toolId = some ruling) (judged : ruling.isSome = true)
    (absent : (first.after change).call? toolId = none) :
    (second.after change).call? toolId = none := by
  cases change with
  | displayStates display =>
      obtain ⟨notices, listed, rfl⟩ := Option.map_eq_some_iff.1 told
      obtain ⟨notice, member, rfl⟩ := isSome_judged?_iff.1 judged
      have unforeseen := List.any_eq_false.1 known notice (by rw [listed]; exact member)
      rw [absent] at unforeseen
      simpa using unforeseen
  | toolResult result =>
      simp only [TrackerChange.verdictFor?] at told
      split at told <;> cases told
      cases judged
  | toolEvent event =>
      simp only [TrackerChange.verdictFor?] at told
      split at told <;> cases told
      cases judged
  | _ => cases told

/-- Whether a change goes the same way in two readings: a request or an answer is attached to
the same tool use, no request opens a card in the first one only, and no list of orphans
reaches a tool use in the second one only. -/
def retraces (change : TrackerChange) : Bool :=
  second.attached? change == first.attached? change && !first.reopens second change &&
    !first.foresees second change

variable {first second} in
theorem retraces_iff {change : TrackerChange} :
    first.retraces second change = true ↔
      second.attached? change = first.attached? change ∧
        first.reopens second change = false ∧ first.foresees second change = false := by
  simp [retraces, and_assoc]

/-- Whether all changes of a page go the same way in two readings of it. -/
def retracesAll (first second : Tracker) : List TrackerChange → Bool
  | [] => true
  | change :: rest => first.retraces second change &&
      (first.after change).retracesAll (second.after change) rest

end TwoReadings

/-- Two readings of a page in the same place of it, and what the first one left in the end. -/
structure RetracedIn (first second last : Tracker) : Prop where
  calls : ∀ toolId, RetracedAt (first.call? toolId) (second.call? toolId) (last.call? toolId)
  links : ∀ requestId, second.requested? requestId = first.requested? requestId ∨
    second.requested? requestId = last.requested? requestId
  /-- What is an orphan before its first sight is never seen. -/
  unseen : ∀ toolId, first.isOrphaned toolId = true → first.call? toolId = none →
    last.call? toolId = none
  shown : ∀ toolId, (first.standing toolId).isOverlooked = false
  shownAgain : ∀ toolId, (second.standing toolId).isOverlooked = true →
    (last.standing toolId).isOverlooked = true

namespace RetracedIn

variable {first second last : Tracker} {change : TrackerChange}

/-- The states of a block and its list of orphans, in both readings. -/
theorem calls_applyDisplayStates {display : Display}
    (retraced : RetracedIn first second last)
    (known : first.foresees second (.displayStates display) = false)
    (behind : Precedes (first.after (.displayStates display)) last) (toolId : String) :
    RetracedAt ((first.after (.displayStates display)).call? toolId)
      ((second.after (.displayStates display)).call? toolId) (last.call? toolId) := by
  have read : TrackerChange.isRead (.displayStates display) = true := rfl
  obtain ⟨seq, one⟩ := first.call?_after_of_isRead read toolId
  obtain ⟨seq', two⟩ := second.call?_after_of_isRead read toolId
  simp only [tellings, List.foldl_append] at one two
  -- What the state of the block makes of the two calls.
  generalize shown : ((display.tool? toolId).map Telling.displayed).toList.foldl
    (Telling.tell fun name input => ToolCall.start first.sessionId toolId name input seq)
    (first.call? toolId) = once at one
  generalize again : ((display.tool? toolId).map Telling.displayed).toList.foldl
    (Telling.tell fun name input => ToolCall.start second.sessionId toolId name input seq')
    (second.call? toolId) = twice at two
  have states : RetracedAt once twice (last.call? toolId) := by
    rw [← shown, ← again]
    cases told : display.tool? toolId with
    | none => exact retraced.calls toolId
    | some tool =>
        simp only [Option.map_some, Option.toList_some, List.foldl_cons, List.foldl_nil]
        exact (retraced.calls toolId).tell (.displayed tool)
          (isSome_of_sees behind (sees_of_tool? told)) _ _ _ _
  cases listed : display.orphans with
  | none =>
      rw [listed] at one two
      rw [one, two]
      exact states
  | some notices =>
      rw [listed] at one two
      have kept : ((first.after (.displayStates display)).call? toolId).isSome = once.isSome :=
        one ▸ Option.isSome_map
      have kept' : ((second.after (.displayStates display)).call? toolId).isSome = twice.isSome :=
        two ▸ Option.isSome_map
      rw [one, two]
      refine states.ruled _ _ fun judged met => ?_
      obtain ⟨notice, member, here⟩ := isSome_judged?_iff.1 judged
      have unforeseen := List.any_eq_false.1 known notice (by rw [listed]; exact member)
      rw [here, kept', met, ← Option.not_isSome, kept] at unforeseen
      cases once with
      | none => exact absurd rfl unforeseen
      | some call => rfl

theorem calls_after (retraced : RetracedIn first second last) (read : change.isRead = true)
    (same : first.retraces second change = true) (before : Precedes first last)
    (behind : Precedes (first.after change) last) (toolId : String) :
    RetracedAt ((first.after change).call? toolId) ((second.after change).call? toolId)
      (last.call? toolId) := by
  obtain ⟨attached, closed, known⟩ := retraces_iff.1 same
  have both := retraced.calls toolId
  obtain ⟨seq, one⟩ := first.call?_after_of_isRead read toolId
  obtain ⟨seq', two⟩ := second.call?_after_of_isRead read toolId
  have sight : first.sees change toolId = true → (last.call? toolId).isSome = true :=
    isSome_of_sees behind
  cases change with
  | toolUse toolUse =>
      simp only [tellings] at one two
      rw [one, two]
      exact both.told (.named toolUse) (fun here => sight (beq_iff_eq.2 here.symm)) _ _ _ _
  | permissionRequest request =>
      simp only [tellings, attached] at one two
      rw [one, two]
      refine both.told (.asked request) (fun here => ⟨sight ?_, ?_⟩) _ _ _ _
      · rw [attached?_permissionRequest] at here
        exact beq_iff_eq.2 here
      · intro call again held held' early collapsed running
        simp [reopens, here, held, held', early, collapsed, running] at closed
  | permissionResponse response =>
      simp only [tellings, attached] at one two
      rw [one, two]
      refine both.told (.answered response) (fun here _ => ?_) _ _ _ _
      rw [attached?_permissionResponse, Option.filter_eq_some_iff] at here
      exact here.2
  | toolResult result =>
      simp only [tellings] at one two
      rw [one, two]
      exact both.told (.finished result) (fun here => sight (beq_iff_eq.2 here.symm)) _ _ _ _
  | toolEvent event =>
      simp only [tellings] at one two
      rw [one, two]
      refine both.told (.assigned event) (fun here => ?_) _ _ _ _
      obtain ⟨final, held⟩ := Option.isSome_iff_exists.1 (sight (beq_iff_eq.2 here.symm))
      refine ⟨final, held, fun call earlier told => ?_⟩
      obtain ⟨later, held', kept⟩ := before toolId call earlier
      rw [held] at held'
      cases held'
      exact kept told
  | displayLinks display =>
      rw [one, two]
      exact both
  | displayStates display => exact retraced.calls_applyDisplayStates known behind toolId
  | _ => cases read

/-- **One change.** -/
theorem after (retraced : RetracedIn first second last) (read : change.isRead = true)
    (same : first.retraces second change = true) (before : Precedes first last)
    (behind : Precedes (first.after change) last) :
    RetracedIn (first.after change) (second.after change) last := by
  have calls := retraced.calls_after read same before behind
  obtain ⟨attached, -, known⟩ := retraces_iff.1 same
  refine
    { calls
      links := fun requestId => requested?_after read attached (retraced.links requestId)
      unseen := fun toolId judged absent => ?unseen
      shown := fun toolId => ?shown
      shownAgain := fun toolId overlooked => ?shownAgain }
  case unseen =>
    have absent' : first.call? toolId = none := by
      cases held : first.call? toolId with
      | none => rfl
      | some call =>
          have one : ∀ other ∈ [change], other.isRead = true := by simpa using read
          obtain ⟨after, stays, -⟩ := first.precedes_run one toolId call held
          exact absurd (stays.symm.trans absent) (Option.some_ne_none after)
    have verdict : ((change.verdictFor? toolId).getD (first.orphans.find? toolId)).isSome =
        true := by
      rw [← find?_orphans_after read]
      exact judged
    cases told : change.verdictFor? toolId with
    | none =>
        rw [told] at verdict
        exact retraced.unseen toolId verdict absent'
    | some ruling =>
        rw [told] at verdict
        have unmet : (second.after change).call? toolId = none :=
          unmet_of_judged known told verdict absent
        exact (unmet ▸ calls toolId).unmet
  case shown =>
    rw [isOverlooked_after, retraced.shown toolId, Bool.false_and, Bool.or_false]
    by_contra overlooks
    rw [Bool.not_eq_false] at overlooks
    simp only [Tracker.overlooks, Bool.and_eq_true, Option.isNone_iff_eq_none] at overlooks
    obtain ⟨⟨⟨absent, judged⟩, sees⟩, -⟩ := overlooks
    have met := isSome_of_sees behind sees
    rw [retraced.unseen toolId judged absent] at met
    cases met
  case shownAgain =>
    rw [isOverlooked_after, Bool.or_eq_true, Bool.and_eq_true] at overlooked
    rcases overlooked with overlooks | ⟨before, -⟩
    · -- The second reading sees nothing for the first time.
      simp only [Tracker.overlooks, Bool.and_eq_true, Option.isNone_iff_eq_none] at overlooks
      obtain ⟨⟨⟨absent, -⟩, sees⟩, -⟩ := overlooks
      rw [sees_eq_of_attached attached] at sees
      have met := isSome_of_sees behind sees
      have unmet : last.call? toolId = none := (absent ▸ retraced.calls toolId).unmet
      rw [unmet] at met
      cases met
    · exact retraced.shownAgain toolId before

/-- **All changes of a page.** -/
theorem run {changes : List TrackerChange} (retraced : RetracedIn first second last)
    (read : ∀ change ∈ changes, change.isRead = true)
    (same : first.retracesAll second changes = true)
    (ends : ∀ toolId, last.call? toolId = (first.run changes).call? toolId) :
    RetracedIn (first.run changes) (second.run changes) last := by
  induction changes generalizing first second with
  | nil => exact retraced
  | cons change rest ih =>
      obtain ⟨one, others⟩ := Bool.and_eq_true_iff.1 same
      have readOthers : ∀ later ∈ rest, later.isRead = true := fun later member =>
        read later (List.mem_cons_of_mem _ member)
      have before : Precedes first last := (first.precedes_run read).of_calls ends
      have behind : Precedes (first.after change) last :=
        ((first.after change).precedes_run readOthers).of_calls ends
      exact ih (retraced.after (read change List.mem_cons_self) one before behind) readOthers others
        ends

/-- Before the first message the second reading has what the first one left. -/
theorem start (sessionId : String)
    (folded : ∀ toolId call, last.call? toolId = some call → call.Folded) :
    RetracedIn (new sessionId) last last where
  calls toolId := by
    show RetracedAt none (last.call? toolId) (last.call? toolId)
    cases held : last.call? toolId with
    | none => exact .absent
    | some call => exact .unseen rfl (folded toolId call held)
  links _ := Or.inr rfl
  unseen _ judged := absurd judged Bool.false_ne_true
  shown _ := rfl
  shownAgain _ := id

end RetracedIn

section Reread

variable (sessionId : String) {changes : List TrackerChange}
  (read : ∀ change ∈ changes, change.isRead = true)
include read

/-- When messages have been read, every finished call is collapsed. -/
theorem folded_run {toolId : String} {call : ToolCall}
    (held : ((new sessionId).run changes).call? toolId = some call) : call.Folded :=
  forall_call?_run read (fun telling _ folded => telling.folded_on folded)
    (fun _ _ _ _ _ final => by cases final) (fun _ _ held => by cases held) toolId call held

/-- The second reading leaves every verdict as the first one has. -/
theorem find?_orphans_reread (toolId : String) :
    let once := ((new sessionId).run changes).recountUnfinished
    (once.run changes).orphans.find? toolId = once.orphans.find? toolId := by
  intro once
  have first : once.orphans.find? toolId = _ := find?_orphans_run (new sessionId) read toolId
  rw [find?_orphans_run once read toolId, first]
  cases latest? (fun change => change.verdictFor? toolId) changes <;> rfl

/-- **Reading again.**  If all changes go the same way in both readings, the second one leaves
every call, the order of its input's members apart, and every link as the first one has. -/
theorem reread
    (same : (new sessionId).retracesAll ((new sessionId).run changes).recountUnfinished changes =
      true) :
    let once := ((new sessionId).run changes).recountUnfinished
    (∀ toolId, ((once.run changes).call? toolId).map ToolCall.normal =
      (once.call? toolId).map ToolCall.normal) ∧
    ∀ requestId, (once.run changes).requested? requestId = once.requested? requestId := by
  intro once
  have begun : RetracedIn (new sessionId) once once :=
    RetracedIn.start sessionId fun _ _ held => folded_run sessionId read held
  have retraced : RetracedIn ((new sessionId).run changes) (once.run changes) once :=
    begun.run read same fun _ => rfl
  refine ⟨fun toolId => (retraced.calls toolId).normal_of_last fun again final held held' => ?_,
    fun requestId => (retraced.links requestId).elim id id⟩
  have begins : ((new sessionId).standing toolId).Sound := fun mark shows => by cases shows
  have sound : (once.standing toolId).Sound := sound_run begins changes
  have soundAgain : ((once.run changes).standing toolId).Sound := sound_run sound changes
  have shown : (once.standing toolId).isOverlooked = false := retraced.shown toolId
  have shownAgain : ((once.run changes).standing toolId).isOverlooked = false := by
    rw [← Bool.not_eq_true]
    intro overlooked
    rw [retraced.shownAgain toolId overlooked] at shown
    cases shown
  have shows := (sound.shows_iff (congrArg (Option.map ToolCall.mark) held')).2 shown
  have showsAgain :=
    (soundAgain.shows_iff (congrArg (Option.map ToolCall.mark) held)).2 shownAgain
  have verdict : ((once.run changes).standing toolId).verdict = (once.standing toolId).verdict :=
    find?_orphans_reread sessionId read toolId
  rw [verdict] at showsAgain
  exact Prod.ext (showsAgain.1.trans shows.1.symm) (showsAgain.2.trans shows.2.symm)

end Reread

/-- Whether a change neither asks nor answers and lists no orphans. -/
def isPlain : TrackerChange → Bool
  | .permissionRequest _ | .permissionResponse _ => false
  | .displayStates display => display.orphans.isNone
  | _ => true

/-- Such changes go the same way in any two readings. -/
theorem retracesAll_of_isPlain {changes : List TrackerChange}
    (plain : ∀ change ∈ changes, isPlain change = true) (first second : Tracker) :
    first.retracesAll second changes = true := by
  induction changes generalizing first second with
  | nil => rfl
  | cons change rest ih =>
      have here : first.retraces second change = true := by
        have plain := plain change List.mem_cons_self
        cases change with
        | permissionRequest request => cases plain
        | permissionResponse response => cases plain
        | displayStates display =>
            have unlisted : display.orphans = none := Option.isNone_iff_eq_none.1 plain
            simp [retraces, attached?, reopens, foresees, unlisted]
        | _ => rfl
      unfold retracesAll
      rw [here, Bool.true_and]
      exact ih (fun later member => plain later (List.mem_cons_of_mem _ member)) _ _

end Tracker

namespace Log

/-- The data of a session's start, from what was known and what messages bring. -/
theorem initDataAfter_eq (known : Option Json) (messages : List Message) :
    initDataAfter known messages = (initDataAfter none messages).or known := by
  induction messages using List.reverseRecOn with
  | nil => rfl
  | append_singleton rest message ih =>
      rw [initDataAfter_append, ih, initDataAfter_append none rest]
      exact (Option.or_assoc).symm

end Log

namespace MessageStore

/-- What a load makes of the log of a live session. -/
theorem log_loadHistory_of_live (store : MessageStore) {sessionId : String}
    (page : List Message) {stateOf : String → Option SessionState}
    (live : isOver stateOf sessionId = false) :
    (store.loadHistory sessionId page stateOf).1.log sessionId =
      (store.log sessionId).loadPage page := by
  rw [log_loadHistory, live, if_neg Bool.false_ne_true]

/-- **Loading a page again.**  The second load of a page for a live session without a log
leaves the messages, their ids, the watermark, the data of the session's start and the orphans
as the first one has.  It leaves every call, the order of its input's members apart, and every
link of a permission request as well if all that the page says goes the same way both times:
requests and answers are attached to the same tool uses, no request opens a card in the first
reading that the second one leaves closed, and no list of orphans reaches a tool use in the
second reading that the first one had not seen. -/
theorem loadHistory_again (store : MessageStore) (sessionId : String) (page : List Message)
    (stateOf : String → Option SessionState) (unseen : store.log? sessionId = none)
    (live : isOver stateOf sessionId = false) :
    let once := (store.loadHistory sessionId page stateOf).1
    let twice := (once.loadHistory sessionId page stateOf).1
    twice.messages sessionId = once.messages sessionId ∧
      (twice.log sessionId).ids = (once.log sessionId).ids ∧
      (twice.log sessionId).watermark = (once.log sessionId).watermark ∧
      (twice.log sessionId).initData = (once.log sessionId).initData ∧
      (∀ toolId, twice.orphan? sessionId toolId = once.orphan? sessionId toolId) ∧
      ((Tracker.new sessionId).retracesAll (once.log sessionId).tracker
          ((Log.ofPage page).flatMap Message.changes) = true →
        (∀ toolId, (twice.toolCall? sessionId toolId).map ToolCall.normal =
          (once.toolCall? sessionId toolId).map ToolCall.normal) ∧
        ∀ requestId, (twice.log sessionId).tracker.requested? requestId =
          (once.log sessionId).tracker.requested? requestId) := by
  intro once twice
  have read : ∀ change ∈ (Log.ofPage page).flatMap Message.changes, change.isRead = true := by
    intro change member
    obtain ⟨message, -, said⟩ := List.mem_flatMap.1 member
    exact Message.isRead_changes said
  have first : once.log sessionId = (Log.new sessionId).loadPage page := by
    rw [← log_of_unseen unseen]
    exact store.log_loadHistory_of_live page live
  have second : twice.log sessionId = (once.log sessionId).loadPage page :=
    once.log_loadHistory_of_live page live
  simp only [messages_eq, toolCall?_eq, orphan?_eq, second, first, Log.loadPage_eq, true_and]
  refine ⟨?_, Tracker.find?_orphans_reread sessionId read, Tracker.reread sessionId read⟩
  show Log.initDataAfter (Log.initDataAfter none (Log.ofPage page)) (Log.ofPage page) = _
  rw [Log.initDataAfter_eq]
  exact Option.or_self

/-! ### A request before and behind its tool use -/

/-- A request that names a tool and an input, but no tool use. -/
def namelessRequest (messageId : String) (millis : Int) : Message :=
  { Message.ofBlocks messageId .permissionRequest millis [] with
    metadata := { Metadata.none with
      permissionRequest := some { requestId := "r", toolName := "Bash", input := .null,
                                  toolId := none, suggestions := [] } } }

/-- A tool use with the signature of the request. -/
def usedTool (messageId : String) (millis : Int) : Message :=
  Message.ofBlocks messageId .assistant millis
    [.toolUse { toolId := "t", name := "Bash", input := .null }]

/-- A tool use that is asked for and then reports. -/
def reportedPage : List Message :=
  [usedTool "1" 1, namelessRequest "2" 2,
    Message.ofBlocks "3" .user 3
      [.toolResult { toolId := "t", content := .null, isError := false }]]

/-- A request that finds its tool use keeps it when the page is loaded again. -/
theorem loadHistory_again_of_reportedPage :
    let stateOf : String → Option SessionState := fun _ => some .active
    let once := (empty.loadHistory "s" reportedPage stateOf).1
    let twice := (once.loadHistory "s" reportedPage stateOf).1
    (once.log "s").tracker.requested? "r" = some "t" ∧
      (twice.log "s").tracker.requested? "r" = some "t" ∧
      twice.messages "s" = once.messages "s" ∧
      (twice.toolCall? "s" "t").map ToolCall.normal =
        (once.toolCall? "s" "t").map ToolCall.normal := by
  intro stateOf once twice
  have linked : (once.log "s").tracker.requested? "r" = some "t" := by decide +kernel
  obtain ⟨messages, -, -, -, -, reading⟩ :=
    loadHistory_again empty "s" reportedPage stateOf rfl rfl
  obtain ⟨calls, links⟩ := reading (by decide +kernel)
  exact ⟨linked, (links "r").trans linked, messages, calls "t"⟩

/-- A request in front of its tool use is attached to none when the page is loaded, and to
that one when it is loaded again. -/
example :
    let page := [namelessRequest "1" 1, usedTool "2" 2]
    let once := (empty.loadHistory "s" page fun _ => some .active).1
    let twice := (once.loadHistory "s" page fun _ => some .active).1
    (once.toolCall? "s" "t").map ToolCall.status = some .pending ∧
      (twice.toolCall? "s" "t").map ToolCall.status = some .permissionRequired ∧
      (once.log "s").tracker.requested? "r" = none ∧
      (twice.log "s").tracker.requested? "r" = some "t" := by
  decide +kernel

end MessageStore

end SessionSync
