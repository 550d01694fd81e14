import SessionSync.Proofs.Json.Unambiguous
import SessionSync.Proofs.Tracker.SignatureIndex

/-!
# Which tool use a permission request is for

A permission request of the older protocol names a tool and its input, but no tool use.  It
is for the newest unfinished tool use with that name and input, or for the newest of all if
every one is finished.  The tracker looks this up in its index of signatures, which many
other operations keep.

As long as everything that is said about a tool use gives it the same name and input, and
every tool use is first told of with these, no call ever changes its signature
(`KeepsSignatures`).  Then no entry of the index goes wrong, and the look-up is a search of
the whole table (`request_finds_newest`).
-/

set_option autoImplicit false

namespace SessionSync

/-- A name and an input that something gives to a tool use. -/
structure Mention where
  toolId : String
  name : String
  input : Json
  deriving DecidableEq

/-- Two mentions give the same name and, up to the order of its keys, the same input. -/
def Mention.Agrees (first second : Mention) : Prop :=
  first.name = second.name ∧ first.input.normal = second.input.normal

instance (first second : Mention) : Decidable (first.Agrees second) :=
  inferInstanceAs (Decidable (_ ∧ _))

namespace Tracker

/-- What a change says about the names and inputs of tool uses.  A request says it about the
tool use that it is for. -/
def mentions (tracker : Tracker) : TrackerChange → List Mention
  | .toolUse toolUse => [⟨toolUse.toolId, toolUse.name, toolUse.input⟩]
  | .toolEvent event => [⟨event.toolId, event.toolName, event.input⟩]
  | .permissionRequest request =>
      (tracker.requestTarget? request).toList.map fun toolId =>
        ⟨toolId, request.toolName, request.input⟩
  | _ => []

/-- What a run says about the names and inputs of tool uses. -/
def mentionsIn (tracker : Tracker) : List TrackerChange → List Mention
  | [] => []
  | change :: rest => tracker.mentions change ++ (tracker.after change).mentionsIn rest

theorem mentionsIn_append (tracker : Tracker) (front back : List TrackerChange) :
    tracker.mentionsIn (front ++ back) =
      tracker.mentionsIn front ++ (tracker.run front).mentionsIn back := by
  induction front generalizing tracker with
  | nil => rfl
  | cons change rest ih =>
      rw [List.cons_append, mentionsIn, mentionsIn, ih, List.append_assoc, run_cons]

/-- Whether a change gives a result to a tool use that has a call, if it brings one. -/
def knowsResult (tracker : Tracker) : TrackerChange → Bool
  | .toolResult result => (tracker.call? result.toolId).isSome
  | _ => true

/-- Whether every result of a run is for a tool use that has a call by then. -/
def knowsResults (tracker : Tracker) : List TrackerChange → Bool
  | [] => true
  | change :: rest => tracker.knowsResult change && (tracker.after change).knowsResults rest

theorem knowsResults_concat (tracker : Tracker) (changes : List TrackerChange)
    (last : TrackerChange) :
    tracker.knowsResults (changes ++ [last]) =
      (tracker.knowsResults changes && (tracker.run changes).knowsResult last) := by
  induction changes generalizing tracker with
  | nil => simp [knowsResults]
  | cons change rest ih =>
      rw [List.cons_append, knowsResults, knowsResults, ih, run_cons, Bool.and_assoc]

/-- A run that says the same about a tool use each time: no display block tells the state of
a tool, every result is for a tool use that was seen before, and whatever names a tool use
gives it the same name and the same input. -/
structure Steady (start : Tracker) (changes : List TrackerChange) : Prop where
  untold : ∀ display, .displayStates display ∈ changes → display.shown = []
  known : start.knowsResults changes = true
  agrees : ∀ first ∈ start.mentionsIn changes, ∀ second ∈ start.mentionsIn changes,
    first.toolId = second.toolId → first.Agrees second

/-! ## Signatures that stay -/

/-- No call changes its signature. -/
def KeepsSignatures (before after : Tracker) : Prop :=
  ∀ toolId signature, before.signature? toolId = some signature →
    after.signature? toolId = some signature

/-- Every call has the name and the input of a mention. -/
def MentionsCalls (mentions : List Mention) (tracker : Tracker) : Prop :=
  ∀ toolId signature, tracker.signature? toolId = some signature →
    ∃ mention ∈ mentions, mention.toolId = toolId ∧
      toolSignature mention.name mention.input = signature

section OneChange

variable {tracker : Tracker}

theorem SameIndex.keepsSignatures {after : Tracker} (same : SameIndex tracker after) :
    KeepsSignatures tracker after := fun toolId _ signed =>
  (same.signatures toolId).trans signed

/-- A step about one tool use keeps all signatures if it keeps that one. -/
theorem keepsSignatures_of_here {after : Tracker} (toolId : String)
    (here : ∀ call, tracker.call? toolId = some call →
      after.signature? toolId = some call.signature)
    (elsewhere : ∀ probe, probe ≠ toolId → SameAt after tracker probe) :
    KeepsSignatures tracker after := by
  intro probe signature signed
  by_cases same : probe = toolId
  · subst same
    obtain ⟨call, held, rfl⟩ := Option.map_eq_some_iff.1 signed
    exact here call held
  · exact (signature?_of_sameAt (elsewhere probe same)).trans signed

theorem keepsSignatures_onPermissionRequest (request : PermissionRequest) :
    KeepsSignatures tracker (tracker.onPermissionRequest request).1 := by
  cases target : tracker.requestTarget? request with
  | none =>
      unfold onPermissionRequest
      rw [target]
      exact fun _ _ signed => signed
  | some toolId =>
      refine keepsSignatures_of_here toolId (fun call held => ?_) fun probe other => ?_
      · rw [signature?, tracker.call?_onPermissionRequest target, callOrStart_of_call held,
          Option.map_some, signature_askFor]
      · refine tracker.sameAt_onPermissionRequest fun same => other ?_
        exact Option.some_inj.1 (same.symm.trans target)

theorem keepsSignatures_onToolResult (result : ToolResult) :
    KeepsSignatures tracker (tracker.onToolResult result) := by
  refine keepsSignatures_of_here result.toolId (fun call held => ?_)
    fun probe other => tracker.sameAt_onToolResult other
  rw [signature?, call?_onToolResult, callOrStart_of_call held]
  rfl

/-- A record with the name and the input of a call leaves it as it is. -/
theorem keepsSignatures_onToolUse {toolUse : ToolUse}
    (agrees : ∀ call, tracker.call? toolUse.toolId = some call →
      toolSignature toolUse.name toolUse.input = call.signature) :
    KeepsSignatures tracker (tracker.onToolUse toolUse) := by
  refine keepsSignatures_of_here toolUse.toolId (fun call held => ?_)
    fun probe other => tracker.sameAt_onToolUse other
  rw [signature?, call?_onToolUse, callOrStart_of_call held, nameAs,
    if_pos (agrees call held).symm]
  rfl

/-- An event with the name and the input of a call leaves its signature. -/
theorem keepsSignatures_onToolEvent {event : ToolEvent}
    (agrees : ∀ call, tracker.call? event.toolId = some call →
      toolSignature event.toolName event.input = call.signature) :
    KeepsSignatures tracker (tracker.onToolEvent event) := by
  refine keepsSignatures_of_here event.toolId (fun call held => ?_)
    fun probe other => tracker.sameAt_onToolEvent other
  obtain ⟨named, input⟩ := toolSignature_eq_iff_normal.1 (agrees call held)
  rw [signature?, call?_onToolEvent, callOrStart_of_call held, Option.map_some, assignEvent_eq]
  refine congrArg some (toolSignature_eq_iff_normal.2 ⟨named, ?_⟩)
  -- An event without an input leaves the one that the call has.
  unfold ToolEvent.brought
  split
  · rfl
  · exact input

/-- **One change of a steady run** keeps the signature of every call. -/
theorem keepsSignatures_after {change : TrackerChange}
    (untold : ∀ display, change = .displayStates display → display.shown = [])
    (agrees : ∀ mention ∈ tracker.mentions change, ∀ signature,
      tracker.signature? mention.toolId = some signature →
        toolSignature mention.name mention.input = signature) :
    KeepsSignatures tracker (tracker.after change) := by
  cases change with
  | toolUse toolUse =>
      exact keepsSignatures_onToolUse fun call held =>
        agrees _ List.mem_cons_self _ (signature?_of_call held)
  | toolEvent event =>
      exact keepsSignatures_onToolEvent fun call held =>
        agrees _ List.mem_cons_self _ (signature?_of_call held)
  | permissionRequest request => exact keepsSignatures_onPermissionRequest request
  | toolResult result => exact keepsSignatures_onToolResult result
  | permissionResponse response =>
      exact (tracker.sameIndex_onPermissionResponse response).keepsSignatures
  | displayLinks display => exact (tracker.sameIndex_applyDisplayLinks display).keepsSignatures
  | displayStates display =>
      have same := tracker.sameIndex_applyDisplayStates display
      rw [untold display rfl] at same
      exact same.keepsSignatures
  | markOrphaned toolId reason message =>
      exact (tracker.sameIndex_markOrphaned toolId reason message).keepsSignatures
  | orphanUnfinished reason =>
      exact (tracker.sameIndex_foldl
        (fun tracker toolId => tracker.sameIndex_markOrphaned toolId reason none) _).keepsSignatures
  | recount => exact fun _ _ signed => signed
  | toggle toolId =>
      simp only [after, toggleExpanded]
      split
      · exact fun _ _ signed => signed
      · refine SameIndex.keepsSignatures ?_
        exact tracker.sameIndex_modify toolId fun _ => rfl

/-- A step about one tool use creates no other call. -/
theorem mentioned_of_here {after : Tracker} {toolId : String} {mention : Mention}
    (named : mention.toolId = toolId)
    (here : tracker.call? toolId = none → after.signature? toolId =
      some (toolSignature mention.name mention.input))
    (elsewhere : ∀ probe, probe ≠ toolId → SameAt after tracker probe) {probe signature : String}
    (unknown : tracker.call? probe = none) (signed : after.signature? probe = some signature) :
    mention.toolId = probe ∧ toolSignature mention.name mention.input = signature := by
  by_cases same : probe = toolId
  · subst same
    exact ⟨named, Option.some_inj.1 ((here unknown).symm.trans signed)⟩
  · rw [signature?_of_sameAt (elsewhere probe same), signature?_of_new unknown] at signed
    cases signed

theorem SameIndex.creates_nothing {after : Tracker} (same : SameIndex tracker after)
    {toolId signature : String} (unknown : tracker.call? toolId = none) :
    after.signature? toolId ≠ some signature := by
  rw [same.signatures, signature?_of_new unknown]
  exact fun none => by cases none

/-- **One change of a steady run** creates calls only with the name and the input that it
mentions. -/
theorem mentioned_after {change : TrackerChange}
    (untold : ∀ display, change = .displayStates display → display.shown = [])
    (known : tracker.knowsResult change = true) {toolId signature : String}
    (unknown : tracker.call? toolId = none)
    (signed : (tracker.after change).signature? toolId = some signature) :
    ∃ mention ∈ tracker.mentions change, mention.toolId = toolId ∧
      toolSignature mention.name mention.input = signature := by
  cases change with
  | toolUse toolUse =>
      refine ⟨_, List.mem_cons_self, mentioned_of_here rfl (fun new => ?_)
        (fun probe other => tracker.sameAt_onToolUse other) unknown signed⟩
      rw [signature?, call?_onToolUse, callOrStart_of_new new, nameAs]
      split <;> rfl
  | toolEvent event =>
      refine ⟨_, List.mem_cons_self, mentioned_of_here rfl (fun new => ?_)
        (fun probe other => tracker.sameAt_onToolEvent other) unknown signed⟩
      rw [signature?, call?_onToolEvent, callOrStart_of_new new, Option.map_some, assignEvent_eq,
        ToolCall.signature]
      dsimp only [ToolCall.start]
      rw [event.getD_brought]
  | permissionRequest request =>
      simp only [after] at signed
      cases target : tracker.requestTarget? request with
      | none =>
          unfold onPermissionRequest at signed
          rw [target, signature?_of_new unknown] at signed
          cases signed
      | some askedId =>
          refine ⟨⟨askedId, request.toolName, request.input⟩, ?_, mentioned_of_here rfl
            (fun new => ?_) (fun probe other => ?_) unknown signed⟩
          · simp [mentions, target]
          · rw [signature?, tracker.call?_onPermissionRequest target, callOrStart_of_new new,
              Option.map_some, signature_askFor]
            rfl
          · refine tracker.sameAt_onPermissionRequest fun same => other ?_
            exact Option.some_inj.1 (same.symm.trans target)
  | toolResult result =>
      have elsewhere : toolId ≠ result.toolId := by
        rintro rfl
        rw [knowsResult, unknown] at known
        cases known
      rw [after, signature?_of_sameAt (tracker.sameAt_onToolResult elsewhere),
        signature?_of_new unknown] at signed
      cases signed
  | permissionResponse response =>
      exact absurd signed
        ((tracker.sameIndex_onPermissionResponse response).creates_nothing unknown)
  | displayLinks display =>
      exact absurd signed ((tracker.sameIndex_applyDisplayLinks display).creates_nothing unknown)
  | displayStates display =>
      have same := tracker.sameIndex_applyDisplayStates display
      rw [untold display rfl] at same
      exact absurd signed (same.creates_nothing unknown)
  | markOrphaned orphanId reason message =>
      exact absurd signed
        ((tracker.sameIndex_markOrphaned orphanId reason message).creates_nothing unknown)
  | orphanUnfinished reason =>
      exact absurd signed ((tracker.sameIndex_foldl (fun tracker toolId =>
        tracker.sameIndex_markOrphaned toolId reason none) _).creates_nothing unknown)
  | recount =>
      have unsigned : tracker.recountUnfinished.signature? toolId = none :=
        signature?_of_new unknown
      exact absurd (unsigned.symm.trans signed) (Option.some_ne_none _).symm
  | toggle toggledId =>
      have same : SameIndex tracker (tracker.toggleExpanded toggledId).1 := by
        unfold toggleExpanded
        split
        · exact sameIndex_of_signatures rfl fun _ => rfl
        · exact tracker.sameIndex_modify toggledId fun _ => rfl
      exact absurd signed (same.creates_nothing unknown)

end OneChange

/-! ## Steady runs -/

section Runs

variable {start : Tracker} {changes : List TrackerChange} {last : TrackerChange}

theorem Steady.init (steady : Steady start (changes ++ [last])) : Steady start changes := by
  have known := start.knowsResults_concat changes last ▸ steady.known
  have more := start.mentionsIn_append changes [last]
  exact ⟨fun display member => steady.untold display (List.mem_append_left _ member),
    (Bool.and_eq_true_iff.1 known).1, fun first one second two =>
      steady.agrees first (more ▸ List.mem_append_left _ one) second
        (more ▸ List.mem_append_left _ two)⟩

/-- The last result of a steady run is for a tool use that has a call. -/
theorem Steady.knows_last (steady : Steady start (changes ++ [last])) :
    (start.run changes).knowsResult last = true :=
  (Bool.and_eq_true_iff.1 (start.knowsResults_concat changes last ▸ steady.known)).2

/-- The last change of a steady run says of calls what was said of them before. -/
theorem Steady.keepsSignatures_last (steady : Steady start (changes ++ [last]))
    (mentioned : MentionsCalls (start.mentionsIn changes) (start.run changes)) :
    KeepsSignatures (start.run changes) ((start.run changes).after last) := by
  refine keepsSignatures_after (fun display same => ?_) fun mention said signature signed => ?_
  · exact steady.untold display (by rw [same]; simp)
  · obtain ⟨first, earlier, about, rfl⟩ := mentioned mention.toolId signature signed
    have more := start.mentionsIn_append changes [last]
    refine toolSignature_eq_iff_normal.2 (steady.agrees mention ?_ first ?_ about.symm)
    · rw [more, mentionsIn, mentionsIn, List.append_nil]
      exact List.mem_append_right _ said
    · exact more ▸ List.mem_append_left _ earlier

/-- A steady run from a tracker without calls leaves every call with a name and an input
that it mentions. -/
theorem Steady.mentionsCalls (steady : Steady start changes)
    (empty : ∀ toolId, start.call? toolId = none) :
    MentionsCalls (start.mentionsIn changes) (start.run changes) := by
  induction changes using List.reverseRecOn with
  | nil =>
      intro toolId signature signed
      rw [run_nil, signature?_of_new (empty toolId)] at signed
      cases signed
  | append_singleton changes last ih =>
      intro toolId signature signed
      have before := ih steady.init
      rw [run_append, run_cons, run_nil] at signed
      rw [mentionsIn_append]
      cases held : (start.run changes).call? toolId with
      | some call =>
          have kept := steady.keepsSignatures_last before toolId _ (signature?_of_call held)
          obtain ⟨mention, said, about, same⟩ := before toolId _ (signature?_of_call held)
          exact ⟨mention, List.mem_append_left _ said, about,
            same.trans (Option.some_inj.1 (kept.symm.trans signed))⟩
      | none =>
          obtain ⟨mention, said, about, same⟩ := mentioned_after
            (fun display same => steady.untold display (by rw [same]; simp))
            steady.knows_last held signed
          refine ⟨mention, List.mem_append_right _ ?_, about, same⟩
          rw [mentionsIn, mentionsIn, List.append_nil]
          exact said

/-- **No change of a steady run** changes the signature of a call. -/
theorem Steady.keepsSignatures (steady : Steady start changes)
    (empty : ∀ toolId, start.call? toolId = none) {earlier later : List TrackerChange}
    {change : TrackerChange} (split : changes = earlier ++ change :: later) :
    KeepsSignatures (start.run earlier) ((start.run earlier).after change) := by
  induction changes using List.reverseRecOn generalizing later with
  | nil => simp at split
  | append_singleton changes last ih =>
      rcases List.eq_nil_or_concat later with rfl | ⟨front, final, rfl⟩
      · obtain ⟨rfl, same⟩ := List.append_inj' split rfl
        cases same
        exact steady.keepsSignatures_last (steady.init.mentionsCalls empty)
      · rw [List.concat_eq_append, ← List.cons_append, ← List.append_assoc] at split
        obtain ⟨rfl, same⟩ := List.append_inj' split rfl
        exact ih steady.init rfl

end Runs

/-! ## The index of a steady run -/

section Turns

variable {tracker : Tracker} {change : TrackerChange}

/-- A change that keeps the signatures gives none up. -/
theorem KeepsSignatures.givesUp (keeps : KeepsSignatures tracker (tracker.after change))
    (toolId signature : String) : tracker.givesUp change toolId signature = false := by
  unfold Tracker.givesUp
  cases held : tracker.signature? toolId with
  | none => exact goes_none _ _
  | some own => rw [keeps toolId own held, goes_self]

/-- A change that keeps the signatures takes none on. -/
theorem KeepsSignatures.takesOn (keeps : KeepsSignatures tracker (tracker.after change))
    (toolId signature : String) : tracker.takesOn change toolId signature = false := by
  unfold Tracker.takesOn
  cases held : tracker.signature? toolId with
  | none => exact comes_none _ _
  | some own => rw [keeps toolId own held, comes_self]

end Turns

/-- **The index of a steady run** lists under a signature the tool uses whose calls have it,
from the oldest to the newest. -/
theorem Steady.listed_eq_having {sessionId : String} {changes : List TrackerChange}
    (steady : Steady (new sessionId) changes) (signature : String) :
    ((new sessionId).run changes).listed signature =
      ((new sessionId).run changes).having signature := by
  have empty : ∀ toolId, (new sessionId).call? toolId = none := fun _ => rfl
  refine (listed_eq_having_iff (roster_run sessionId changes) (sound_card_run sessionId changes)
    (nodup_listed_run sessionId changes signature)).2
      ⟨fun toolId => ?filed, fun newer older => ?ordered⟩
  case filed =>
    rw [← Bool.not_eq_true, isMisfiled_run_iff]
    rintro ⟨earlier, change, later, split, turned, -⟩
    have keeps := steady.keepsSignatures empty split
    simp [misfiles, keeps.takesOn, keeps.givesUp] at turned
  case ordered =>
    rw [← Bool.not_eq_true, isOvertaken_run_iff]
    rintro ⟨earlier, change, later, split, moved, -⟩
    have keeps := steady.keepsSignatures empty split
    simp [overtakes, keeps.takesOn] at moved

/-! ## The search -/

/-- A tool use has the newest of the calls with a property. -/
def IsNewest (tracker : Tracker) (among : ToolCall → Prop) (toolId : String) : Prop :=
  ∃ call, tracker.call? toolId = some call ∧ among call ∧
    ∀ otherId other, tracker.call? otherId = some other → among other → other.seq ≤ call.seq

section Search

variable {tracker : Tracker} {signature : String}

/-- The look-up takes the last listed tool use that waits, or the last of all. -/
theorem findBySignature_eq : tracker.findBySignature signature =
    ((tracker.listed signature).reverse.find? tracker.awaits).or
      (tracker.listed signature).getLast? := by
  unfold findBySignature listed
  cases tracker.signatures.find? signature with
  | none => rfl
  | some ids => rfl

theorem findBySignature_eq_none_iff :
    tracker.findBySignature signature = none ↔ tracker.listed signature = [] := by
  rw [findBySignature_eq, Option.or_eq_none_iff, List.getLast?_eq_none_iff]
  refine ⟨And.right, fun empty => ⟨?_, empty⟩⟩
  rw [empty]
  rfl

theorem awaits_of_call {toolId : String} {call : ToolCall}
    (held : tracker.call? toolId = some call) :
    tracker.awaits toolId = !call.status.isTerminal := by
  unfold awaits
  rw [held, Option.any_some]

variable {sessionId : String} {seen : List String} (roster : Roster sessionId seen tracker)
  (right : tracker.listed signature = tracker.having signature)
include roster right

/-- Where the index is right, it lists the calls that have the signature. -/
theorem mem_listed_iff_of_right (toolId : String) : toolId ∈ tracker.listed signature ↔
    ∃ call, tracker.call? toolId = some call ∧ call.signature = signature := by
  rw [right, mem_having roster, signature?, Option.map_eq_some_iff]

/-- Where the index is right, it lists newer calls behind older ones. -/
theorem ascending_listed_of_right :
    Ascending (fun toolId => (seen.eraseDups.idxOf toolId : Int)) (tracker.listed signature) := by
  rw [right]
  exact (pairwise_having roster signature).imp fun before => Int.ofNat_le.2 (Nat.le_of_lt before)

/-- A listed tool use with a property that no other one with it is listed behind has the
newest call with it. -/
theorem isNewest_of_listed {among : ToolCall → Prop} {toolId : String}
    (member : toolId ∈ tracker.listed signature)
    (fits : ∀ call, tracker.call? toolId = some call → call.signature = signature → among call)
    (signed : ∀ call, among call → call.signature = signature)
    (last : ∀ otherId ∈ tracker.listed signature,
      (∃ other, tracker.call? otherId = some other ∧ among other) →
        (seen.eraseDups.idxOf otherId : Int) ≤ seen.eraseDups.idxOf toolId) :
    tracker.IsNewest among toolId := by
  obtain ⟨call, held, own⟩ := (mem_listed_iff_of_right roster right toolId).1 member
  refine ⟨call, held, fits call held own, fun otherId other found belongs => ?_⟩
  have listed := (mem_listed_iff_of_right roster right otherId).2
    ⟨other, found, signed other belongs⟩
  rw [(roster.identity_of_call held).2.2.2, (roster.identity_of_call found).2.2.2]
  exact Int.ofNat_le.1 (last otherId listed ⟨other, found, belongs⟩)

/-- **The look-up is a search of the whole table** where the index is right: it finds the
newest waiting call that has the signature, or the newest one that has it if none waits. -/
theorem isNewest_of_findBySignature {toolId : String}
    (found : tracker.findBySignature signature = some toolId) :
    tracker.IsNewest (fun call => call.signature = signature ∧ call.status.isTerminal = false)
        toolId ∨
      (∀ otherId other, tracker.call? otherId = some other → other.signature = signature →
        other.status.isTerminal = true) ∧
        tracker.IsNewest (fun call => call.signature = signature) toolId := by
  have ascending := ascending_listed_of_right roster right
  rw [findBySignature_eq] at found
  cases waiting : (tracker.listed signature).reverse.find? tracker.awaits with
  | some waitingId =>
      rw [waiting] at found
      cases found
      have member := List.mem_reverse.1 (List.mem_of_find?_eq_some waiting)
      have waits := List.find?_some waiting
      refine Or.inl (isNewest_of_listed roster right member (fun call held own => ⟨own, ?_⟩)
        (fun _ fits => fits.1) fun otherId listed ⟨other, held, _, unfinished⟩ => ?_)
      · simpa [awaits_of_call held] using waits
      · refine ascending.le_of_find?_reverse waiting listed ?_
        rw [awaits_of_call held, unfinished]
        rfl
  | none =>
      rw [waiting] at found
      have last : (tracker.listed signature).getLast? = some toolId := found
      refine Or.inr ⟨fun otherId other held own => ?_, isNewest_of_listed roster right
        (List.mem_of_getLast? last) (fun _ _ own => own) (fun _ own => own) fun otherId listed _ =>
          ascending.le_getLast last listed⟩
      have listed := (mem_listed_iff_of_right roster right otherId).2 ⟨other, held, own⟩
      have idle := List.find?_eq_none.1 waiting otherId (List.mem_reverse.2 listed)
      simpa [awaits_of_call held] using idle

end Search

end Tracker

/-- A request fits a call that has its name and, up to the order of keys, its input. -/
def PermissionRequest.Fits (request : PermissionRequest) (call : ToolCall) : Prop :=
  call.toolName = request.toolName ∧ call.input.normal = request.input.normal

theorem PermissionRequest.fits_iff (request : PermissionRequest) (call : ToolCall) :
    request.Fits call ↔ call.signature = toolSignature request.toolName request.input :=
  toolSignature_eq_iff_normal.symm

namespace Tracker

/-- **Which tool use a request is for.**  Let a run say the same about a tool use each time,
and then let a request come that names no tool use and whose id has no link.  If it fits no
call, it is attached to nothing and changes nothing.  Otherwise it is attached to the newest
unfinished call that it fits, or to the newest one of all that it fits if these are finished;
it is linked to that tool use, whose call is asked, and no other tool use changes. -/
theorem request_finds_newest (sessionId : String) {changes : List TrackerChange}
    {request : PermissionRequest} (steady : Steady (new sessionId) changes)
    (unnamed : request.toolId = none)
    (unlinked : ((new sessionId).run changes).requested? request.requestId = none) :
    let tracker := (new sessionId).run changes
    let reply := tracker.onPermissionRequest request
    (reply = (tracker, none) ↔
        ∀ toolId call, tracker.call? toolId = some call → ¬ request.Fits call) ∧
      ((∃ toolId call, tracker.call? toolId = some call ∧ request.Fits call) →
        ∃ toolId, reply.2 = some toolId ∧
          (tracker.IsNewest (fun call => request.Fits call ∧ call.status.isTerminal = false)
              toolId ∨
            (∀ otherId other, tracker.call? otherId = some other → request.Fits other →
              other.status.isTerminal = true) ∧ tracker.IsNewest request.Fits toolId) ∧
          reply.1.call? toolId = (tracker.call? toolId).map (askFor request) ∧
          (∀ requestId, reply.1.requested? requestId =
            if requestId = request.requestId then some toolId
            else tracker.requested? requestId) ∧
          ∀ probe, probe ≠ toolId → SameAt reply.1 tracker probe) := by
  intro tracker reply
  have roster := roster_run sessionId changes
  have right := steady.listed_eq_having (toolSignature request.toolName request.input)
  have target : tracker.requestTarget? request =
      tracker.findBySignature (toolSignature request.toolName request.input) := by
    unfold requestTarget?
    rw [unnamed, unlinked]
    rfl
  have attached : reply.2 = tracker.requestTarget? request := by
    unfold reply onPermissionRequest
    cases tracker.requestTarget? request <;> rfl
  have missed : tracker.requestTarget? request = none ↔
      ∀ toolId call, tracker.call? toolId = some call → ¬ request.Fits call := by
    rw [target, findBySignature_eq_none_iff, List.eq_nil_iff_forall_not_mem]
    refine forall_congr' fun toolId => ?_
    rw [mem_listed_iff_of_right roster right]
    simp only [not_exists, not_and, request.fits_iff]
    rfl
  refine ⟨⟨fun nothing => ?_, fun misfits => ?_⟩, fun ⟨fittingId, fitting, held, fits⟩ => ?_⟩
  · exact missed.1 (attached.symm.trans (congrArg Prod.snd nothing))
  · unfold reply onPermissionRequest
    rw [missed.2 misfits]
  · cases found : tracker.requestTarget? request with
    | none => exact absurd fits (missed.1 found fittingId fitting held)
    | some toolId =>
        have newest := isNewest_of_findBySignature roster right (target.symm.trans found)
        simp only [← request.fits_iff] at newest
        refine ⟨toolId, attached.trans found, newest, ?_,
          tracker.requested?_onPermissionRequest found, fun probe other =>
            tracker.sameAt_onPermissionRequest fun same => ?_⟩
        · have known : ∃ call, tracker.call? toolId = some call := by
            rcases newest with ⟨call, held, -⟩ | ⟨-, call, held, -⟩
            · exact ⟨call, held⟩
            · exact ⟨call, held⟩
          obtain ⟨call, held⟩ := known
          exact (tracker.call?_onPermissionRequest found).trans
            (by rw [callOrStart_of_call held, held]; rfl)
        · exact other (Option.some_inj.1 (same.symm.trans found))

/-- A tool use runs, and another one with the same name and the same members in its input
is over. -/
def twoAlike : List TrackerChange :=
  [.toolUse { toolId := "first", name := "Bash", input := .object [("a", .null), ("b", .null)] },
    .toolUse { toolId := "second", name := "Bash", input := .object [("b", .null), ("a", .null)] },
    .toolResult { toolId := "second", content := .null, isError := false }]

/-- The request is for the one that still runs, though it is the older one. -/
theorem request_finds_newest_of_twoAlike :
    let tracker := (new "s").run twoAlike
    let request : PermissionRequest :=
      { requestId := "r", toolName := "Bash", input := .object [("b", .null), ("a", .null)]
        toolId := none, suggestions := [] }
    Steady (new "s") twoAlike ∧ request.toolId = none ∧ tracker.requested? "r" = none ∧
      (tracker.onPermissionRequest request).2 = some "first" ∧
      tracker.IsNewest (fun call => request.Fits call ∧ call.status.isTerminal = false) "first" ∧
      ((tracker.onPermissionRequest request).1.call? "first").map ToolCall.status =
        some .permissionRequired ∧
      (tracker.onPermissionRequest request).1.requested? "r" = some "first" ∧
      SameAt (tracker.onPermissionRequest request).1 tracker "second" := by
  intro tracker request
  have steady : Steady (new "s") twoAlike := by
    refine ⟨fun display member => ?_, by decide +kernel, by decide +kernel⟩
    simp [twoAlike] at member
  have unlinked : tracker.requested? "r" = none := by decide +kernel
  have reached : (tracker.onPermissionRequest request).2 = some "first" := by decide +kernel
  have runs : (tracker.call? "first").any (fun call => !call.status.isTerminal &&
      (call.toolName == "Bash" && call.input.normal == request.input.normal)) = true := by
    decide +kernel
  obtain ⟨call, held, runs⟩ := (Option.any_eq_true _ _).1 runs
  simp only [Bool.and_eq_true, Bool.not_eq_true', beq_iff_eq] at runs
  obtain ⟨waits, fits⟩ := runs
  have unnamed : request.toolId = none := rfl
  obtain ⟨-, finds⟩ := request_finds_newest "s" steady unnamed unlinked
  obtain ⟨toolId, attached, newest, -, linked, others⟩ := finds ⟨"first", call, held, fits⟩
  obtain rfl : "first" = toolId := Option.some_inj.1 (reached.symm.trans attached)
  refine ⟨steady, rfl, unlinked, reached, newest.resolve_right fun finished => ?_, ?_, linked "r",
    others "second" (by decide)⟩
  · rw [finished.1 "first" call held fits] at waits
    cases waits
  · decide +kernel

end Tracker

end SessionSync
