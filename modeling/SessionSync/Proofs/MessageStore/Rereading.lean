import SessionSync.Proofs.Json.Unambiguous
import SessionSync.Proofs.MessageStore.Tellings
import SessionSync.Proofs.Tracker.Progress

/-!
# One call in two readings

Messages are read once, and then again by a tracker that knows already what they led to.  Of a
call there are then three versions: the one of the first reading, the one of the second reading
in the same place, and the one that the first reading left in the end.  Part by part the second
reading shows what one of the other two shows, and as long as its status is not that of the
first reading it is ahead of it (`Retraced`).

Before its first sight the first reading has no call, while the second one has what was left
(`RetracedAt`).  Every telling keeps the three versions in step if it meets the call alike in
both readings (`Telling.Meets`, `RetracedAt.tell`).  When the first reading has come to its end
nothing is left to choose, and the second one shows the same call
(`RetracedAt.normal_of_last`).

Two parts depend on what is there: a display block names only a nameless call, and an event
that brings a denial writes it as an outcome only where there is none.  A name or an outcome
that is there is never lost again, so what was left in the end shows what the first reading met.
-/

set_option autoImplicit false

namespace SessionSync

namespace ToolCall

/-- A finished call is collapsed. -/
def Folded (call : ToolCall) : Prop := call.status.isTerminal = true → call.expanded = false

/-- A call without what it shows of a verdict. -/
def unmarked (call : ToolCall) : ToolCall := { call with orphaned := false, orphanReason := none }

/-- A call with its input in normal form, so that the order of object members plays no part. -/
def normal (call : ToolCall) : ToolCall := { call with input := call.input.normal }

end ToolCall

open Tracker (isUnanswered)

theorem Tracker.nameAs_eq (toolUse : ToolUse) (call : ToolCall) :
    ∃ input : Json, input.normal = toolUse.input.normal ∧
      nameAs toolUse call = { call with toolName := toolUse.name, input } := by
  unfold nameAs
  split
  · rename_i same
    obtain ⟨named, same⟩ := toolSignature_eq_iff_normal.1 same
    exact ⟨call.input, same, by rw [← named]⟩
  · exact ⟨toolUse.input, rfl, rfl⟩

theorem Tracker.isUnanswered_iff_rank (call : ToolCall) :
    isUnanswered call = true ↔ call.status.rank ≤ 1 := by
  unfold isUnanswered
  cases call.status <;> decide

theorem ToolStatus.isTerminal_iff_rank (status : ToolStatus) :
    status.isTerminal = true ↔ 3 ≤ status.rank := by
  cases status <;> decide

theorem ToolStatus.isTerminal_of_past {status : ToolStatus} (past : 1 < status.rank)
    (idle : status ≠ .executing) : status.isTerminal = true := by
  cases status with
  | pending => exact absurd past (by decide)
  | permissionRequired => exact absurd past (by decide)
  | executing => exact absurd rfl idle
  | completed => rfl
  | error => rfl

/-! ## One call in two readings -/

/-- A call when messages are read (`first`), when they are read again (`second`), and what the
first reading made of it in the end (`last`).  Part by part the second reading shows what the
first one did at this place, or still what that left. -/
structure Retraced (first second last : ToolCall) : Prop where
  identity : second.identity = last.identity
  /-- A display block names a call only if it has no name. -/
  name : second.toolName = first.toolName ∨ second.toolName = last.toolName ∨
    first.toolName ≠ "" ∧ last.toolName = ""
  input : second.input.normal = first.input.normal ∨
    second.input.normal = last.input.normal
  /-- As long as the second reading has not met the first, it is ahead of it. -/
  progress : second.status = first.status ∨
    second.status = last.status ∧ first.status.rank ≤ second.status.rank ∧
      second.outcome = last.outcome
  requestId : second.requestId = first.requestId ∨ second.requestId = last.requestId
  decision : second.decision = first.decision ∨ second.decision = last.decision
  suggestions : second.suggestions = first.suggestions ∨ second.suggestions = last.suggestions
  outcome : second.outcome = first.outcome ∨ second.outcome = last.outcome
  expanded : second.expanded = first.expanded ∨ second.expanded = last.expanded
  firstFolded : first.Folded
  secondFolded : second.Folded
  lastFolded : last.Folded

namespace Retraced

open Tracker

variable {first second last : ToolCall}

/-- A new call, and the one that the first reading left. -/
theorem of_start {sessionId toolId toolName : String} {input : Json} {seq : Nat}
    (same : second.unmarked = last.unmarked) (folded : last.Folded) :
    Retraced (ToolCall.start sessionId toolId toolName input seq) second last := by
  obtain ⟨toolIds, sessions, names, inputs, statuses, requests, decisions, suggested, outcomes,
    shown, -, -, seqs⟩ := ToolCall.mk.inj same
  have secondFolded : second.Folded := by
    unfold ToolCall.Folded at folded ⊢
    rw [statuses, shown]
    exact folded
  exact
    { identity := by simp [ToolCall.identity, toolIds, sessions, seqs]
      name := Or.inr (Or.inl names)
      input := Or.inr (by rw [inputs])
      progress := Or.inr ⟨statuses, Nat.zero_le _, outcomes⟩
      requestId := Or.inr requests
      decision := Or.inr decisions
      suggestions := Or.inr suggested
      outcome := Or.inr outcomes
      expanded := Or.inr shown
      firstFolded := fun final => by cases final
      secondFolded
      lastFolded := folded }

theorem refl {call : ToolCall} (folded : call.Folded) : Retraced call call call where
  identity := rfl
  name := Or.inl rfl
  input := Or.inl rfl
  progress := Or.inl rfl
  requestId := Or.inl rfl
  decision := Or.inl rfl
  suggestions := Or.inl rfl
  outcome := Or.inl rfl
  expanded := Or.inl rfl
  firstFolded := folded
  secondFolded := folded
  lastFolded := folded

variable (retraced : Retraced first second last)
include retraced

/-- Where the second reading has not met the first, it is ahead of it. -/
theorem ahead (different : second.status ≠ first.status) :
    second.status = last.status ∧ first.status.rank ≤ second.status.rank ∧
      second.outcome = last.outcome :=
  retraced.progress.resolve_left different

theorem rank_le : first.status.rank ≤ second.status.rank := by
  rcases retraced.progress with same | ⟨-, behind, -⟩
  · exact Nat.le_of_eq (congrArg ToolStatus.rank same.symm)
  · exact behind

theorem named (toolUse : ToolUse) :
    Retraced (nameAs toolUse first) (nameAs toolUse second) last := by
  obtain ⟨input, same, firstNamed⟩ := nameAs_eq toolUse first
  obtain ⟨input', same', secondNamed⟩ := nameAs_eq toolUse second
  rw [firstNamed, secondNamed]
  exact { retraced with
    name := Or.inl rfl
    input := Or.inl (same'.trans same.symm)
    firstFolded := retraced.firstFolded
    secondFolded := retraced.secondFolded }

/-- A request.  The first reading may open a card that the second one leaves alone only if
that card is open, or the tool use is finished. -/
theorem asked (request : PermissionRequest)
    (meets : isUnanswered first = true → first.expanded = false → second.status ≠ .executing) :
    Retraced (askFor request first) (askFor request second) last := by
  have suggestions : (if request.suggestions.isEmpty then second.suggestions
        else request.suggestions) =
      (if request.suggestions.isEmpty then first.suggestions else request.suggestions) ∨
      (if request.suggestions.isEmpty then second.suggestions else request.suggestions) =
        last.suggestions := by
    split
    · exact retraced.suggestions
    · exact Or.inl rfl
  cases early : isUnanswered first with
  | false =>
      have late : isUnanswered second = false := by
        have order := retraced.rank_le
        rw [← Bool.not_eq_true, isUnanswered_iff_rank] at early ⊢
        omega
      rw [askFor_of_answered early, askFor_of_answered late]
      exact { retraced with
        requestId := Or.inl rfl
        suggestions
        firstFolded := retraced.firstFolded
        secondFolded := retraced.secondFolded }
  | true =>
      have opened : ∀ {expanded}, ToolStatus.permissionRequired.isTerminal = true →
          expanded = false := fun final => by cases final
      cases early' : isUnanswered second with
      | true =>
          rw [askFor_of_unanswered early, askFor_of_unanswered early']
          exact { retraced with
            requestId := Or.inl rfl
            suggestions
            progress := Or.inl rfl
            expanded := Or.inl rfl
            firstFolded := opened
            secondFolded := opened }
      | false =>
          have different : second.status ≠ first.status := by
            intro same
            unfold isUnanswered at early early'
            rw [same, early] at early'
            cases early'
          obtain ⟨statuses, order, outcomes⟩ := retraced.ahead different
          have past : 1 < second.status.rank := by
            rw [← Bool.not_eq_true, isUnanswered_iff_rank] at early'
            omega
          rw [askFor_of_unanswered early, askFor_of_answered early']
          exact { retraced with
            requestId := Or.inl rfl
            suggestions
            progress := Or.inr ⟨statuses, Nat.le_of_lt past, outcomes⟩
            expanded := by
              cases shown : first.expanded with
              | true => exact shown ▸ retraced.expanded
              | false =>
                  have final := ToolStatus.isTerminal_of_past past (meets early shown)
                  exact Or.inr ((retraced.secondFolded final).trans
                    (retraced.lastFolded (statuses ▸ final)).symm)
            firstFolded := opened
            secondFolded := retraced.secondFolded }

/-- An answer that reaches the call both times. -/
theorem answered (response : PermissionResponse) :
    Retraced (answerWith response first) (answerWith response second) last := by
  cases final : first.status.isTerminal with
  | true =>
      have final' : second.status.isTerminal = true := by
        have order := retraced.rank_le
        rw [ToolStatus.isTerminal_iff_rank] at final ⊢
        omega
      rw [answerWith_of_finished final, answerWith_of_finished final']
      exact { retraced with
        requestId := Or.inl rfl
        decision := Or.inl rfl
        firstFolded := retraced.firstFolded
        secondFolded := retraced.secondFolded }
  | false =>
      cases final' : second.status.isTerminal with
      | false =>
          cases decided : response.decision with
          | allow =>
              rw [answerWith_of_allow final decided, answerWith_of_allow final' decided]
              exact { retraced with
                requestId := Or.inl rfl
                decision := Or.inl rfl
                progress := Or.inl rfl
                firstFolded := fun final => by cases final
                secondFolded := fun final => by cases final }
          | deny =>
              rw [answerWith_of_deny final decided, answerWith_of_deny final' decided]
              exact { retraced with
                requestId := Or.inl rfl
                decision := Or.inl rfl
                progress := Or.inl rfl
                outcome := Or.inl rfl
                expanded := Or.inl rfl
                firstFolded := fun _ => rfl
                secondFolded := fun _ => rfl }
      | true =>
          have different : second.status ≠ first.status := by
            intro same
            rw [same, final] at final'
            cases final'
          obtain ⟨statuses, -, outcomes⟩ := retraced.ahead different
          have top := (ToolStatus.isTerminal_iff_rank _).1 final'
          rw [answerWith_of_finished final']
          cases decided : response.decision with
          | allow =>
              rw [answerWith_of_allow final decided]
              exact { retraced with
                requestId := Or.inl rfl
                decision := Or.inl rfl
                progress := Or.inr ⟨statuses, Nat.le_of_succ_le top, outcomes⟩
                firstFolded := fun final => by cases final
                secondFolded := retraced.secondFolded }
          | deny =>
              rw [answerWith_of_deny final decided]
              exact { retraced with
                requestId := Or.inl rfl
                decision := Or.inl rfl
                progress := Or.inr ⟨statuses, top, outcomes⟩
                outcome := Or.inr outcomes
                expanded := Or.inl (retraced.secondFolded final')
                firstFolded := fun _ => rfl
                secondFolded := retraced.secondFolded }

theorem finished (result : ToolResult) :
    Retraced (finishWith result first) (finishWith result second) last :=
  { retraced with
    progress := Or.inl rfl
    outcome := Or.inl rfl
    expanded := Or.inl rfl
    firstFolded := fun _ => rfl
    secondFolded := fun _ => rfl }

/-- An event.  The text of a denial is written only where there is no outcome. -/
theorem assigned (event : ToolEvent)
    (kept : first.outcome.isSome = true → last.outcome.isSome = true) :
    Retraced (assignEvent event first) (assignEvent event second) last := by
  have folded : event.status.isTerminal = true → (!event.status.isTerminal) = false :=
    fun final => by rw [final]; rfl
  rw [assignEvent_eq, assignEvent_eq]
  exact { retraced with
    name := Or.inl rfl
    input := by
      cases event.brought with
      | none => exact retraced.input
      | some input => exact Or.inl rfl
    progress := Or.inl rfl
    requestId := by
      cases event.asked with
      | none => exact retraced.requestId
      | some requestId => exact Or.inl rfl
    decision := by
      cases event.decided with
      | none => exact retraced.decision
      | some decision => exact Or.inl rfl
    suggestions := by
      cases event.suggested with
      | none => exact retraced.suggestions
      | some suggestions => exact Or.inl rfl
    outcome := by
      cases event.outcome with
      | some outcome => exact Or.inl rfl
      | none =>
          rcases retraced.outcome with same | left
          · rw [same]
            exact Or.inl rfl
          · rw [left]
            cases still : last.outcome with
            | some outcome => exact Or.inr rfl
            | none =>
                have none : first.outcome = none := by
                  rw [still] at kept
                  simpa using kept
                rw [none]
                exact Or.inl rfl
    expanded := Or.inl rfl
    firstFolded := folded
    secondFolded := folded }

/-- A state of a display block. -/
theorem displayed (tool : DisplayedTool) :
    Retraced (shownAs tool first) (shownAs tool second) last := by
  have folded : ∀ call : ToolCall, (shownAs tool call).Folded := fun call final => if_pos final
  refine { retraced with
    name := ?name
    progress := Or.inl rfl
    requestId := ?requestId
    expanded := ?expanded
    firstFolded := folded first
    secondFolded := folded second }
  case name =>
    have named : ∀ call : ToolCall, (shownAs tool call).toolName =
        if call.toolName = "" then tool.toolName.getD "" else call.toolName := by
      intro call
      unfold shownAs
      by_cases unnamed : call.toolName = "" <;> simp [unnamed]
    rw [named, named]
    rcases retraced.name with same | left | ⟨kept, lost⟩
    · rw [same]
      exact Or.inl rfl
    · rw [left]
      by_cases unnamed : last.toolName = ""
      · by_cases unnamed' : first.toolName = ""
        · rw [if_pos unnamed, if_pos unnamed']
          exact Or.inl rfl
        · rw [if_neg unnamed']
          exact Or.inr (Or.inr ⟨unnamed', unnamed⟩)
      · rw [if_neg unnamed]
        exact Or.inr (Or.inl rfl)
    · rw [if_neg kept]
      exact Or.inr (Or.inr ⟨kept, lost⟩)
  case requestId =>
    simp only [shownAs]
    cases tool.requestId with
    | none => exact retraced.requestId
    | some requestId => exact Or.inl rfl
  case expanded =>
    simp only [shownAs]
    split
    · exact Or.inl rfl
    · exact retraced.expanded

/-- A list of orphans. -/
theorem ruled (verdict : Option Orphan) (known known' : Bool) :
    Retraced (ruleOn verdict known first) (ruleOn verdict known' second) last := by
  cases verdict with
  | some orphan =>
      exact { retraced with
        expanded := Or.inl rfl
        firstFolded := fun _ => rfl
        secondFolded := fun _ => rfl }
  | none =>
      cases known <;> cases known' <;>
        exact { retraced with
          firstFolded := retraced.firstFolded
          secondFolded := retraced.secondFolded }

end Retraced

/-- What the second reading shows when the first has ended. -/
theorem Retraced.normal_of_last {second last : ToolCall} (retraced : Retraced last second last)
    (mark : second.mark = last.mark) : second.normal = last.normal := by
  have name : second.toolName = last.toolName := by
    rcases retraced.name with same | same | ⟨kept, lost⟩
    · exact same
    · exact same
    · exact absurd lost kept
  have input := retraced.input.elim id id
  have status : second.status = last.status := retraced.progress.elim id And.left
  have requestId := retraced.requestId.elim id id
  have decision := retraced.decision.elim id id
  have suggestions := retraced.suggestions.elim id id
  have outcome := retraced.outcome.elim id id
  have expanded := retraced.expanded.elim id id
  have identity := retraced.identity
  cases second
  cases last
  simp_all [ToolCall.identity, ToolCall.mark, ToolCall.normal]

/-! ## A tool use in two readings -/

/-- The call of a tool use when messages are read, when they are read again, and at the end of
the first reading.  Before its first sight the first reading has none, and the second has the
one that the first left, but for a verdict. -/
inductive RetracedAt : Option ToolCall → Option ToolCall → Option ToolCall → Prop
  | absent : RetracedAt none none none
  | unseen {second last : ToolCall} (same : second.unmarked = last.unmarked)
      (folded : last.Folded) : RetracedAt none (some second) (some last)
  | seen {first second last : ToolCall} (retraced : Retraced first second last) :
      RetracedAt (some first) (some second) (some last)

namespace Telling

/-- What a telling has to meet in two readings, and what must have become of the call in the
end: what creates a call is no news to the second reading, an answer and a verdict reach the
call both times or not at all, a request opens no card that the second reading leaves closed,
and no outcome is lost. -/
def Meets (first second last : Option ToolCall) : Telling → Prop
  | named _ | finished _ | displayed _ => last.isSome = true
  | asked _ => last.isSome = true ∧ ∀ before again, first = some before → second = some again →
      Tracker.isUnanswered before = true → before.expanded = false → again.status ≠ .executing
  | answered _ => second.isSome = true → first.isSome = true
  | assigned _ => ∃ final, last = some final ∧ ∀ before, first = some before →
      before.outcome.isSome = true → final.outcome.isSome = true
  | ruled verdict _ => verdict.isSome = true → second.isSome = true → first.isSome = true

end Telling

namespace RetracedAt

variable {first second last : Option ToolCall}

/-- What the second reading does not know, the first one never got to know. -/
theorem unmet (retraced : RetracedAt first none last) : last = none := by
  cases retraced
  rfl

/-- A telling that creates a call finds one in the second reading. -/
theorem sight (retraced : RetracedAt first second last) (sessionId toolId name : String)
    (input : Json) (seq : Nat) (known : last.isSome = true) :
    ∃ again final, second = some again ∧ last = some final ∧
      Retraced (first.getD (ToolCall.start sessionId toolId name input seq)) again final := by
  cases retraced with
  | absent => cases known
  | unseen same folded => exact ⟨_, _, rfl, rfl, Retraced.of_start same folded⟩
  | seen retraced => exact ⟨_, _, rfl, rfl, retraced⟩

/-- A list of orphans, which may find a verdict one time and none the other. -/
theorem ruled (retraced : RetracedAt first second last) {verdict : Option Orphan}
    (known known' : Bool)
    (meets : verdict.isSome = true → second.isSome = true → first.isSome = true) :
    RetracedAt (first.map (Tracker.ruleOn verdict known))
      (second.map (Tracker.ruleOn verdict known')) last := by
  cases retraced with
  | absent => exact .absent
  | unseen same folded =>
      cases verdict with
      | some orphan => cases meets rfl rfl
      | none =>
          refine .unseen (Eq.trans ?_ same) folded
          cases known' <;> rfl
  | seen retraced => exact .seen (retraced.ruled verdict known known')

/-- **One telling** in both readings.  The second one has no use for a new call. -/
theorem tell (retraced : RetracedAt first second last) (telling : Telling)
    (meets : telling.Meets first second last) (sessionId toolId : String) (seq : Nat)
    (fresh : String → Json → ToolCall) :
    RetracedAt
      (telling.tell (fun name input => ToolCall.start sessionId toolId name input seq) first)
      (telling.tell fresh second) last := by
  cases telling with
  | named toolUse =>
      obtain ⟨again, final, rfl, rfl, both⟩ :=
        retraced.sight sessionId toolId toolUse.name toolUse.input seq meets
      exact .seen (both.named toolUse)
  | asked request =>
      obtain ⟨known, open'⟩ := meets
      obtain ⟨again, final, rfl, rfl, both⟩ :=
        retraced.sight sessionId toolId request.toolName request.input seq known
      refine .seen (both.asked request fun early closed => ?_)
      cases first with
      | none => cases closed
      | some before => exact open' before again rfl rfl early closed
  | answered response =>
      cases retraced with
      | absent => exact .absent
      | unseen same folded => cases meets rfl
      | seen both => exact .seen (both.answered response)
  | finished result =>
      obtain ⟨again, final, rfl, rfl, both⟩ := retraced.sight sessionId toolId "" .null seq meets
      exact .seen (both.finished result)
  | assigned event =>
      obtain ⟨final, rfl, kept⟩ := meets
      obtain ⟨again, final, rfl, same, both⟩ :=
        retraced.sight sessionId toolId event.toolName event.input seq rfl
      cases same
      refine .seen (both.assigned event fun told => ?_)
      cases first with
      | none => cases told
      | some before => exact kept before rfl told
  | displayed tool =>
      obtain ⟨again, final, rfl, rfl, both⟩ :=
        retraced.sight sessionId toolId (tool.toolName.getD "") .null seq meets
      exact .seen (both.displayed tool)
  | ruled verdict known => exact retraced.ruled known known meets

/-- A change that tells one thing, or nothing. -/
theorem told (retraced : RetracedAt first second last) (telling : Telling) {here : Prop}
    [Decidable here] (meets : here → telling.Meets first second last) (sessionId toolId : String)
    (seq : Nat) (fresh : String → Json → ToolCall) :
    RetracedAt
      ((if here then [telling] else []).foldl
        (Telling.tell fun name input => ToolCall.start sessionId toolId name input seq) first)
      ((if here then [telling] else []).foldl (Telling.tell fresh) second) last := by
  by_cases tells : here
  · rw [if_pos tells, List.foldl_cons, List.foldl_cons]
    exact retraced.tell telling (meets tells) sessionId toolId seq fresh
  · rw [if_neg tells]
    exact retraced

/-- What there is of a call at the end of the second reading. -/
theorem normal_of_last (retraced : RetracedAt last second last)
    (marks : ∀ again final, second = some again → last = some final → again.mark = final.mark) :
    second.map ToolCall.normal = last.map ToolCall.normal := by
  cases retraced with
  | absent => rfl
  | seen both => exact congrArg some (both.normal_of_last (marks _ _ rfl rfl))

end RetracedAt

/-! ## Finished calls stay collapsed -/

/-- Two readings of a call that do not differ tell what becomes of one. -/
theorem Telling.folded_on (telling : Telling) {call : ToolCall} (folded : call.Folded) :
    (telling.on call).Folded := by
  have meets : telling.Meets (some call) (some call) (some call) := by
    cases telling with
    | asked request =>
        refine ⟨rfl, fun before again held held' early _ running => ?_⟩
        cases held
        cases held'
        unfold isUnanswered at early
        rw [running] at early
        cases early
    | assigned event => exact ⟨call, rfl, fun before held told => Option.some_inj.1 held ▸ told⟩
    | answered response => exact fun _ => rfl
    | ruled verdict known => exact fun _ _ => rfl
    | _ => rfl
  have both := (RetracedAt.seen (Retraced.refl folded)).tell telling meets "" "" 0 fun _ _ => call
  rw [Telling.tell_some, Telling.tell_some] at both
  cases both with
  | seen retraced => exact retraced.firstFolded

end SessionSync
