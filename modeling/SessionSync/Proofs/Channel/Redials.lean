import Mathlib.Data.List.Induction
import SessionSync.Proofs.Channel.Attempts
import SessionSync.Proofs.Channel.InStep

/-!
# Dialing again

A slot that was asked for a channel dials by itself until it is closed or gives up.  Each
dial is refused, or opens a socket that ends sooner or later.  The ends are counted from
the last open, or from when the channel was asked for (`endsSinceOpen`).  As long as the
count is allowed the slot waits, longer each time, and dials under the next generation;
the first end beyond it is the last thing that happens (`redials_in_budget`).

The count is the machine's, but the driver goes by it.  One attempt takes a slot that dials
to one that waits or to one that is done (`rests_of_dials`), a wait leads to the next dial
(`holds_retry`), and what is done stays as it is (`run_of_finished`).
-/

set_option autoImplicit false

namespace SessionSync

/-! ## Dials -/

/-- What comes of a dial: it is refused, or a socket opens, brings texts, each at its time,
and ends. -/
inductive DialOutcome where
  | refused
  | opened (now : Nat) (texts : List (String × Nat))

namespace DialOutcome

/-- Whether a socket opens. -/
def isOpened : DialOutcome → Bool
  | .refused => false
  | .opened .. => true

/-- What happens to a slot from the answer to its dial to the end of the attempt. -/
def turns : DialOutcome → List SlotTurn
  | .refused => [.dialed false 0]
  | .opened now texts =>
      .dialed true now :: (texts.map fun text => .receive text.1 text.2) ++ [.dropped]

/-- The number of an end that follows a number of others: an open begins the count anew. -/
def endsAfter (ends : Nat) (outcome : DialOutcome) : Nat :=
  if outcome.isOpened then 1 else ends + 1

theorem one_le_endsAfter (outcome : DialOutcome) (ends : Nat) : 1 ≤ outcome.endsAfter ends := by
  unfold endsAfter
  split <;> omega

theorem endsAfter_le (outcome : DialOutcome) {ends allowed : Nat} (budget : ends ≤ allowed) :
    outcome.endsAfter ends ≤ allowed + 1 := by
  unfold endsAfter
  split <;> omega

/-- Refusals are counted one by one. -/
theorem foldl_refused (count ends : Nat) :
    (List.replicate count refused).foldl endsAfter ends = ends + count := by
  induction count generalizing ends with
  | zero => rfl
  | succ count ih =>
      rw [List.replicate_succ, List.foldl_cons, ih]
      show ends + 1 + count = _
      omega

theorem isOwn_of_mem_turns {outcome : DialOutcome} {turn : SlotTurn}
    (member : turn ∈ outcome.turns) : turn.isOwn = true := by
  cases outcome with
  | refused =>
      rw [List.mem_singleton.1 member]
      rfl
  | opened now texts =>
      rcases List.mem_append.1 member with before | last
      · rcases List.mem_cons.1 before with rfl | received
        · rfl
        · obtain ⟨text, -, rfl⟩ := List.mem_map.1 received
          rfl
      · rw [List.mem_singleton.1 last]
        rfl

end DialOutcome

/-- How many attempts have ended since the channel was asked for or last opened: the refusals
at the end, and one more for the socket that opened before them. -/
def endsSinceOpen (outcomes : List DialOutcome) : Nat :=
  (outcomes.reverse.takeWhile fun outcome => !outcome.isOpened).length +
    if outcomes.any DialOutcome.isOpened then 1 else 0

theorem endsSinceOpen_concat (before : List DialOutcome) (outcome : DialOutcome) :
    endsSinceOpen (before ++ [outcome]) = outcome.endsAfter (endsSinceOpen before) := by
  unfold endsSinceOpen DialOutcome.endsAfter
  rw [List.reverse_concat, List.any_append, List.any_cons, List.any_nil, Bool.or_false]
  cases opens : outcome.isOpened with
  | true => simp [opens]
  | false =>
      rw [List.takeWhile_cons_of_pos (by rw [opens]; rfl), List.length_cons, Bool.or_false]
      simp only [Bool.false_eq_true, if_false]
      omega

/-- The ends can be counted one after another. -/
theorem endsSinceOpen_eq_foldl (outcomes : List DialOutcome) :
    endsSinceOpen outcomes = outcomes.foldl DialOutcome.endsAfter 0 := by
  induction outcomes using List.reverseRecOn with
  | nil => rfl
  | append_singleton before outcome ih =>
      rw [endsSinceOpen_concat, ih, List.foldl_append]
      rfl

/-- Dials one after another, with a wait after each. -/
def redialTurns (outcomes : List DialOutcome) : List SlotTurn :=
  outcomes.flatMap fun outcome => outcome.turns ++ [.retry]

/-- No end is beyond the allowed number, from a number of ends counted before. -/
def WithinBudget (allowed ends : Nat) (outcomes : List DialOutcome) : Prop :=
  ∀ part, part <+: outcomes → part.foldl DialOutcome.endsAfter ends ≤ allowed

theorem withinBudget_nil {allowed ends : Nat} :
    WithinBudget allowed ends [] ↔ ends ≤ allowed := by
  constructor
  · intro within
    exact within [] (List.prefix_refl [])
  · intro budget part start
    rw [List.prefix_nil.1 start]
    exact budget

theorem withinBudget_cons {allowed ends : Nat} {outcome : DialOutcome}
    {later : List DialOutcome} :
    WithinBudget allowed ends (outcome :: later) ↔
      ends ≤ allowed ∧ WithinBudget allowed (outcome.endsAfter ends) later := by
  constructor
  · intro within
    exact ⟨within [] List.nil_prefix, fun part start =>
      within (outcome :: part) ((List.prefix_cons_inj outcome).2 start)⟩
  · intro ⟨budget, within⟩ part start
    rcases List.prefix_cons_iff.1 start with rfl | ⟨rest, rfl, inner⟩
    · exact budget
    · exact within rest inner

theorem WithinBudget.start {allowed ends : Nat} {outcomes : List DialOutcome}
    (within : WithinBudget allowed ends outcomes) : ends ≤ allowed :=
  within [] List.nil_prefix

/-- A slot is asked for a channel, and goes on by itself after each end. -/
def dialTurns (channel : Channel) (outcomes : List DialOutcome) : List SlotTurn :=
  .connect channel :: redialTurns outcomes

theorem redialTurns_cons (outcome : DialOutcome) (later : List DialOutcome) :
    redialTurns (outcome :: later) = (outcome.turns ++ [.retry]) ++ redialTurns later :=
  List.flatMap_cons

theorem isOwn_of_mem_redialTurns {outcomes : List DialOutcome} {turn : SlotTurn}
    (member : turn ∈ redialTurns outcomes) : turn.isOwn = true := by
  obtain ⟨outcome, -, among⟩ := List.mem_flatMap.1 member
  rcases List.mem_append.1 among with inside | last
  · exact DialOutcome.isOwn_of_mem_turns inside
  · rw [List.mem_singleton.1 last]
    rfl

/-- The statuses that are due for dials from a generation on, with a number of ends counted
before: that a dial has opened, and at its end that the slot waits and then dials under
the next generation, or that the attempts are used up. -/
def statusesDue (channel : Channel) (allowed : Nat) :
    (generation ends : Nat) → List DialOutcome → List ChannelEvent
  | _, _, [] => []
  | generation, ends, outcome :: later =>
      (if outcome.isOpened then [.status channel generation .connected] else []) ++
        if outcome.endsAfter ends ≤ allowed then
          .status channel generation (.reconnecting (outcome.endsAfter ends)) ::
            .status channel (generation + 1) .connecting ::
              statusesDue channel allowed (generation + 1) (outcome.endsAfter ends) later
        else [.status channel generation .failed]

namespace RetryPolicy

variable (policy : RetryPolicy)

theorem delayFor_of_pos {attempt : Nat} (counted : 1 ≤ attempt) :
    policy.delayFor attempt =
      min (min (policy.baseDelay * attempt) longestDelay) policy.maxDelay := by
  unfold delayFor
  rw [Nat.max_eq_left counted]

/-- The wait never gets shorter from one attempt to the next. -/
theorem delayFor_le_delayFor {earlier later : Nat} (order : earlier ≤ later) :
    policy.delayFor earlier ≤ policy.delayFor later := by
  have factor : max earlier 1 ≤ max later 1 := by omega
  have product := Nat.mul_le_mul_left policy.baseDelay factor
  unfold delayFor
  omega

end RetryPolicy

namespace Slot

/-! ## One attempt -/

/-- A slot is at a phase of an attempt that counts, with a number of ends counted. -/
structure Holds (slot : Slot) (channel : Channel) (policy : RetryPolicy) (phase : Phase)
    (generation ends : Nat) : Prop where
  active : slot.active = some (channel, phase)
  current : slot.machine.isCurrent generation = true
  attempts : slot.machine.attempts = ends
  policy : slot.machine.policy = policy

/-- A slot has come to the end of an attempt: it waits while the count of ends is allowed,
and else nothing more will happen. -/
structure Rests (slot : Slot) (channel : Channel) (policy : RetryPolicy)
    (generation ends : Nat) : Prop where
  waits : ends ≤ policy.maxAttempts → slot.status = .reconnecting ends ∧
    slot.Holds channel policy (.waiting generation (policy.delayFor ends)) generation ends
  stops : policy.maxAttempts < ends → slot.status = .failed ∧
    slot.active = some (channel, .finished)

section Attempt

variable {slot : Slot} {channel : Channel} {policy : RetryPolicy} {generation ends : Nat}

theorem Holds.wanted {phase : Phase} (holds : slot.Holds channel policy phase generation ends) :
    slot.machine.wantsOpen = true ∧ slot.machine.generation = generation := by
  simpa [ChannelMachine.isCurrent] using holds.current

theorem holds_connect (slot : Slot) (channel : Channel) :
    (slot.connect channel).1.Holds channel slot.machine.policy
      (.dialing (slot.connect channel).1.generation) (slot.connect channel).1.generation 0 where
  active := rfl
  current := by
    simp [connect, Slot.generation, ChannelMachine.isCurrent, ChannelMachine.beginConnect]
  attempts := rfl
  policy := rfl

/-- **The end of an attempt** is counted, and the count decides what becomes of the slot. -/
theorem rests_ended {phase : Phase} (holds : slot.Holds channel policy phase generation ends) :
    (slot.ended channel generation).1.Rests channel policy generation (ends + 1) ∧
      (slot.ended channel generation).2 = [.status channel generation
        (if ends + 1 ≤ policy.maxAttempts then .reconnecting (ends + 1) else .failed)] := by
  obtain ⟨wanted, same⟩ := holds.wanted
  obtain ⟨-, current, rfl, rfl⟩ := holds
  have known : ¬ generation ≠ slot.machine.generation := fun other => other same.symm
  unfold ended ChannelMachine.onClose
  simp only [if_neg known, wanted, Bool.not_true, Bool.false_eq_true, if_false]
  by_cases allowed : slot.machine.attempts + 1 ≤ slot.machine.policy.maxAttempts
  · simp only [if_neg (Nat.not_lt.2 allowed), if_pos allowed]
    refine ⟨⟨fun _ => ⟨rfl, rfl, ?stillCurrent, rfl, rfl⟩, fun beyond => ?beyond⟩, trivial⟩
    case stillCurrent => simp [ChannelMachine.isCurrent, same]
    case beyond => exact absurd allowed (Nat.not_le.2 beyond)
  · simp only [if_pos (Nat.lt_of_not_le allowed), if_neg allowed]
    exact ⟨⟨fun within => absurd within allowed, fun _ => ⟨rfl, rfl⟩⟩, trivial⟩

/-- A dial that is accepted begins the count anew. -/
theorem holds_dialed (holds : slot.Holds channel policy (.dialing generation) generation ends)
    (now : Nat) :
    (slot.turned (.dialed true now)).1.Holds channel policy (.streaming generation) generation 0 ∧
      (slot.turned (.dialed true now)).2.filter ChannelEvent.isStatus =
        [.status channel generation .connected] := by
  obtain ⟨dialing, current, -, rfl⟩ := holds
  unfold turned dialed ChannelMachine.onOpen
  simp only [dialing, current, if_true]
  exact ⟨⟨rfl, current, rfl, rfl⟩, rfl⟩

/-- What an open socket brings leaves the count and reports no status. -/
theorem holds_receive (holds : slot.Holds channel policy (.streaming generation) generation ends)
    (text : String) (now : Nat) :
    (slot.turned (.receive text now)).1.Holds channel policy (.streaming generation) generation
        ends ∧
      (slot.turned (.receive text now)).2.filter ChannelEvent.isStatus = [] := by
  have streaming := holds.active
  unfold turned receive
  simp only [streaming]
  split
  · exact ⟨holds, rfl⟩
  · unfold ChannelMachine.onKeepalive
    simp only [holds.current, if_true]
    exact ⟨⟨rfl, holds.current, holds.attempts, holds.policy⟩, rfl⟩
  · simp only [holds.current, if_true]
    exact ⟨holds, rfl⟩

theorem holds_receives (holds : slot.Holds channel policy (.streaming generation) generation ends)
    (texts : List (String × Nat)) :
    let turns := texts.map fun text => SlotTurn.receive text.1 text.2
    (slot.run turns).Holds channel policy (.streaming generation) generation ends ∧
      (slot.reported turns).filter ChannelEvent.isStatus = [] := by
  induction texts generalizing slot with
  | nil => exact ⟨holds, rfl⟩
  | cons text rest ih =>
      obtain ⟨stays, silent⟩ := holds_receive holds text.1 text.2
      obtain ⟨goesOn, quiet⟩ := ih stays
      refine ⟨goesOn, ?_⟩
      rw [List.map_cons, reported, List.filter_append, silent, List.nil_append]
      exact quiet

theorem turned_dropped (streaming : slot.active = some (channel, .streaming generation)) :
    slot.turned .dropped = slot.ended channel generation := by
  unfold turned Slot.dropped
  rw [streaming]

/-- **One attempt**, from the answer to the dial to the end. -/
theorem rests_of_dials (holds : slot.Holds channel policy (.dialing generation) generation ends)
    (outcome : DialOutcome) :
    (slot.run outcome.turns).Rests channel policy generation (outcome.endsAfter ends) ∧
      (slot.reported outcome.turns).filter ChannelEvent.isStatus =
        (if outcome.isOpened then [.status channel generation .connected] else []) ++
          [.status channel generation
            (if outcome.endsAfter ends ≤ policy.maxAttempts then
              .reconnecting (outcome.endsAfter ends)
            else .failed)] := by
  cases outcome with
  | refused =>
      obtain ⟨rests, told⟩ := rests_ended holds
      have refused : slot.turned (.dialed false 0) = slot.ended channel generation := by
        unfold turned dialed
        simp only [holds.active]
        rfl
      show ((slot.turned (.dialed false 0)).1).Rests _ _ _ _ ∧
        ((slot.turned (.dialed false 0)).2 ++ []).filter _ = _
      rw [refused, told]
      exact ⟨rests, rfl⟩
  | opened now texts =>
      obtain ⟨opened, connected⟩ := holds_dialed holds now
      obtain ⟨streams, quiet⟩ := holds_receives opened texts
      obtain ⟨rests, told⟩ := rests_ended streams
      let received := texts.map fun text => SlotTurn.receive text.1 text.2
      let last := (slot.turned (.dialed true now)).1.run received
      have dropped : last.turned .dropped = last.ended channel generation :=
        turned_dropped streams.active
      have after : slot.run (DialOutcome.opened now texts).turns = (last.turned .dropped).1 := by
        show (slot.turned (.dialed true now)).1.run (received ++ [.dropped]) = _
        rw [run_append]
        rfl
      have reports : slot.reported (DialOutcome.opened now texts).turns =
          (slot.turned (.dialed true now)).2 ++
            ((slot.turned (.dialed true now)).1.reported received ++
              (last.turned .dropped).2) := by
        show _ ++ (slot.turned (.dialed true now)).1.reported (received ++ [.dropped]) = _
        rw [reported_append, reported, reported, List.append_nil]
      rw [after, reports, List.filter_append, List.filter_append, connected, quiet, dropped, told]
      exact ⟨rests, rfl⟩

/-- **A wait leads to the next dial**, under the next generation. -/
theorem holds_retry {delay : Nat}
    (holds : slot.Holds channel policy (.waiting generation delay) generation ends) :
    (slot.turned .retry).1.Holds channel policy (.dialing (generation + 1)) (generation + 1)
        ends ∧
      (slot.turned .retry).2 = [.status channel (generation + 1) .connecting] := by
  obtain ⟨wanted, same⟩ := holds.wanted
  obtain ⟨waiting, current, counted, rfl⟩ := holds
  unfold turned retry ChannelMachine.beginReconnect
  simp only [waiting, current, if_true, same]
  refine ⟨⟨rfl, ?_, counted, rfl⟩, trivial⟩
  simp [ChannelMachine.isCurrent, wanted]

/-- Nothing happens by itself to a slot that is done. -/
theorem turned_of_finished (done : slot.active = some (channel, .finished)) {turn : SlotTurn}
    (own : turn.isOwn = true) : slot.turned turn = (slot, []) := by
  cases turn with
  | dialed accepted now => simp [turned, dialed, done]
  | dropped => simp [turned, Slot.dropped, done]
  | retry => simp [turned, retry, done]
  | receive text now => simp [turned, receive, done]
  | _ => cases own

theorem run_of_finished (done : slot.active = some (channel, .finished)) {turns : List SlotTurn}
    (own : ∀ turn ∈ turns, turn.isOwn = true) :
    slot.run turns = slot ∧ slot.reported turns = [] := by
  induction turns with
  | nil => exact ⟨rfl, rfl⟩
  | cons turn later ih =>
      obtain ⟨same, silent⟩ := ih fun next member => own next (List.mem_cons_of_mem turn member)
      have nothing := turned_of_finished done (own turn List.mem_cons_self)
      rw [run_cons, reported, nothing]
      exact ⟨same, silent⟩

end Attempt

/-! ## All attempts -/

section Attempts

variable {slot : Slot} {channel : Channel} {policy : RetryPolicy} {generation ends : Nat}

/-- An attempt whose end is allowed leads to the next dial. -/
theorem holds_of_allowed (holds : slot.Holds channel policy (.dialing generation) generation ends)
    (outcome : DialOutcome) (allowed : outcome.endsAfter ends ≤ policy.maxAttempts) :
    (slot.run (outcome.turns ++ [.retry])).Holds channel policy (.dialing (generation + 1))
        (generation + 1) (outcome.endsAfter ends) ∧
      (slot.reported (outcome.turns ++ [.retry])).filter ChannelEvent.isStatus =
        (if outcome.isOpened then [.status channel generation .connected] else []) ++
          [.status channel generation (.reconnecting (outcome.endsAfter ends)),
            .status channel (generation + 1) .connecting] := by
  obtain ⟨rests, told⟩ := rests_of_dials holds outcome
  obtain ⟨-, waits⟩ := rests.waits allowed
  obtain ⟨dials, connecting⟩ := holds_retry waits
  rw [run_append, reported_append, List.filter_append, told, if_pos allowed]
  refine ⟨dials, ?_⟩
  rw [reported, connecting, List.append_assoc]
  rfl

/-- An attempt whose end is not allowed is the last. -/
theorem finished_of_not_allowed
    (holds : slot.Holds channel policy (.dialing generation) generation ends)
    (outcome : DialOutcome) (beyond : ¬ outcome.endsAfter ends ≤ policy.maxAttempts) :
    (slot.run (outcome.turns ++ [.retry])).active = some (channel, .finished) ∧
      (slot.reported (outcome.turns ++ [.retry])).filter ChannelEvent.isStatus =
        (if outcome.isOpened then [.status channel generation .connected] else []) ++
          [.status channel generation .failed] := by
  obtain ⟨rests, told⟩ := rests_of_dials holds outcome
  obtain ⟨-, done⟩ := rests.stops (Nat.lt_of_not_le beyond)
  have own : SlotTurn.retry.isOwn = true := rfl
  have nothing := turned_of_finished done own
  rw [run_append, reported_append, List.filter_append, told, if_neg beyond]
  rw [run_cons, run_nil, reported, reported, nothing]
  exact ⟨done, List.append_nil _⟩

/-- **The statuses of dials** are those that are due. -/
theorem statuses_of_dials
    (holds : slot.Holds channel policy (.dialing generation) generation ends)
    (outcomes : List DialOutcome) :
    (slot.reported (redialTurns outcomes)).filter ChannelEvent.isStatus =
      statusesDue channel policy.maxAttempts generation ends outcomes := by
  induction outcomes generalizing slot generation ends with
  | nil => rfl
  | cons outcome later ih =>
      rw [redialTurns_cons, reported_append, List.filter_append, statusesDue]
      by_cases allowed : outcome.endsAfter ends ≤ policy.maxAttempts
      · obtain ⟨dials, told⟩ := holds_of_allowed holds outcome allowed
        rw [told, if_pos allowed, List.append_assoc, ih dials]
        rfl
      · obtain ⟨done, told⟩ := finished_of_not_allowed holds outcome allowed
        have own : ∀ turn ∈ redialTurns later, turn.isOwn = true := fun _ =>
          isOwn_of_mem_redialTurns
        obtain ⟨-, silent⟩ := run_of_finished done own
        rw [told, if_neg allowed, silent]
        exact List.append_nil _

/-- **The course of dials.**  While every end is allowed the slot comes to dial again, each
time under the next generation; once one is not, it is done. -/
theorem course_of_dials
    (holds : slot.Holds channel policy (.dialing generation) generation ends)
    (budget : ends ≤ policy.maxAttempts) (outcomes : List DialOutcome) :
    (WithinBudget policy.maxAttempts ends outcomes →
        (slot.run (redialTurns outcomes)).Holds channel policy
          (.dialing (generation + outcomes.length)) (generation + outcomes.length)
          (outcomes.foldl DialOutcome.endsAfter ends)) ∧
      (¬ WithinBudget policy.maxAttempts ends outcomes →
        (slot.run (redialTurns outcomes)).active = some (channel, .finished)) := by
  induction outcomes generalizing slot generation ends with
  | nil => exact ⟨fun _ => holds, fun beyond => absurd (withinBudget_nil.2 budget) beyond⟩
  | cons outcome later ih =>
      rw [redialTurns_cons, run_append, withinBudget_cons, List.length_cons, List.foldl_cons]
      by_cases allowed : outcome.endsAfter ends ≤ policy.maxAttempts
      · obtain ⟨dials, -⟩ := holds_of_allowed holds outcome allowed
        obtain ⟨goesOn, stops⟩ := ih dials allowed
        rw [show generation + (later.length + 1) = generation + 1 + later.length by omega]
        exact ⟨fun within => goesOn within.2, fun beyond => stops fun within =>
          beyond ⟨budget, within⟩⟩
      · obtain ⟨done, -⟩ := finished_of_not_allowed holds outcome allowed
        have own : ∀ turn ∈ redialTurns later, turn.isOwn = true := fun _ =>
          isOwn_of_mem_redialTurns
        obtain ⟨same, -⟩ := run_of_finished done own
        refine ⟨fun within => absurd within.2.start allowed, fun _ => ?_⟩
        rw [same]
        exact done

/-- Whatever is reported on the way is of the generation that the slot then has. -/
theorem generation_of_dials {outcomes : List DialOutcome} {earlier later : List SlotTurn}
    {turn : SlotTurn} (split : dialTurns channel outcomes = earlier ++ turn :: later) :
    ∀ event ∈ ((slot.run earlier).turned turn).2,
      event.generation = ((slot.run earlier).turned turn).1.generation := by
  intro event told
  cases earlier with
  | nil =>
      cases split
      rw [List.mem_singleton.1 told]
      rfl
  | cons begun between =>
      obtain ⟨rfl, rest⟩ := List.cons.inj split
      have own : ∀ next ∈ between ++ turn :: later, next.isOwn = true := by
        intro next member
        have among : next ∈ redialTurns outcomes := rest ▸ member
        exact isOwn_of_mem_redialTurns among
      have inStep : (slot.run (.connect channel :: between)).InStep :=
        (inStep_connect slot channel).run fun next member =>
          own next (List.mem_append_left _ member)
      exact inStep.generation_of_told
        (own turn (List.mem_append_right _ List.mem_cons_self)) event told

end Attempts

/-! ## Every run -/

/-- **Dialing again stays within the budget.**  Let a slot be asked for a channel, with a
policy that leaves room for one attempt more in 32 bits, and let nobody close it.  Then,
whatever comes of each dial:

The statuses are that it connects, then those that are due, and each event is of the
generation that the slot has when it reports it.  As long as the ends are within the budget,
the next end is counted; the count fits 32 bits.  If it is allowed, the slot waits for the
base delay times the count, at most for the maximum, and then dials under the next
generation.  If not, it is one above the allowed number, the slot has failed, and nothing
more happens by itself.  No wait is shorter than one for a smaller count, and when every
dial is refused from some point on, the slot is done after one refusal more than allowed. -/
theorem redials_in_budget (slot : Slot) (channel : Channel)
    (room : slot.machine.policy.maxAttempts < halfWordMax) :
    let policy := slot.machine.policy
    let first := (slot.connect channel).1.generation
    (∀ outcomes,
      (slot.reported (dialTurns channel outcomes)).filter ChannelEvent.isStatus =
        .status channel first .connecting ::
          statusesDue channel policy.maxAttempts first 0 outcomes) ∧
    (∀ outcomes earlier turn later, dialTurns channel outcomes = earlier ++ turn :: later →
      ∀ event ∈ ((slot.run earlier).turned turn).2,
        event.generation = ((slot.run earlier).turned turn).1.generation) ∧
    (∀ before outcome,
      (∀ part, part <+: before → endsSinceOpen part ≤ policy.maxAttempts) →
      let ended := slot.run (dialTurns channel before ++ outcome.turns)
      let ends := endsSinceOpen (before ++ [outcome])
      ends ≤ halfWordMax ∧
      (ends ≤ policy.maxAttempts →
        ended.status = .reconnecting ends ∧
        ended.active = some (channel, .waiting (first + before.length)
          (min (min (policy.baseDelay * ends) RetryPolicy.longestDelay) policy.maxDelay)) ∧
        (ended.turned .retry).1.active =
          some (channel, .dialing (first + before.length + 1))) ∧
      (policy.maxAttempts < ends →
        ends = policy.maxAttempts + 1 ∧ ended.status = .failed ∧
        ended.active = some (channel, .finished) ∧
        ∀ turns : List SlotTurn, (∀ turn ∈ turns, turn.isOwn = true) →
          ended.run turns = ended ∧ ended.reported turns = [])) ∧
    (∀ earlier later, earlier ≤ later → policy.delayFor earlier ≤ policy.delayFor later) ∧
    (∀ before, (slot.run (dialTurns channel
        (before ++ List.replicate (policy.maxAttempts + 1) .refused))).active =
      some (channel, .finished)) := by
  intro policy first
  have holds := holds_connect slot channel
  refine ⟨fun outcomes => ?statuses, fun outcomes earlier turn later split event told => ?dated,
    fun before outcome within => ?attempt,
    fun earlier later order => policy.delayFor_le_delayFor order, fun before => ?ends⟩
  case statuses =>
    have due := statuses_of_dials holds outcomes
    show (ChannelEvent.status channel first .connecting ::
      (slot.connect channel).1.reported (redialTurns outcomes)).filter _ = _
    rw [List.filter_cons_of_pos rfl, due]
  case dated =>
    exact generation_of_dials split event told
  case attempt =>
    intro ended ends
    obtain ⟨dials, -⟩ := course_of_dials holds (Nat.zero_le _) before
    have counted : ends = outcome.endsAfter (endsSinceOpen before) :=
      endsSinceOpen_concat before outcome
    have after : ended = ((slot.connect channel).1.run (redialTurns before)).run outcome.turns :=
      run_append _ _ _
    have budget : WithinBudget policy.maxAttempts 0 before := fun part start =>
      endsSinceOpen_eq_foldl part ▸ within part start
    obtain ⟨rests, -⟩ := rests_of_dials (dials budget) outcome
    rw [← after, ← endsSinceOpen_eq_foldl, ← counted] at rests
    have most : ends ≤ policy.maxAttempts + 1 :=
      counted ▸ outcome.endsAfter_le (within before (List.prefix_refl before))
    refine ⟨Nat.le_trans most room, fun allowed => ?waits, fun beyond => ?stops⟩
    case waits =>
      obtain ⟨status, waits⟩ := rests.waits allowed
      obtain ⟨dialsAgain, -⟩ := holds_retry waits
      have positive : 1 ≤ ends := counted ▸ outcome.one_le_endsAfter _
      refine ⟨status, ?_, dialsAgain.active⟩
      rw [waits.active, RetryPolicy.delayFor_of_pos policy positive]
    case stops =>
      obtain ⟨status, done⟩ := rests.stops beyond
      exact ⟨Nat.le_antisymm most beyond, status, done, fun turns own =>
        run_of_finished done own⟩
  case ends =>
    obtain ⟨-, done⟩ := course_of_dials holds (Nat.zero_le _)
      (before ++ List.replicate (policy.maxAttempts + 1) .refused)
    refine done fun within => ?_
    have all := within _ (List.prefix_refl _)
    rw [List.foldl_append, DialOutcome.foldl_refused] at all
    have passed : policy.maxAttempts <
        before.foldl DialOutcome.endsAfter 0 + (policy.maxAttempts + 1) :=
      Nat.lt_of_lt_of_le (Nat.lt_succ_self _) (Nat.le_add_left _ _)
    exact Nat.lt_irrefl _ (Nat.lt_of_lt_of_le passed all)

/-- One retry is allowed: the socket that opened ends, the slot dials again, and the refusal
is the end beyond the budget. -/
theorem redials_in_budget_of_refused :
    let policy : RetryPolicy :=
      { baseDelay := 1000, maxDelay := 30000, maxAttempts := 1, heartbeatTimeout := 10000 }
    let slot := Slot.new .session policy
    let channel : Channel := .session "s"
    let ended := slot.run (dialTurns channel [.opened 5 []] ++ DialOutcome.refused.turns)
    policy.maxAttempts < halfWordMax ∧
      (slot.reported (dialTurns channel [.opened 5 [], .refused])).filter ChannelEvent.isStatus =
        [.status channel 2 .connecting, .status channel 2 .connected,
          .status channel 2 (.reconnecting 1), .status channel 3 .connecting,
          .status channel 3 .failed] ∧
      ended.status = .failed ∧ ended.reported [.retry, .dropped] = [] ∧
      (slot.run (dialTurns channel [.refused, .refused])).active = some (channel, .finished) := by
  intro policy slot channel ended
  have room : policy.maxAttempts < halfWordMax := by decide +kernel
  obtain ⟨statuses, -, attempts, -, finishes⟩ := redials_in_budget slot channel room
  have within : ∀ part, part <+: [DialOutcome.opened 5 []] → endsSinceOpen part ≤ 1 := by
    intro part start
    rcases List.prefix_cons_iff.1 start with rfl | ⟨rest, rfl, inner⟩
    · exact Nat.zero_le 1
    · rw [List.prefix_nil.1 inner]
      exact Nat.le_refl 1
  obtain ⟨-, -, stops⟩ := attempts [.opened 5 []] .refused within
  obtain ⟨-, failed, -, silent⟩ := stops (by decide)
  have own : ∀ turn ∈ [SlotTurn.retry, SlotTurn.dropped], turn.isOwn = true := by
    simp [SlotTurn.isOwn]
  exact ⟨room, statuses _, failed, (silent _ own).2, finishes []⟩

end Slot

end SessionSync
