import SessionSync.Proofs.Channel.Generations

/-!
# A slot and its machine in step

Where a slot is with its connection stands in two places: the phase of what it holds, and
the machine.  Left to its owner and its own driver, a slot keeps the two in step
(`InStep.turned`): the machine still wants the channel and knows its generation until the
attempts are used up, its status is the one of the phase, and a socket is open only after
the machine has opened once.

From this follows what a slot reports: events of the generation that the machine then has
(`InStep.generation_of_told`), nothing but statuses until its first open
(`TurnsInStep.statuses`), and never that it is disconnected (`tells_turned`).
-/

set_option autoImplicit false

namespace SessionSync

/-- Whether a turn is the slot's own: nobody asks for it, and no other driver calls. -/
def SlotTurn.isOwn : SlotTurn → Bool
  | .dialed .. | .dropped | .retry | .receive .. => true
  | .connect _ | .close | .called _ => false

/-- A status of a connection, as against an open socket or a frame. -/
def ChannelEvent.isStatus : ChannelEvent → Bool
  | .status .. => true
  | .opened .. | .frame .. => false

namespace Slot

/-! ## In step -/

/-- What the phase of a slot says of its machine. -/
def PhaseFits (machine : ChannelMachine) : Option (Channel × Phase) → Prop
  | none => machine.status = .disconnected
  | some (_, .dialing generation) =>
      machine.isCurrent generation = true ∧ machine.status = .connecting
  | some (_, .streaming generation) =>
      machine.isCurrent generation = true ∧ machine.status = .connected ∧
        machine.openedOnce = true
  | some (_, .waiting generation _) =>
      machine.isCurrent generation = true ∧ ∃ attempt, machine.status = .reconnecting attempt
  | some (_, .finished) => machine.status = .failed

/-- The slot's phase and its machine are in step. -/
def InStep (slot : Slot) : Prop := PhaseFits slot.machine slot.active

section Steps

variable {slot : Slot}

theorem inStep_new (kind : SlotKind) (policy : RetryPolicy) : (Slot.new kind policy).InStep := rfl

theorem inStep_close (slot : Slot) : slot.close.InStep := rfl

theorem inStep_connect (slot : Slot) (channel : Channel) : (slot.connect channel).1.InStep :=
  ⟨by simp [connect, ChannelMachine.isCurrent, ChannelMachine.beginConnect], rfl⟩

theorem InStep.generation_eq (inStep : slot.InStep) {channel : Channel} {phase : Phase}
    (held : slot.active = some (channel, phase)) :
    ∀ generation ∈ phase.generation?, generation = slot.generation := by
  have same : ∀ generation, slot.machine.isCurrent generation = true →
      generation = slot.generation := by
    intro generation current
    simp only [ChannelMachine.isCurrent, Bool.and_eq_true, beq_iff_eq] at current
    exact current.2.symm
  unfold InStep at inStep
  rw [held] at inStep
  intro generation dated
  cases phase with
  | dialing current =>
      cases dated
      exact same _ inStep.1
  | streaming current =>
      cases dated
      exact same _ inStep.1
  | waiting current delay =>
      cases dated
      exact same _ inStep.1
  | finished => cases dated

theorem InStep.dated (inStep : slot.InStep) : slot.Dated :=
  fun _ _ held generation dated => Nat.le_of_eq (inStep.generation_eq held generation dated)

/-- A slot without a channel is disconnected. -/
theorem InStep.status_of_idle (inStep : slot.InStep) (idle : slot.target? = none) :
    slot.status = .disconnected := by
  have unheld : slot.active = none := Option.map_eq_none_iff.1 idle
  unfold InStep at inStep
  rw [unheld] at inStep
  exact inStep

/-- A slot that is connected has an open socket. -/
theorem InStep.isStreaming_of_connected (inStep : slot.InStep)
    (connected : slot.status = .connected) : slot.isStreaming = true := by
  have status : slot.machine.status = .connected := connected
  unfold InStep at inStep
  unfold isStreaming
  rcases held : slot.active with _ | ⟨channel, phase⟩
  · rw [held] at inStep
    exact absurd (inStep.symm.trans status) (by decide)
  · rw [held] at inStep
    cases phase with
    | streaming generation => rfl
    | dialing generation => exact absurd (inStep.2.symm.trans status) (by decide)
    | waiting generation delay =>
        obtain ⟨-, attempt, waits⟩ := inStep
        exact absurd (waits.symm.trans status) (by simp)
    | finished => exact absurd (inStep.symm.trans status) (by decide)

/-! ## The slot's own turns -/

/-- What a turn leaves and reports: the slot is in step; a slot that was opened stays so, and
one that was not is opened only by the dial that is reported; and before the first open
there are only statuses. -/
structure TurnsInStep (slot : Slot) (outcome : Slot × List ChannelEvent) : Prop where
  inStep : outcome.1.InStep
  opened : slot.machine.openedOnce = true → outcome.1.machine.openedOnce = true
  opens : outcome.1.machine.openedOnce = true → slot.machine.openedOnce = true ∨
    ∃ channel generation kind, slot.active = some (channel, .dialing generation) ∧
      .opened channel generation kind ∈ outcome.2
  statuses : outcome.1.machine.openedOnce = false → ∀ event ∈ outcome.2, event.isStatus = true

theorem InStep.silent (inStep : slot.InStep) : TurnsInStep slot (slot, []) :=
  ⟨inStep, id, Or.inl, fun _ _ none => nomatch none⟩

/-- The machine closes the attempt that is current. -/
theorem inStep_ended {generation : Nat} (channel : Channel)
    (current : slot.machine.isCurrent generation = true) :
    TurnsInStep slot (slot.ended channel generation) := by
  obtain ⟨wanted, same⟩ : slot.machine.wantsOpen = true ∧ slot.machine.generation = generation := by
    simpa [ChannelMachine.isCurrent] using current
  have known : ¬ generation ≠ slot.machine.generation := fun other => other same.symm
  unfold ended ChannelMachine.onClose
  simp only [if_neg known, wanted, Bool.not_true, Bool.false_eq_true, if_false]
  by_cases exhausted : slot.machine.policy.maxAttempts < slot.machine.attempts + 1
  · simp only [if_pos exhausted]
    exact ⟨rfl, id, Or.inl, by simp [ChannelEvent.isStatus]⟩
  · simp only [if_neg exhausted]
    refine ⟨⟨?_, _, rfl⟩, id, Or.inl, by simp [ChannelEvent.isStatus]⟩
    simp [ChannelMachine.isCurrent, same]

theorem InStep.dialed (inStep : slot.InStep) (accepted : Bool) (now : Nat) :
    TurnsInStep slot (slot.dialed accepted now) := by
  unfold Slot.dialed
  split
  · rename_i channel generation dialing
    have current : slot.machine.isCurrent generation = true := by
      unfold InStep at inStep
      rw [dialing] at inStep
      exact inStep.1
    split
    · unfold ChannelMachine.onOpen
      rw [if_pos current]
      refine ⟨⟨current, rfl, rfl⟩, fun _ => rfl, fun _ => Or.inr ?_, fun unopened => nomatch unopened⟩
      exact ⟨channel, generation, _, dialing, List.mem_cons_of_mem _ (List.mem_singleton_self _)⟩
    · exact inStep_ended channel current
  · exact inStep.silent

theorem InStep.dropped (inStep : slot.InStep) : TurnsInStep slot slot.dropped := by
  unfold Slot.dropped
  split
  · rename_i channel generation streaming
    unfold InStep at inStep
    rw [streaming] at inStep
    exact inStep_ended channel inStep.1
  · exact inStep.silent

theorem InStep.retry (inStep : slot.InStep) : TurnsInStep slot slot.retry := by
  unfold Slot.retry
  split
  · rename_i channel generation delay waiting
    have current : slot.machine.isCurrent generation = true := by
      unfold InStep at inStep
      rw [waiting] at inStep
      exact inStep.1
    have wanted : slot.machine.wantsOpen = true := by
      simp only [ChannelMachine.isCurrent, Bool.and_eq_true] at current
      exact current.1
    unfold ChannelMachine.beginReconnect
    rw [if_pos current]
    refine ⟨⟨?_, rfl⟩, id, Or.inl, by simp [ChannelEvent.isStatus]⟩
    simp [ChannelMachine.isCurrent, wanted]
  · exact inStep.silent

theorem openedOnce_of_receive {text : String} {now : Nat} {next : Slot} {received : Received}
    (brought : slot.receive text now = some (next, received)) :
    next.machine.openedOnce = slot.machine.openedOnce := by
  unfold receive at brought
  split at brought
  · split at brought
    · cases brought
      rfl
    · cases brought
      show (slot.machine.onKeepalive _ now).openedOnce = _
      unfold ChannelMachine.onKeepalive
      split <;> rfl
    · split at brought <;> cases brought <;> rfl
  · cases brought

theorem InStep.receive (inStep : slot.InStep) {text : String} {now : Nat} {next : Slot}
    {received : Received} (brought : slot.receive text now = some (next, received)) :
    TurnsInStep slot (next, received.news?.toList) := by
  have opened := openedOnce_of_receive brought
  unfold Slot.receive at brought
  split at brought
  · rename_i channel generation streaming
    have fits := inStep
    unfold InStep at fits
    rw [streaming] at fits
    obtain ⟨current, connected, once⟩ := fits
    have stays : next.InStep := by
      split at brought
      · cases brought
        exact inStep
      · cases brought
        unfold InStep ChannelMachine.onKeepalive
        rw [streaming, if_pos current]
        exact ⟨current, connected, once⟩
      · split at brought <;> cases brought <;> exact inStep
    refine ⟨stays, fun _ => opened.trans once, fun _ => Or.inl once, fun unopened => ?_⟩
    rw [opened, once] at unopened
    cases unopened
  · cases brought

/-- **A slot's own turn keeps it in step.** -/
theorem InStep.turned (inStep : slot.InStep) {turn : SlotTurn} (own : turn.isOwn = true) :
    TurnsInStep slot (slot.turned turn) := by
  cases turn with
  | dialed accepted now => exact inStep.dialed accepted now
  | dropped => exact inStep.dropped
  | retry => exact inStep.retry
  | receive text now =>
      rcases brought : slot.receive text now with _ | ⟨next, received⟩
      · simpa [Slot.turned, brought] using inStep.silent
      · simpa [Slot.turned, brought] using inStep.receive brought
  | _ => cases own

theorem InStep.run (inStep : slot.InStep) {turns : List SlotTurn}
    (own : ∀ turn ∈ turns, turn.isOwn = true) : (slot.run turns).InStep := by
  induction turns generalizing slot with
  | nil => exact inStep
  | cons turn later ih =>
      apply ih (inStep.turned (own turn List.mem_cons_self)).inStep
      intro next member
      exact own next (List.mem_cons_of_mem turn member)

/-! ## What a slot reports -/

theorem generation_of_mem_ended {channel : Channel} {generation : Nat} {event : ChannelEvent}
    (told : event ∈ (slot.ended channel generation).2) : event.generation = generation := by
  unfold ended at told
  dsimp only at told
  split at told
  · cases told
  · cases told
  · rw [List.mem_singleton.1 told]
    rfl
  · rw [List.mem_singleton.1 told]
    rfl

/-- **What a slot reports is of the generation that its machine then has.** -/
theorem InStep.generation_of_told (inStep : slot.InStep) {turn : SlotTurn}
    (own : turn.isOwn = true) :
    ∀ event ∈ (slot.turned turn).2, event.generation = (slot.turned turn).1.generation := by
  intro event told
  cases turn with
  | dialed accepted now =>
      rw [Slot.turned, generation_dialed]
      unfold Slot.turned Slot.dialed at told
      dsimp only at told
      split at told
      · rename_i channel generation dialing
        rw [← inStep.generation_eq dialing generation rfl]
        split at told
        · split at told
          · rcases List.mem_cons.1 told with rfl | opened
            · rfl
            · rw [List.mem_singleton.1 opened]
              rfl
          · cases told
        · exact generation_of_mem_ended told
      · cases told
  | dropped =>
      rw [Slot.turned, generation_dropped]
      unfold Slot.turned Slot.dropped at told
      dsimp only at told
      split at told
      · rename_i channel generation streaming
        rw [← inStep.generation_eq streaming generation rfl]
        exact generation_of_mem_ended told
      · cases told
  | retry =>
      unfold Slot.turned Slot.retry at told ⊢
      dsimp only at told ⊢
      split at told
      · rename_i channel generation delay waiting
        rcases slot.machine.beginReconnect_cases generation with stale | ⟨next, begun, -⟩
        · rw [stale] at told
          cases told
        · rw [begun] at told
          simp only [begun]
          rw [List.mem_singleton.1 told]
          rfl
      · cases told
  | receive text now =>
      rcases brought : slot.receive text now with _ | ⟨next, received⟩
      · simp [Slot.turned, brought] at told
      · simp only [Slot.turned, brought, Option.elim_some] at told ⊢
        rw [slot.generation_receive brought]
        unfold Slot.receive at brought
        split at brought
        · rename_i channel generation streaming
          rw [← inStep.generation_eq streaming generation rfl]
          split at brought
          · cases brought
            cases told
          · cases brought
            cases told
          · split at brought
            · cases brought
              rw [List.mem_singleton.1 told]
              rfl
            · cases brought
              cases told
        · cases brought
  | _ => cases own

/-- What a turn reports is about the channel that the slot then holds, and never says that
it is disconnected. -/
def Tells (outcome : Slot × List ChannelEvent) : Prop :=
  ∀ event ∈ outcome.2, outcome.1.target? = some event.channel ∧
    ∀ channel generation, event ≠ .status channel generation .disconnected

theorem tells_nothing (slot : Slot) : Tells (slot, []) := fun _ none => nomatch none

theorem tells_ended (slot : Slot) (channel : Channel) (generation : Nat) :
    Tells (slot.ended channel generation) := by
  unfold ended Tells
  dsimp only
  split <;> simp [target?, ChannelEvent.channel]

theorem tells_dialed (slot : Slot) (accepted : Bool) (now : Nat) :
    Tells (slot.dialed accepted now) := by
  unfold dialed
  split
  · split
    · split
      · simp [Tells, target?, ChannelEvent.channel]
      · exact tells_nothing _
    · exact tells_ended slot _ _
  · exact tells_nothing slot

theorem tells_dropped (slot : Slot) : Tells slot.dropped := by
  unfold dropped
  split
  · exact tells_ended slot _ _
  · exact tells_nothing slot

theorem tells_retry (slot : Slot) : Tells slot.retry := by
  unfold retry
  split
  · split
    · simp [Tells, target?, ChannelEvent.channel]
    · exact tells_nothing _
  · exact tells_nothing slot

theorem tells_receive {text : String} {now : Nat} {next : Slot} {received : Received}
    (brought : slot.receive text now = some (next, received)) :
    Tells (next, received.news?.toList) := by
  unfold receive at brought
  split at brought
  · rename_i channel generation streaming
    split at brought
    · cases brought
      exact tells_nothing _
    · cases brought
      exact tells_nothing _
    · split at brought
      · cases brought
        simp [Tells, Received.news?, target?, streaming, ChannelEvent.channel]
      · cases brought
        exact tells_nothing _
  · cases brought

/-- **No slot ever reports that it is disconnected**, or anything about a channel that it
does not hold. -/
theorem tells_turned (slot : Slot) (turn : SlotTurn) : Tells (slot.turned turn) := by
  cases turn with
  | connect channel => simp [Tells, turned, connect, target?, ChannelEvent.channel]
  | dialed accepted now => exact slot.tells_dialed accepted now
  | dropped => exact slot.tells_dropped
  | retry => exact slot.tells_retry
  | receive text now =>
      rcases brought : slot.receive text now with _ | ⟨next, received⟩
      · simpa [turned, brought] using slot.tells_nothing
      · simpa [turned, brought] using tells_receive brought
  | _ => exact tells_nothing _

end Steps

end Slot

end SessionSync
