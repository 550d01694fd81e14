import SessionSync.Engine.Step

/-!
# Attempts that were superseded

A slot is asked for a channel, closes it, and dials again by itself; every dial has a
generation of its own.  In between, drivers report about their attempts, and a driver may
do so long after its attempt was given up (`SlotTurn.called`).

The generation of a slot never falls, and it rises with every attempt and with every close
(`generation_lt_of_supersedes`).  So a generation that was passed once is never current
again: the machine is deaf to it (`ChannelMachine.Deaf`), and whatever was reported under
it is refused, also what is still waiting to be handled (`superseded_for_good`).
-/

set_option autoImplicit false

namespace SessionSync

/-! ## The machine -/

/-- A call of a driver on the machine of its channel. -/
inductive DriverCall where
  | opened (generation now : Nat)
  | keepalive (generation now : Nat)
  | closed (generation : Nat)
  | reconnect (generation : Nat)

namespace ChannelMachine

variable (machine : ChannelMachine)

/-- The machine after a call of a driver. -/
def after : DriverCall → ChannelMachine
  | .opened generation now => (machine.onOpen generation now).1
  | .keepalive generation now => machine.onKeepalive generation now
  | .closed generation => (machine.onClose generation).1
  | .reconnect generation => (machine.beginReconnect generation).1

@[simp] theorem generation_onOpen (generation now : Nat) :
    (machine.onOpen generation now).1.generation = machine.generation := by
  unfold onOpen
  split <;> rfl

@[simp] theorem generation_onKeepalive (generation now : Nat) :
    (machine.onKeepalive generation now).generation = machine.generation := by
  unfold onKeepalive
  split <;> rfl

@[simp] theorem generation_onClose (generation : Nat) :
    (machine.onClose generation).1.generation = machine.generation := by
  unfold onClose
  split
  · rfl
  · dsimp only
    split
    · rfl
    · split <;> rfl

/-- A reconnection hands out the next generation, or there is none. -/
theorem beginReconnect_cases (generation : Nat) :
    machine.beginReconnect generation = (machine, none) ∨
      ∃ next, machine.beginReconnect generation = (next, some next.generation) ∧
        next.generation = machine.generation + 1 := by
  unfold beginReconnect
  split
  · exact Or.inr ⟨_, rfl, rfl⟩
  · exact Or.inl rfl

/-- The machine takes no notice of a generation: no call about it changes anything, and
each is told so. -/
structure Deaf (generation : Nat) : Prop where
  opened : ∀ now, machine.onOpen generation now = (machine, none)
  keepalive : ∀ now, machine.onKeepalive generation now = machine
  expired : ∀ now, machine.heartbeatExpired generation now = false
  closed : machine.onClose generation = (machine, .ignore)
  reconnect : machine.beginReconnect generation = (machine, none)

/-- The machine is deaf to every generation that it has passed. -/
theorem deaf_of_lt {machine : ChannelMachine} {generation : Nat}
    (passed : generation < machine.generation) : machine.Deaf generation := by
  have other : generation ≠ machine.generation := Nat.ne_of_lt passed
  have stale : machine.isCurrent generation = false := by
    simp [isCurrent, Ne.symm other]
  refine ⟨fun now => ?_, fun now => ?_, fun now => ?_, ?_, ?_⟩
  · simp [onOpen, stale]
  · simp [onKeepalive, stale]
  · simp [heartbeatExpired, stale]
  · simp [onClose, other]
  · simp [beginReconnect, stale]

end ChannelMachine

/-! ## Turns of a slot -/

/-- What happens to a slot: its owner asks for a channel or closes it, the slot's own
driver goes on, or any driver calls the machine. -/
inductive SlotTurn where
  | connect (channel : Channel)
  | close
  | dialed (accepted : Bool) (now : Nat)
  | dropped
  | retry
  | receive (text : String) (now : Nat)
  | called (call : DriverCall)

/-- The generation of the attempt that a phase belongs to. -/
def Phase.generation? : Phase → Option Nat
  | .dialing generation | .streaming generation | .waiting generation _ => some generation
  | .finished => none

/-- The event that a received text is. -/
def Received.news? : Received → Option ChannelEvent
  | .event report => some report
  | _ => none

namespace Slot

/-- The slot after a turn, and what it reports. -/
def turned (slot : Slot) : SlotTurn → Slot × List ChannelEvent
  | .connect channel => slot.connect channel
  | .close => (slot.close, [])
  | .dialed accepted now => slot.dialed accepted now
  | .dropped => slot.dropped
  | .retry => slot.retry
  | .receive text now =>
      ((slot.receive text now).elim slot Prod.fst,
        (slot.receive text now).elim [] fun received => received.2.news?.toList)
  | .called call => ({ slot with machine := slot.machine.after call }, [])

/-- The generation that a turn hands out to a new attempt. -/
def handedOut? (slot : Slot) : SlotTurn → Option Nat
  | .connect channel => some (slot.connect channel).1.generation
  | .retry =>
      match slot.active with
      | some (_, .waiting generation _) => (slot.machine.beginReconnect generation).2
      | _ => none
  | .called (.reconnect generation) => (slot.machine.beginReconnect generation).2
  | _ => none

/-- Whether a turn ends the attempt that is current: the slot is closed, or another attempt
begins. -/
def supersedes (slot : Slot) : SlotTurn → Bool
  | .close => true
  | turn => (slot.handedOut? turn).isSome

/-- The slot after turns one after another. -/
def run (slot : Slot) (turns : List SlotTurn) : Slot :=
  turns.foldl (fun slot turn => (slot.turned turn).1) slot

/-- The generations that turns hand out. -/
def handedOut : Slot → List SlotTurn → List Nat
  | _, [] => []
  | slot, turn :: later => (slot.handedOut? turn).toList ++ handedOut (slot.turned turn).1 later

/-- What a slot reports over turns. -/
def reported : Slot → List SlotTurn → List ChannelEvent
  | _, [] => []
  | slot, turn :: later => (slot.turned turn).2 ++ reported (slot.turned turn).1 later

@[simp] theorem run_nil (slot : Slot) : slot.run [] = slot := rfl

@[simp] theorem run_cons (slot : Slot) (turn : SlotTurn) (later : List SlotTurn) :
    slot.run (turn :: later) = (slot.turned turn).1.run later := rfl

theorem run_append (slot : Slot) (earlier later : List SlotTurn) :
    slot.run (earlier ++ later) = (slot.run earlier).run later := List.foldl_append

theorem reported_append (slot : Slot) (earlier later : List SlotTurn) :
    slot.reported (earlier ++ later) =
      slot.reported earlier ++ (slot.run earlier).reported later := by
  induction earlier generalizing slot with
  | nil => rfl
  | cons turn rest ih =>
      have after := ih (slot.turned turn).1
      rw [List.cons_append, reported, reported, after, List.append_assoc]
      rfl

/-! ## The generation over turns -/

section Turns

variable (slot : Slot)

theorem generation_ended (channel : Channel) (generation : Nat) :
    (slot.ended channel generation).1.generation = slot.generation := by
  have kept := slot.machine.generation_onClose generation
  unfold ended
  dsimp only
  split <;> exact kept

theorem generation_dialed (accepted : Bool) (now : Nat) :
    (slot.dialed accepted now).1.generation = slot.generation := by
  unfold dialed
  split
  · rename_i channel generation dialing
    have kept := slot.machine.generation_onOpen generation now
    split
    · split
      · rename_i opened
        rw [opened] at kept
        exact kept
      · rename_i opened
        rw [opened] at kept
        exact kept
    · exact slot.generation_ended channel generation
  · rfl

theorem generation_dropped : slot.dropped.1.generation = slot.generation := by
  unfold dropped
  split
  · exact slot.generation_ended _ _
  · rfl

theorem generation_receive {text : String} {now : Nat} {next : Slot} {received : Received}
    (brought : slot.receive text now = some (next, received)) :
    next.generation = slot.generation := by
  unfold receive at brought
  split at brought
  · rename_i channel generation streaming
    split at brought
    · cases brought
      rfl
    · cases brought
      exact slot.machine.generation_onKeepalive generation now
    · split at brought
      · cases brought
        rfl
      · cases brought
        rfl
  · cases brought

theorem generation_retry :
    slot.retry.1.generation = (slot.handedOut? .retry).getD slot.generation := by
  obtain ⟨kind, machine, active⟩ := slot
  rcases active with _ | ⟨channel, phase⟩
  · rfl
  cases phase with
  | waiting generation delay =>
      rcases machine.beginReconnect_cases generation with stale | ⟨next, begun, -⟩
      · simp [retry, handedOut?, stale, Slot.generation]
      · simp [retry, handedOut?, begun, Slot.generation]
  | _ => rfl

theorem generation_called (call : DriverCall) :
    (slot.machine.after call).generation =
      (slot.handedOut? (.called call)).getD slot.generation := by
  cases call with
  | opened generation now => exact slot.machine.generation_onOpen generation now
  | keepalive generation now => exact slot.machine.generation_onKeepalive generation now
  | closed generation => exact slot.machine.generation_onClose generation
  | reconnect generation =>
      unfold ChannelMachine.after handedOut?
      rcases slot.machine.beginReconnect_cases generation with stale | ⟨next, begun, -⟩
      · simp [stale, Slot.generation]
      · simp [begun]

/-- **Every generation that is handed out is above the one before it.** -/
theorem lt_of_handedOut? {turn : SlotTurn} {generation : Nat}
    (given : slot.handedOut? turn = some generation) : slot.generation < generation := by
  have above : ∀ scheduled, (slot.machine.beginReconnect scheduled).2 = some generation →
      slot.generation < generation := by
    intro scheduled begins
    rcases slot.machine.beginReconnect_cases scheduled with stale | ⟨next, begun, raised⟩
    · rw [stale] at begins
      cases begins
    · rw [begun] at begins
      cases begins
      exact raised ▸ Nat.lt_succ_self slot.generation
  cases turn with
  | connect channel =>
      cases given
      exact Nat.lt_add_of_pos_right (Nat.zero_lt_two)
  | retry =>
      obtain ⟨kind, machine, active⟩ := slot
      rcases active with _ | ⟨channel, phase⟩
      · cases given
      cases phase with
      | waiting scheduled delay => exact above scheduled given
      | _ => cases given
  | called call =>
      cases call with
      | reconnect scheduled => exact above scheduled given
      | _ => cases given
  | _ => cases given

/-- **The generation after a turn** is the one that was handed out.  Where none was, a close
raises it, and all other turns leave it. -/
theorem generation_turned (turn : SlotTurn) :
    (slot.turned turn).1.generation =
      (slot.handedOut? turn).getD
        (if slot.supersedes turn then slot.generation + 1 else slot.generation) := by
  cases turn with
  | connect channel => rfl
  | close => rfl
  | dialed accepted now => exact slot.generation_dialed accepted now
  | dropped => exact slot.generation_dropped
  | retry =>
      rw [turned, generation_retry]
      cases given : slot.handedOut? .retry <;> simp [supersedes, given]
  | receive text now =>
      rcases brought : slot.receive text now with _ | ⟨next, received⟩
      · simp [turned, handedOut?, supersedes, brought]
      · simpa [turned, handedOut?, supersedes, brought] using slot.generation_receive brought
  | called call =>
      rw [turned, Slot.generation, generation_called]
      cases given : slot.handedOut? (.called call) <;> simp [supersedes, given]

theorem generation_lt_of_supersedes {turn : SlotTurn} (ends : slot.supersedes turn = true) :
    slot.generation < (slot.turned turn).1.generation := by
  rw [generation_turned]
  cases given : slot.handedOut? turn with
  | none =>
      rw [ends]
      exact Nat.lt_succ_self slot.generation
  | some generation => exact slot.lt_of_handedOut? given

theorem generation_le_turned (turn : SlotTurn) :
    slot.generation ≤ (slot.turned turn).1.generation := by
  cases ends : slot.supersedes turn with
  | true => exact Nat.le_of_lt (slot.generation_lt_of_supersedes ends)
  | false =>
      rw [generation_turned, ends]
      cases given : slot.handedOut? turn with
      | none => exact Nat.le_refl _
      | some generation => exact Nat.le_of_lt (slot.lt_of_handedOut? given)

theorem generation_le_run (turns : List SlotTurn) :
    slot.generation ≤ (slot.run turns).generation := by
  induction turns generalizing slot with
  | nil => exact Nat.le_refl _
  | cons turn later ih => exact Nat.le_trans (slot.generation_le_turned turn) (ih _)

/-- **The generations that are handed out over turns increase**, from above the one that the
slot has. -/
theorem pairwise_handedOut (turns : List SlotTurn) :
    (slot.handedOut turns).Pairwise (· < ·) ∧
      ∀ generation ∈ slot.handedOut turns, slot.generation < generation := by
  induction turns generalizing slot with
  | nil => exact ⟨.nil, fun _ none => nomatch none⟩
  | cons turn later ih =>
      obtain ⟨increase, above⟩ := ih (slot.turned turn).1
      have raised := slot.generation_turned turn
      unfold handedOut
      cases given : slot.handedOut? turn with
      | none =>
          refine ⟨increase, fun generation member => ?_⟩
          exact Nat.lt_of_le_of_lt (slot.generation_le_turned turn) (above generation member)
      | some generation =>
          rw [given, Option.getD_some] at raised
          rw [raised] at above
          refine ⟨List.pairwise_cons.2 ⟨above, increase⟩, fun other member => ?_⟩
          have first := slot.lt_of_handedOut? given
          rcases List.mem_cons.1 member with rfl | member
          · exact first
          · exact Nat.lt_trans first (above other member)

/-- Nothing that was handed out is above the generation that the slot has now. -/
theorem le_run_of_handedOut (turns : List SlotTurn) :
    ∀ generation ∈ slot.handedOut turns, generation ≤ (slot.run turns).generation := by
  induction turns generalizing slot with
  | nil => exact fun _ none => nomatch none
  | cons turn later ih =>
      intro generation member
      rcases List.mem_append.1 member with now | after
      · have raised := slot.generation_turned turn
        rw [Option.mem_toList.1 now, Option.getD_some] at raised
        rw [← raised]
        exact generation_le_run _ later
      · exact ih _ generation after

theorem generation_lt_of_supersedes_append {earlier : List SlotTurn} {turn : SlotTurn}
    (ends : (slot.run earlier).supersedes turn = true) (later : List SlotTurn) :
    (slot.run earlier).generation < (slot.run (earlier ++ turn :: later)).generation := by
  rw [run_append, run_cons]
  exact Nat.lt_of_lt_of_le ((slot.run earlier).generation_lt_of_supersedes ends)
    (generation_le_run _ later)

end Turns

/-! ## What is reported -/

/-- No phase of the slot is of a later generation than the machine. -/
def Dated (slot : Slot) : Prop :=
  ∀ channel phase, slot.active = some (channel, phase) →
    ∀ generation ∈ phase.generation?, generation ≤ slot.generation

/-- What a turn leaves: the slot is dated, and no event is of a later generation. -/
def Dates (outcome : Slot × List ChannelEvent) : Prop :=
  outcome.1.Dated ∧ ∀ event ∈ outcome.2, event.generation ≤ outcome.1.generation

section Reports

variable {slot : Slot}

theorem Dated.silent (dated : slot.Dated) : Dates (slot, []) :=
  ⟨dated, fun _ none => nomatch none⟩

theorem dates_enter {machine : ChannelMachine} {channel : Channel} {phase : Phase}
    {events : List ChannelEvent}
    (bounded : ∀ generation ∈ phase.generation?, generation ≤ machine.generation)
    (reported : ∀ event ∈ events, event.generation ≤ machine.generation) :
    Dates ({ slot with machine, active := some (channel, phase) }, events) := by
  refine ⟨fun other another held => ?_, reported⟩
  cases held
  exact bounded

theorem dates_finished (machine : ChannelMachine) (channel : Channel) :
    Dates ({ slot with machine, active := some (channel, .finished) }, []) :=
  dates_enter (fun _ none => nomatch none) fun _ none => nomatch none

theorem dates_ended (channel : Channel) {generation : Nat}
    (bounded : generation ≤ slot.generation) : Dates (slot.ended channel generation) := by
  have kept : generation ≤ (slot.machine.onClose generation).1.generation := by
    rw [ChannelMachine.generation_onClose]
    exact bounded
  unfold ended
  dsimp only
  split
  · exact dates_finished _ channel
  · exact dates_finished _ channel
  · exact dates_enter (fun _ none => nomatch none) (by simpa [ChannelEvent.generation] using kept)
  · exact dates_enter (by simpa [Phase.generation?] using kept)
      (by simpa [ChannelEvent.generation] using kept)

theorem Dated.dialed (dated : slot.Dated) (accepted : Bool) (now : Nat) :
    Dates (slot.dialed accepted now) := by
  unfold Slot.dialed
  split
  · rename_i channel generation dialing
    have bounded : generation ≤ slot.generation := dated channel _ dialing generation rfl
    split
    · have kept : generation ≤ (slot.machine.onOpen generation now).1.generation := by
        rw [ChannelMachine.generation_onOpen]
        exact bounded
      split
      · rename_i opened
        rw [opened] at kept
        exact dates_enter (by simpa [Phase.generation?] using kept)
          (by simpa [ChannelEvent.generation] using kept)
      · exact dates_finished _ channel
    · exact dates_ended channel bounded
  · exact dated.silent

theorem Dated.dropped (dated : slot.Dated) : Dates slot.dropped := by
  unfold Slot.dropped
  split
  · rename_i channel generation streaming
    exact dates_ended channel (dated channel _ streaming generation rfl)
  · exact dated.silent

theorem Dated.retry (dated : slot.Dated) : Dates slot.retry := by
  unfold Slot.retry
  split
  · rename_i channel generation delay waiting
    rcases slot.machine.beginReconnect_cases generation with stale | ⟨next, begun, -⟩
    · rw [stale]
      exact dates_finished _ channel
    · rw [begun]
      exact dates_enter (by simp [Phase.generation?]) (by simp [ChannelEvent.generation])
  · exact dated.silent

theorem Dated.receive (dated : slot.Dated) {text : String} {now : Nat} {next : Slot}
    {received : Received} (brought : slot.receive text now = some (next, received)) :
    Dates (next, received.news?.toList) := by
  unfold Slot.receive at brought
  split at brought
  · rename_i channel generation streaming
    have bounded : generation ≤ slot.generation := dated channel _ streaming generation rfl
    split at brought
    · cases brought
      exact dated.silent
    · cases brought
      refine Dated.silent fun other phase held earlier dates => ?_
      have kept := slot.machine.generation_onKeepalive generation now
      exact Nat.le_trans (dated other phase held earlier dates) (Nat.le_of_eq kept.symm)
    · split at brought
      · cases brought
        refine ⟨dated, fun event reported => ?_⟩
        cases List.mem_singleton.1 reported
        exact bounded
      · cases brought
        exact dated.silent
  · cases brought

/-- One turn keeps a slot dated, and reports nothing of a later generation. -/
theorem Dated.turned (dated : slot.Dated) (turn : SlotTurn) : Dates (slot.turned turn) := by
  cases turn with
  | connect channel =>
      exact dates_enter (by simp [Phase.generation?]) (by simp [ChannelEvent.generation])
  | close => exact Dated.silent fun _ _ closed => nomatch closed
  | dialed accepted now => exact dated.dialed accepted now
  | dropped => exact dated.dropped
  | retry => exact dated.retry
  | receive text now =>
      rcases brought : slot.receive text now with _ | ⟨next, received⟩
      · simpa [Slot.turned, brought] using dated.silent
      · simpa [Slot.turned, brought] using dated.receive brought
  | called call =>
      -- The call may be another driver's: the phase stays, and the generation only rises.
      refine Dated.silent fun channel phase held generation dates => ?_
      exact Nat.le_trans (dated channel phase held generation dates)
        (slot.generation_le_turned (.called call))

/-- **Nothing that was reported is of a later generation** than the slot has now. -/
theorem Dated.reported (dated : slot.Dated) (turns : List SlotTurn) :
    ∀ event ∈ slot.reported turns, event.generation ≤ (slot.run turns).generation := by
  induction turns generalizing slot with
  | nil => exact fun _ none => nomatch none
  | cons turn later ih =>
      obtain ⟨kept, bounded⟩ := dated.turned turn
      intro event member
      rcases List.mem_append.1 member with now | after
      · exact Nat.le_trans (bounded event now) (generation_le_run _ later)
      · exact ih kept event after

theorem dated_new (kind : SlotKind) (policy : RetryPolicy) : (Slot.new kind policy).Dated :=
  fun _ _ unused => nomatch unused

end Reports

/-! ## Refusals -/

theorem accepts_eq_false {slot : Slot} {event : ChannelEvent}
    (other : event.generation < slot.generation ∨ slot.target? ≠ some event.channel) :
    slot.accepts event = false := by
  unfold accepts
  rcases other with passed | elsewhere
  · simp [Nat.ne_of_gt passed]
  · simp [elsewhere]

theorem step_channel_of_refused {engine : Engine} {event : ChannelEvent}
    (refused : (engine.slots.get event.channel.slot).accepts event = false) :
    engine.step (.channel event) = (engine, []) := by
  simp [Engine.step, Engine.handle, Engine.accepts, refused, Engine.waitingCaller]

/-- **Attempts that were superseded are dead for good.**  Over every run of a slot the
generations that are handed out increase.  Once an attempt was superseded, the machine is
deaf to its generation and to all before it; and the slot refuses every event that was
reported until then, every event of such a generation and every event of another channel,
so that an engine with this slot does nothing about it. -/
theorem superseded_for_good (kind : SlotKind) (policy : RetryPolicy) :
    (∀ turns, ((new kind policy).handedOut turns).Pairwise (· < ·)) ∧
      ∀ earlier turn later,
        ((new kind policy).run earlier).supersedes turn = true →
        (∀ generation,
          generation ∈ (new kind policy).handedOut earlier ∨
            generation ≤ ((new kind policy).run earlier).generation →
          ((new kind policy).run (earlier ++ turn :: later)).machine.Deaf generation) ∧
        ∀ event : ChannelEvent,
          event ∈ (new kind policy).reported earlier ∨
            event.generation ≤ ((new kind policy).run earlier).generation ∨
            ((new kind policy).run (earlier ++ turn :: later)).target? ≠ some event.channel →
          ((new kind policy).run (earlier ++ turn :: later)).accepts event = false ∧
            ∀ engine : Engine,
              engine.slots.get event.channel.slot =
                (new kind policy).run (earlier ++ turn :: later) →
              engine.step (.channel event) = (engine, []) := by
  refine ⟨fun turns => ((new kind policy).pairwise_handedOut turns).1, ?_⟩
  intro earlier turn later ends
  have passed := (new kind policy).generation_lt_of_supersedes_append ends later
  constructor
  · intro generation old
    have bounded : generation ≤ ((new kind policy).run earlier).generation := by
      rcases old with given | bounded
      · exact le_run_of_handedOut _ earlier generation given
      · exact bounded
    exact ChannelMachine.deaf_of_lt (Nat.lt_of_le_of_lt bounded passed)
  · intro event old
    have refused : ((new kind policy).run (earlier ++ turn :: later)).accepts event = false := by
      refine accepts_eq_false ?_
      rcases old with queued | bounded | elsewhere
      · have bounded := (dated_new kind policy).reported earlier event queued
        exact Or.inl (Nat.lt_of_le_of_lt bounded passed)
      · exact Or.inl (Nat.lt_of_le_of_lt bounded passed)
      · exact Or.inr elsewhere
    refine ⟨refused, fun engine held => step_channel_of_refused ?_⟩
    rw [held]
    exact refused

/-- A socket opens and drops, and its slot dials again: the machine is deaf to the first
attempt, and the news of its opening comes too late. -/
theorem superseded_for_good_of_redial :
    ((new .ui ⟨1, 8, 3, 90⟩).run [.connect .ui, .dialed true 0, .dropped]).supersedes .retry =
        true ∧
      ((new .ui ⟨1, 8, 3, 90⟩).run
        ([.connect .ui, .dialed true 0, .dropped] ++ [.retry])).machine.Deaf 2 ∧
      ((new .ui ⟨1, 8, 3, 90⟩).run
        ([.connect .ui, .dialed true 0, .dropped] ++ [.retry])).accepts
          (.opened .ui 2 .initial) = false := by
  have redials : ((new .ui ⟨1, 8, 3, 90⟩).run
      [.connect .ui, .dialed true 0, .dropped]).supersedes .retry = true := by decide
  obtain ⟨deaf, refuses⟩ := (superseded_for_good .ui ⟨1, 8, 3, 90⟩).2 _ .retry [] redials
  exact ⟨redials, deaf 2 (Or.inl (by decide)), (refuses _ (Or.inl (by decide))).1⟩

end Slot

end SessionSync
