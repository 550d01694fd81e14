import SessionSync.Proofs.Channel.Generations

/-!
# The attempts of a channel

A machine keeps five things apart: the status, whether the channel is wanted, the count of
attempts, the time of the last sign of life, and the generation.  Every call changes some of
them, and calls come in any order: a second end of one attempt, an open after an end, a
reconnection that nobody waits for.

The five fit together after every run of calls (`Consistent`), and the generation never
falls (`attempts_in_budget`).  The reason is that only a wanted channel counts attempts and
that giving up, the one call that takes the count past the allowed number, ends the wish in
the same step.
-/

set_option autoImplicit false

namespace SessionSync

/-- Whether there is a connection, or one is being worked for. -/
def ConnectionStatus.isUnderWay : ConnectionStatus → Bool
  | .connecting | .connected | .reconnecting _ => true
  | .disconnected | .failed => false

/-- A call on a machine: the owner of the channel asks for it or gives it up, or a driver
tells of an attempt. -/
inductive MachineCall where
  | connect
  | shutdown
  | driver (call : DriverCall)

namespace ChannelMachine

/-- The machine after a call. -/
def called (machine : ChannelMachine) : MachineCall → ChannelMachine
  | .connect => machine.beginConnect
  | .shutdown => machine.shutdown
  | .driver call => machine.after call

/-- The machine after calls one after another. -/
def run (machine : ChannelMachine) (calls : List MachineCall) : ChannelMachine :=
  calls.foldl called machine

theorem run_append (machine : ChannelMachine) (earlier later : List MachineCall) :
    machine.run (earlier ++ later) = (machine.run earlier).run later := List.foldl_append

/-! ## What fits together -/

/-- The parts of a machine fit together. -/
structure Consistent (machine : ChannelMachine) : Prop where
  wanted : machine.wantsOpen = machine.status.isUnderWay
  /-- A wanted channel has attempts left, or is at its last. -/
  budget : machine.wantsOpen = true → machine.attempts ≤ machine.policy.maxAttempts
  bounded : machine.attempts ≤ machine.policy.maxAttempts + 1
  connected : machine.status = .connected →
    machine.attempts = 0 ∧ machine.lastSeen.isSome = true
  reconnecting : ∀ attempt, machine.status = .reconnecting attempt →
    attempt = machine.attempts ∧ 1 ≤ attempt
  failed : machine.status = .failed → machine.attempts = machine.policy.maxAttempts + 1

theorem consistent_new (policy : RetryPolicy) : (new policy).Consistent where
  wanted := rfl
  budget wanted := nomatch wanted
  bounded := Nat.zero_le _
  connected held := nomatch held
  reconnecting _ held := nomatch held
  failed held := nomatch held

namespace Consistent

variable {machine : ChannelMachine}

/-- Asking for the channel begins the count anew. -/
theorem connect (machine : ChannelMachine) : machine.beginConnect.Consistent where
  wanted := rfl
  budget _ := Nat.zero_le _
  bounded := Nat.zero_le _
  connected held := nomatch held
  reconnecting _ held := nomatch held
  failed held := nomatch held

/-- Giving the channel up leaves the count where it is. -/
theorem shutdown (consistent : machine.Consistent) : machine.shutdown.Consistent where
  wanted := rfl
  budget wanted := nomatch wanted
  bounded := consistent.bounded
  connected held := nomatch held
  reconnecting _ held := nomatch held
  failed held := nomatch held

/-- An attempt that counts is one of a wanted channel. -/
theorem wantsOpen_of_isCurrent {generation : Nat}
    (current : machine.isCurrent generation = true) : machine.wantsOpen = true := by
  simp only [isCurrent, Bool.and_eq_true] at current
  exact current.1

theorem opened (consistent : machine.Consistent) (generation now : Nat) :
    (machine.onOpen generation now).1.Consistent := by
  unfold onOpen
  split
  · rename_i current
    exact
      { wanted := wantsOpen_of_isCurrent current
        budget := fun _ => Nat.zero_le _
        bounded := Nat.zero_le _
        connected := fun _ => ⟨rfl, rfl⟩
        reconnecting := fun _ held => nomatch held
        failed := fun held => nomatch held }
  · exact consistent

theorem keepalive (consistent : machine.Consistent) (generation now : Nat) :
    (machine.onKeepalive generation now).Consistent := by
  unfold onKeepalive
  split
  · exact { consistent with connected := fun held => ⟨(consistent.connected held).1, rfl⟩ }
  · exact consistent

/-- The end of an attempt is counted only while the channel is wanted, and the end that
passes the allowed number is the last one that is. -/
theorem closed (consistent : machine.Consistent) (generation : Nat) :
    (machine.onClose generation).1.Consistent := by
  unfold onClose
  split
  · exact consistent
  · dsimp only
    split
    · rename_i given
      have unwanted : machine.wantsOpen = false := by simpa using given
      exact
        { wanted := unwanted
          budget := consistent.budget
          bounded := consistent.bounded
          connected := fun held => nomatch held
          reconnecting := fun _ held => nomatch held
          failed := fun held => nomatch held }
    · rename_i given
      have wanted : machine.wantsOpen = true := by simpa using given
      have spent := consistent.budget wanted
      split
      · rename_i exhausted
        exact
          { wanted := rfl
            budget := fun held => nomatch held
            bounded := Nat.succ_le_succ spent
            connected := fun held => nomatch held
            reconnecting := fun _ held => nomatch held
            failed := fun _ => Nat.le_antisymm (Nat.succ_le_succ spent) exhausted }
      · rename_i left
        exact
          { wanted := wanted
            budget := fun _ => Nat.le_of_not_lt left
            bounded := Nat.succ_le_succ spent
            connected := fun held => nomatch held
            reconnecting := fun attempt held => by
              cases held
              exact ⟨rfl, Nat.succ_le_succ (Nat.zero_le _)⟩
            failed := fun held => nomatch held }

theorem reconnect (consistent : machine.Consistent) (generation : Nat) :
    (machine.beginReconnect generation).1.Consistent := by
  unfold beginReconnect
  split
  · rename_i current
    have wanted : machine.wantsOpen = true := wantsOpen_of_isCurrent current
    exact
      { wanted := wanted
        budget := consistent.budget
        bounded := consistent.bounded
        connected := fun held => nomatch held
        reconnecting := fun _ held => nomatch held
        failed := fun held => nomatch held }
  · exact consistent

/-- **One call.**  Every call keeps the parts of a machine fitting together. -/
theorem called (consistent : machine.Consistent) (call : MachineCall) :
    (machine.called call).Consistent := by
  cases call with
  | connect => exact Consistent.connect machine
  | shutdown => exact consistent.shutdown
  | driver call =>
      cases call with
      | opened generation now => exact consistent.opened generation now
      | keepalive generation now => exact consistent.keepalive generation now
      | closed generation => exact consistent.closed generation
      | reconnect generation => exact consistent.reconnect generation

theorem run (consistent : machine.Consistent) (calls : List MachineCall) :
    (machine.run calls).Consistent := by
  induction calls generalizing machine with
  | nil => exact consistent
  | cons call rest ih => exact ih (consistent.called call)

end Consistent

/-! ## Policy and generation over calls -/

section Calls

variable (machine : ChannelMachine)

@[simp] theorem policy_called (call : MachineCall) :
    (machine.called call).policy = machine.policy := by
  cases call with
  | connect => rfl
  | shutdown => rfl
  | driver call =>
      cases call with
      | opened generation now =>
          show (machine.onOpen generation now).1.policy = machine.policy
          unfold onOpen
          split <;> rfl
      | keepalive generation now =>
          show (machine.onKeepalive generation now).policy = machine.policy
          unfold onKeepalive
          split <;> rfl
      | closed generation =>
          show (machine.onClose generation).1.policy = machine.policy
          unfold onClose
          split
          · rfl
          · dsimp only
            split
            · rfl
            · split <;> rfl
      | reconnect generation =>
          show (machine.beginReconnect generation).1.policy = machine.policy
          unfold beginReconnect
          split <;> rfl

@[simp] theorem policy_run (calls : List MachineCall) :
    (machine.run calls).policy = machine.policy := by
  induction calls generalizing machine with
  | nil => rfl
  | cons call rest ih => exact (ih (machine.called call)).trans (machine.policy_called call)

/-- A call leaves the generation or takes it to the next. -/
theorem generation_called (call : MachineCall) :
    (machine.called call).generation = machine.generation ∨
      (machine.called call).generation = machine.generation + 1 := by
  cases call with
  | connect => exact Or.inr rfl
  | shutdown => exact Or.inr rfl
  | driver call =>
      cases call with
      | opened generation now => exact Or.inl (machine.generation_onOpen generation now)
      | keepalive generation now => exact Or.inl (machine.generation_onKeepalive generation now)
      | closed generation => exact Or.inl (machine.generation_onClose generation)
      | reconnect generation =>
          show (machine.beginReconnect generation).1.generation = _ ∨
            (machine.beginReconnect generation).1.generation = _
          rcases machine.beginReconnect_cases generation with stale | ⟨next, begun, higher⟩
          · rw [stale]
            exact Or.inl rfl
          · rw [begun]
            exact Or.inr higher

/-- The generation never falls, and it rises by one at most with each call. -/
theorem generation_run (calls : List MachineCall) :
    machine.generation ≤ (machine.run calls).generation ∧
      (machine.run calls).generation ≤ machine.generation + calls.length := by
  induction calls generalizing machine with
  | nil => exact ⟨Nat.le_refl _, Nat.le_refl _⟩
  | cons call rest ih =>
      obtain ⟨above, below⟩ := ih (machine.called call)
      have after : machine.run (call :: rest) = (machine.called call).run rest := rfl
      rw [after, List.length_cons]
      rcases machine.generation_called call with same | next
      · omega
      · omega

end Calls

/-! ## Every run -/

/-- **Attempts stay within the budget.**  Let a machine be called in any way, with a policy
that leaves room for one attempt more in 32 bits.  The channel is wanted exactly while it is
connecting, connected or reconnecting; a connected one has no attempt counted and was seen; a
reconnecting one shows the count, which is at least one and allowed; one that has failed has
counted one attempt too many, and none ever counts more, so the count fits 32 bits.  And
whatever calls follow, the generation does not fall, nor rise faster than the calls come. -/
theorem attempts_in_budget {policy : RetryPolicy} (room : policy.maxAttempts < halfWordMax)
    (earlier later : List MachineCall) :
    let machine := (new policy).run earlier
    (machine.wantsOpen = true ↔ machine.status = .connecting ∨ machine.status = .connected ∨
        ∃ attempt, machine.status = .reconnecting attempt) ∧
      (machine.status = .connected →
        machine.attempts = 0 ∧ machine.lastSeen.isSome = true) ∧
      (∀ attempt, machine.status = .reconnecting attempt →
        attempt = machine.attempts ∧ 1 ≤ attempt ∧ attempt ≤ policy.maxAttempts) ∧
      (machine.status = .failed → machine.attempts = policy.maxAttempts + 1) ∧
      machine.attempts ≤ policy.maxAttempts + 1 ∧ machine.attempts ≤ halfWordMax ∧
      machine.generation ≤ (machine.run later).generation ∧
      (machine.run later).generation ≤ machine.generation + later.length := by
  intro machine
  have consistent : machine.Consistent := (consistent_new policy).run earlier
  have same : machine.policy = policy := policy_run (new policy) earlier
  have bounded := consistent.bounded
  rw [same] at bounded
  refine ⟨?wanted, consistent.connected, fun attempt held => ?reconnecting, fun held => ?failed,
    bounded, Nat.le_trans bounded room, machine.generation_run later⟩
  case wanted =>
    rw [consistent.wanted]
    cases machine.status <;> simp [ConnectionStatus.isUnderWay]
  case reconnecting =>
    obtain ⟨counted, first⟩ := consistent.reconnecting attempt held
    have wanted : machine.wantsOpen = true := by rw [consistent.wanted, held]; rfl
    have allowed := consistent.budget wanted
    rw [same, ← counted] at allowed
    exact ⟨counted, first, allowed⟩
  case failed =>
    rw [← same]
    exact consistent.failed held

/-- One retry is allowed: the first end is followed by it, and its end, reported twice, by
nothing more. -/
def failingCalls : List MachineCall :=
  [.connect, .driver (.opened 1 5), .driver (.closed 1), .driver (.reconnect 1),
    .driver (.closed 2), .driver (.closed 2)]

/-- The second report of the same end finds the channel given up and only says so. -/
theorem attempts_in_budget_of_failing :
    let policy : RetryPolicy :=
      { baseDelay := 1000, maxDelay := 30000, maxAttempts := 1, heartbeatTimeout := 10000 }
    let machine := (new policy).run (failingCalls.take 5)
    policy.maxAttempts < halfWordMax ∧ machine.status = .failed ∧ machine.attempts = 2 ∧
      machine.attempts = policy.maxAttempts + 1 ∧ machine.attempts ≤ halfWordMax ∧
      machine.generation ≤ (machine.run (failingCalls.drop 5)).generation := by
  intro policy machine
  have room : policy.maxAttempts < halfWordMax := by decide +kernel
  have failed : machine.status = .failed := by decide +kernel
  have counted : machine.attempts = 2 := by decide +kernel
  obtain ⟨-, -, -, exhausted, -, fits, kept, -⟩ :=
    attempts_in_budget room (failingCalls.take 5) (failingCalls.drop 5)
  exact ⟨room, failed, counted, exhausted failed, fits, kept⟩

end ChannelMachine

end SessionSync
