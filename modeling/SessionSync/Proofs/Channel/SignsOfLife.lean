import Mathlib.Data.List.Induction
import SessionSync.Proofs.Channel.Attempts

/-!
# Signs of life

A machine answers two questions about its past: whether an open socket has been silent for
too long, and whether an open is the first since the channel was asked for.  It keeps one
time and one mark for that, and closes, new attempts and late reports about earlier ones
clear them or leave them.

Both answers are right about everything that was called since the machine was new
(`answers_follow_history`).  While the channel is connected the time is that of the last
sign of life that was accepted (`lastSeen_run`), for only an accepted open makes it
connected and every end of the attempt makes it something else.  The mark stands exactly
if an open was accepted and the channel not asked for anew since (`openedOnce_run_iff`).
-/

set_option autoImplicit false

namespace SessionSync.ChannelMachine

/-! ## What is accepted -/

/-- The time of the sign of life that a machine accepts from a call: the attempt that
counts has opened its socket, or the other side has shown that it is there. -/
def sign? (machine : ChannelMachine) : MachineCall → Option Nat
  | .driver (.opened generation now) | .driver (.keepalive generation now) =>
      if machine.isCurrent generation then some now else none
  | _ => none

/-- Whether a machine accepts a call as an open. -/
def opens (machine : ChannelMachine) : MachineCall → Bool
  | .driver (.opened generation _) => machine.isCurrent generation
  | _ => false

/-- The times of the signs of life that are accepted over calls, in the order of the
calls. -/
def signs : ChannelMachine → List MachineCall → List Nat
  | _, [] => []
  | machine, call :: later => (machine.sign? call).toList ++ signs (machine.called call) later

/-- An open was accepted, and the channel was not asked for anew since. -/
def OpenedSince (machine : ChannelMachine) (calls : List MachineCall) : Prop :=
  ∃ earlier call later, calls = earlier ++ call :: later ∧
    (machine.run earlier).opens call = true ∧ MachineCall.connect ∉ later

theorem run_concat (machine : ChannelMachine) (calls : List MachineCall) (last : MachineCall) :
    machine.run (calls ++ [last]) = (machine.run calls).called last :=
  machine.run_append calls [last]

theorem signs_concat (machine : ChannelMachine) (calls : List MachineCall) (last : MachineCall) :
    machine.signs (calls ++ [last]) =
      machine.signs calls ++ ((machine.run calls).sign? last).toList := by
  induction calls generalizing machine with
  | nil => exact List.append_nil _
  | cons call rest ih =>
      have later := ih (machine.called call)
      rw [List.cons_append, signs, signs, later, List.append_assoc]
      rfl

theorem not_openedSince_nil (machine : ChannelMachine) : ¬ machine.OpenedSince [] := by
  rintro ⟨earlier, call, later, split, -⟩
  simp at split

theorem openedSince_concat {machine : ChannelMachine} {calls : List MachineCall}
    {last : MachineCall} :
    machine.OpenedSince (calls ++ [last]) ↔
      (machine.run calls).opens last = true ∨ machine.OpenedSince calls ∧ last ≠ .connect := by
  constructor
  · rintro ⟨earlier, call, later, split, opened, since⟩
    rcases List.eq_nil_or_concat later with rfl | ⟨before, final, rfl⟩
    · obtain ⟨rfl, same⟩ := List.append_inj' split rfl
      cases same
      exact Or.inl opened
    · rw [List.concat_eq_append, ← List.cons_append, ← List.append_assoc] at split
      obtain ⟨rfl, same⟩ := List.append_inj' split rfl
      cases same
      rw [List.concat_eq_append, List.mem_append, not_or, List.mem_singleton] at since
      exact Or.inr ⟨⟨earlier, call, before, rfl, opened, since.1⟩, Ne.symm since.2⟩
  · rintro (opened | ⟨⟨earlier, call, later, rfl, opened, since⟩, other⟩)
    · exact ⟨calls, last, [], rfl, opened, List.not_mem_nil⟩
    · refine ⟨earlier, call, later ++ [last], by simp, opened, ?_⟩
      rw [List.mem_append, not_or, List.mem_singleton]
      exact ⟨since, Ne.symm other⟩

/-! ## One call -/

section Called

variable (machine : ChannelMachine)

/-- A call after which the channel is connected is a sign of life that was accepted, or it
leaves the time where it was, and the channel was connected before it. -/
theorem lastSeen_called {call : MachineCall}
    (connected : (machine.called call).status = .connected) :
    (machine.called call).lastSeen = (machine.sign? call).or machine.lastSeen ∧
      (machine.sign? call = none → machine.status = .connected) := by
  cases call with
  | connect => cases connected
  | shutdown => cases connected
  | driver call =>
      cases call with
      | opened generation now =>
          unfold called after onOpen sign? at *
          cases current : machine.isCurrent generation with
          | true => simp [current]
          | false => simpa [current] using connected
      | keepalive generation now =>
          unfold called after onKeepalive sign? at *
          cases current : machine.isCurrent generation with
          | true => simp [current]
          | false => simpa [current] using connected
      | closed generation =>
          -- An end that counts leaves the channel disconnected, failed or waiting.
          unfold called after onClose at *
          dsimp only at *
          split at connected
          · rename_i other
            rw [if_pos other]
            exact ⟨rfl, fun _ => connected⟩
          · split at connected
            · cases connected
            · split at connected <;> cases connected
      | reconnect generation =>
          unfold called after beginReconnect at *
          dsimp only at *
          split at connected
          · cases connected
          · rename_i stale
            rw [if_neg stale]
            exact ⟨rfl, fun _ => connected⟩

/-- An open that is accepted sets the mark, and asking for the channel clears it. -/
theorem openedOnce_called (call : MachineCall) :
    (machine.called call).openedOnce = true ↔
      machine.opens call = true ∨ machine.openedOnce = true ∧ call ≠ .connect := by
  cases call with
  | connect => simp [called, beginConnect, opens]
  | shutdown => simp [called, shutdown, opens]
  | driver call =>
      cases call with
      | opened generation now =>
          unfold called after onOpen opens
          cases current : machine.isCurrent generation <;> simp [current]
      | keepalive generation now =>
          unfold called after onKeepalive opens
          dsimp only
          split <;> simp
      | closed generation =>
          unfold called after onClose opens
          dsimp only
          split
          · simp
          · split
            · simp
            · split <;> simp
      | reconnect generation =>
          unfold called after beginReconnect opens
          dsimp only
          split <;> simp

end Called

/-! ## Runs of calls -/

/-- **While the channel is connected**, the time that is kept is that of the last sign of
life that was accepted. -/
theorem lastSeen_run (policy : RetryPolicy) (calls : List MachineCall)
    (connected : ((new policy).run calls).status = .connected) :
    ((new policy).run calls).lastSeen = ((new policy).signs calls).getLast? := by
  induction calls using List.reverseRecOn with
  | nil => cases connected
  | append_singleton calls last ih =>
      rw [run_concat] at connected ⊢
      obtain ⟨seen, before⟩ := lastSeen_called _ connected
      rw [seen, signs_concat, List.getLast?_append]
      cases accepted : ((new policy).run calls).sign? last with
      | none => simpa using ih (before accepted)
      | some now => simp

/-- **The mark of an open** stands exactly if an open was accepted and the channel not asked
for anew since. -/
theorem openedOnce_run_iff (policy : RetryPolicy) (calls : List MachineCall) :
    ((new policy).run calls).openedOnce = true ↔ (new policy).OpenedSince calls := by
  induction calls using List.reverseRecOn with
  | nil =>
      constructor
      · intro marked
        cases marked
      · intro opened
        exact absurd opened (not_openedSince_nil _)
  | append_singleton calls last ih =>
      rw [run_concat, openedOnce_called, openedSince_concat, ih]

/-- **A machine's answers follow its history.**  Let a machine be called in any way since it
was new.  It says that the socket of a generation has been silent for too long exactly if
that generation is the current one, the channel is wanted and connected, and it is later,
by more than the silence allowed, than the time of the last open or keepalive that was
accepted.  It accepts the opens of the current generation of a wanted channel, as the
initial one exactly if no open was accepted since the channel was last asked for, and else
as a reconnection. -/
theorem answers_follow_history (policy : RetryPolicy) (calls : List MachineCall)
    (generation now : Nat) :
    let machine := (new policy).run calls
    (machine.heartbeatExpired generation now = true ↔
        generation = machine.generation ∧ machine.wantsOpen = true ∧
          machine.status = .connected ∧
          ∃ seen, ((new policy).signs calls).getLast? = some seen ∧
            seen + policy.heartbeatTimeout < now) ∧
      ((machine.onOpen generation now).2 = some .initial ↔
        machine.isCurrent generation = true ∧ ¬ (new policy).OpenedSince calls) ∧
      ((machine.onOpen generation now).2 = some .reconnect ↔
        machine.isCurrent generation = true ∧ (new policy).OpenedSince calls) := by
  intro machine
  have same : machine.policy = policy := policy_run (new policy) calls
  have marked : machine.openedOnce = true ↔ (new policy).OpenedSince calls :=
    openedOnce_run_iff policy calls
  refine ⟨?silence, ?initial, ?again⟩
  case silence =>
    unfold heartbeatExpired
    rw [Bool.and_eq_true, Bool.and_eq_true, beq_iff_eq, Option.any_eq_true, same]
    simp only [isCurrent, Bool.and_eq_true, beq_iff_eq, decide_eq_true_eq]
    constructor
    · rintro ⟨⟨⟨wanted, current⟩, connected⟩, seen, kept, silent⟩
      rw [lastSeen_run policy calls connected] at kept
      exact ⟨current.symm, wanted, connected, seen, kept, by omega⟩
    · rintro ⟨current, wanted, connected, seen, last, silent⟩
      rw [← lastSeen_run policy calls connected] at last
      exact ⟨⟨⟨wanted, current.symm⟩, connected⟩, seen, last, by omega⟩
  case initial =>
    rw [← marked]
    unfold onOpen
    cases machine.isCurrent generation <;> cases machine.openedOnce <;> simp
  case again =>
    rw [← marked]
    unfold onOpen
    cases machine.isCurrent generation <;> cases machine.openedOnce <;> simp

end SessionSync.ChannelMachine
