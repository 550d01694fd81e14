import SessionSync.Proofs.Engine.Stores
import SessionSync.Proofs.MessageStore.Coherence

/-!
# Reachable engines

An engine begins without anything.  After that it handles inputs, in any order, and its
slots move by themselves: a dial is answered, a socket ends or brings a text, a wait is
over.  The logs of a reachable engine are coherent (`Reachable.coherent`).
-/

set_option autoImplicit false

namespace SessionSync

/-- What a slot does by itself, or what its socket does to it. -/
inductive Slot.Moves (slot : Slot) : Slot → Prop
  | dialed (accepted : Bool) (now : Nat) : Moves slot (slot.dialed accepted now).1
  | dropped : Moves slot slot.dropped.1
  | retry : Moves slot slot.retry.1
  | receive {text : String} {now : Nat} {next : Slot} {received : Received}
      (brought : slot.receive text now = some (next, received)) : Moves slot next

namespace Engine

/-- The engines that can come about. -/
inductive Reachable (config : Config) : Engine → Prop
  | new : Reachable config (.new config)
  | step {engine : Engine} (before : Reachable config engine) (input : Input) :
      Reachable config (engine.step input).1
  | slot {engine : Engine} (before : Reachable config engine) (kind : SlotKind) {next : Slot}
      (moves : (engine.slots.get kind).Moves next) :
      Reachable config { engine with slots := engine.slots.set next kind }

/-- The engine after inputs one after another. -/
def run (engine : Engine) (inputs : List Input) : Engine :=
  inputs.foldl (fun engine input => (engine.step input).1) engine

/-- Only steps change the logs. -/
theorem Reachable.precedes {config : Config} {engine : Engine}
    (reachable : Reachable config engine) : MessageStore.empty.Precedes engine.messages := by
  induction reachable with
  | new => exact .refl _
  | @step engine before input ih => exact ih.trans (precedes_step engine input)
  | slot before kind moves ih => exact ih

/-- **The logs of a reachable engine are coherent.** -/
theorem Reachable.coherent {config : Config} {engine : Engine}
    (reachable : Reachable config engine) : engine.messages.Coherent := by
  obtain ⟨changes, same⟩ := reachable.precedes
  rw [same]
  exact MessageStore.coherent_empty.run changes

end Engine

end SessionSync
