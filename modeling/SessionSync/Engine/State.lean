import SessionSync.Config
import SessionSync.Engine.Input
import SessionSync.EntityStore
import SessionSync.MessageStore
import SessionSync.SessionStore

/-!
# The state of the engine

Everything that the engine holds.
-/

set_option autoImplicit false

namespace SessionSync

/-- One value for each slot. -/
structure PerSlot (α : Type) where
  ui : α
  session : α
  legion : α
  deriving DecidableEq, Repr

namespace PerSlot

variable {α : Type}

/-- The value for a slot. -/
def get (values : PerSlot α) : SlotKind → α
  | .ui => values.ui
  | .session => values.session
  | .legion => values.legion

/-- Write the value for a slot. -/
def set (values : PerSlot α) (value : α) : SlotKind → PerSlot α
  | .ui => { values with ui := value }
  | .session => { values with session := value }
  | .legion => { values with legion := value }

theorem get_set (values : PerSlot α) (value : α) (slot probe : SlotKind) :
    (values.set value slot).get probe = if probe = slot then value else values.get probe := by
  cases slot <;> cases probe <;> rfl

end PerSlot

/-- The selection of a session: the epoch of the latest one, who waits for it,
and how far it is. -/
structure Selection where
  epoch : Nat
  caller : Option Caller
  phase : SelectionPhase
  deriving DecidableEq, Repr

/-- The state of the engine. -/
structure Engine where
  config : Config
  sessions : SessionStore
  messages : MessageStore
  entities : EntityStore
  slots : PerSlot Slot
  selection : Selection
  legionId : Option String
  /-- The statuses that were announced last. -/
  connections : PerSlot ConnectionStatus
  syncing : Bool
  running : Bool
  deriving DecidableEq, Repr

namespace Engine

/-- An engine that has not been asked for anything. -/
def new (config : Config) : Engine :=
  let slot := fun kind => Slot.new kind config.retryPolicy
  { config
    sessions := SessionStore.empty
    messages := MessageStore.empty
    entities := EntityStore.empty
    slots := ⟨slot .ui, slot .session, slot .legion⟩
    selection := { epoch := 0, caller := none, phase := .idle }
    legionId := none
    connections := ⟨.disconnected, .disconnected, .disconnected⟩
    syncing := false
    running := true }

/-- The slot for the stream of the session in focus. -/
def sessionSlot (engine : Engine) : Slot := engine.slots.session

/-- Give up the channel of a slot. -/
def closeSlot (engine : Engine) (kind : SlotKind) : Engine :=
  { engine with slots := engine.slots.set (engine.slots.get kind).close kind }

/-- Connect a channel in its slot, and report what the slot reports. -/
def connect (engine : Engine) (channel : Channel) : Engine × List Effect :=
  let (slot, events) := (engine.slots.get channel.slot).connect channel
  ({ engine with slots := engine.slots.set slot channel.slot }, events.map .report)

/-- Whether an event comes from the current attempt of its slot. -/
def accepts (engine : Engine) (event : ChannelEvent) : Bool :=
  (engine.slots.get event.channel.slot).accepts event

end Engine

end SessionSync
