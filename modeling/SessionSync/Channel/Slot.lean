import SessionSync.Channel.Machine
import SessionSync.Channel.Name
import SessionSync.Failure
import SessionSync.Wire.ClientFrame
import SessionSync.Wire.ServerFrame

/-!
# Slots

A slot holds at most one channel and looks after its connection: it dials,
waits before it dials again, and gives up when the attempts are used up.  What
happens on the way is reported as channel events, each under the generation of
the attempt that it belongs to.
-/

set_option autoImplicit false

namespace SessionSync

/-- What a slot reports. -/
inductive ChannelEvent where
  | status (channel : Channel) (generation : Nat) (status : ConnectionStatus)
  | opened (channel : Channel) (generation : Nat) (kind : OpenKind)
  | frame (channel : Channel) (generation : Nat) (frame : ServerFrame)
  deriving DecidableEq, Repr

namespace ChannelEvent

/-- The channel of an event. -/
def channel : ChannelEvent → Channel
  | .status channel _ _ | .opened channel _ _ | .frame channel _ _ => channel

/-- The generation of an event. -/
def generation : ChannelEvent → Nat
  | .status _ generation _ | .opened _ generation _ | .frame _ generation _ => generation

end ChannelEvent

/-- Where a slot is with the connection it looks after, and under which
generation. -/
inductive Phase where
  /-- The answer to a dial is awaited. -/
  | dialing (generation : Nat)
  /-- The socket is open. -/
  | streaming (generation : Nat)
  /-- The next dial is due after a delay. -/
  | waiting (generation delay : Nat)
  /-- Nothing more will happen. -/
  | finished
  deriving DecidableEq, Repr

/-- What comes of a text that an open socket brings. -/
inductive Received where
  /-- The text is no frame. -/
  | malformed
  /-- The other side wants a sign of life. -/
  | pong (frame : ClientFrame)
  | event (event : ChannelEvent)
  /-- The attempt does not count any more. -/
  | ignored
  deriving DecidableEq, Repr

/-- A slot with the channel it holds. -/
structure Slot where
  kind : SlotKind
  machine : ChannelMachine
  active : Option (Channel × Phase)
  deriving DecidableEq, Repr

namespace Slot

/-- A slot that was never used. -/
def new (kind : SlotKind) (policy : RetryPolicy) : Slot :=
  { kind, machine := ChannelMachine.new policy, active := none }

/-- The channel that the slot holds. -/
def target? (slot : Slot) : Option Channel := slot.active.map Prod.fst

/-- The generation of the slot's latest attempt. -/
def generation (slot : Slot) : Nat := slot.machine.generation

/-- The status of the slot's connection. -/
def status (slot : Slot) : ConnectionStatus := slot.machine.status

/-- Give up the channel that the slot holds.  Nothing is reported about it. -/
def close (slot : Slot) : Slot := { slot with machine := slot.machine.shutdown, active := none }

/-- Give up what the slot holds and dial a channel. -/
def connect (slot : Slot) (channel : Channel) : Slot × List ChannelEvent :=
  let machine := slot.close.machine.beginConnect
  ({ slot with machine, active := some (channel, .dialing machine.generation) },
    [.status channel machine.generation .connecting])

/-- An attempt has ended: the slot waits before the next one, or gives up. -/
def ended (slot : Slot) (channel : Channel) (generation : Nat) : Slot × List ChannelEvent :=
  let (machine, action) := slot.machine.onClose generation
  let enter := fun phase => { slot with machine, active := some (channel, phase) }
  match action with
  | .ignore | .stop => (enter .finished, [])
  | .giveUp => (enter .finished, [.status channel generation .failed])
  | .reconnect delay attempt =>
      (enter (.waiting generation delay), [.status channel generation (.reconnecting attempt)])

/-- The answer to a dial. -/
def dialed (slot : Slot) (accepted : Bool) (now : Nat) : Slot × List ChannelEvent :=
  match slot.active with
  | some (channel, .dialing generation) =>
      if accepted then
        match slot.machine.onOpen generation now with
        | (machine, some kind) =>
            ({ slot with machine, active := some (channel, .streaming generation) },
              [.status channel generation .connected, .opened channel generation kind])
        | (machine, none) => ({ slot with machine, active := some (channel, .finished) }, [])
      else slot.ended channel generation
  | _ => (slot, [])

/-- The open socket has ended. -/
def dropped (slot : Slot) : Slot × List ChannelEvent :=
  match slot.active with
  | some (channel, .streaming generation) => slot.ended channel generation
  | _ => (slot, [])

/-- The wait is over: dial again. -/
def retry (slot : Slot) : Slot × List ChannelEvent :=
  match slot.active with
  | some (channel, .waiting generation _) =>
      match slot.machine.beginReconnect generation with
      | (machine, some next) =>
          ({ slot with machine, active := some (channel, .dialing next) },
            [.status channel next .connecting])
      | (machine, none) => ({ slot with machine, active := some (channel, .finished) }, [])
  | _ => (slot, [])

/-- The open socket has brought a text.  A ping is answered at once and goes no
further; `none` where no socket is open.

A socket has pings of its own as well, which bring no text and no frame.  They
are left out here: they are answered by the socket and are a sign of life to the
machine (`ChannelMachine.onKeepalive`), as a ping that comes as a text is. -/
def receive (slot : Slot) (text : String) (now : Nat) : Option (Slot × Received) :=
  match slot.active with
  | some (channel, .streaming generation) =>
      match ServerFrame.read? text with
      | none => some (slot, .malformed)
      | some (.ping timestamp) =>
          some ({ slot with machine := slot.machine.onKeepalive generation now },
            .pong (.pong timestamp))
      | some frame =>
          if slot.machine.isCurrent generation then
            some (slot, .event (.frame channel generation frame))
          else some (slot, .ignored)
  | _ => none

/-- Whether a socket is open. -/
def isStreaming (slot : Slot) : Bool :=
  match slot.active with
  | some (_, .streaming _) => true
  | _ => false

/-- A frame can be sent only over an open socket. -/
def canSend (slot : Slot) : Except Failure Unit :=
  if slot.active.isSome && slot.status == .connected then .ok ()
  else .error (.notConnected slot.kind.name)

/-- Whether an event comes from the slot's current attempt. -/
def accepts (slot : Slot) (event : ChannelEvent) : Bool :=
  slot.target? == some event.channel && slot.generation == event.generation

/-- Whether the slot will act by itself within a given time. -/
def isBusy (slot : Slot) (patience : Nat) : Bool :=
  match slot.active with
  | some (_, .dialing _) => true
  | some (_, .waiting _ delay) => delay < patience
  | _ => false

/-- Let the slot act, with every dial refused, until it rests.  A channel is
dialled once and then at most once for each attempt that is left. -/
def refuseAll (slot : Slot) (patience : Nat) : Slot × List ChannelEvent :=
  go (2 * (slot.machine.policy.maxAttempts + 2)) slot []
where
  /-- At most `fuel` dials and waits. -/
  go : Nat → Slot → List ChannelEvent → Slot × List ChannelEvent
    | 0, slot, events => (slot, events)
    | fuel + 1, slot, events =>
        if slot.isBusy patience then
          let (slot, more) := match slot.active with
            | some (_, .dialing _) => slot.dialed false 0
            | _ => slot.retry
          go fuel slot (events ++ more)
        else (slot, events)

end Slot

end SessionSync
