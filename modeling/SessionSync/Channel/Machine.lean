import SessionSync.Number.Power

/-!
# The life of a channel's connections

Every attempt to connect has a generation of its own, and whatever is reported
about an attempt names its generation.  A report about any generation but the
current one is without effect, so an attempt that was given up can never
disturb the one that followed it.

Times are milliseconds since some fixed instant.
-/

set_option autoImplicit false

namespace SessionSync

/-! ## Status and policy -/

/-- The status of a connection as a user sees it. -/
inductive ConnectionStatus where
  | disconnected
  | connecting
  | connected
  | reconnecting (attempt : Nat)
  /-- The attempts are used up. -/
  | failed
  deriving DecidableEq, Repr, Inhabited

/-- How long and how often to try again, and how long a silence may last. -/
structure RetryPolicy where
  baseDelay : Nat
  maxDelay : Nat
  maxAttempts : Nat
  heartbeatTimeout : Nat
  deriving DecidableEq, Repr

namespace RetryPolicy

/-- The longest span of time that can be waited for. -/
def longestDelay : Nat := wordMax * 1000 + 999

/-- The wait before an attempt grows with its number, up to the maximum. -/
def delayFor (policy : RetryPolicy) (attempt : Nat) : Nat :=
  min (min (policy.baseDelay * max attempt 1) longestDelay) policy.maxDelay

end RetryPolicy

/-- Whether an open is the first since the channel was last asked for. -/
inductive OpenKind where
  | initial
  | reconnect
  deriving DecidableEq, Repr

/-- What follows from the end of an attempt. -/
inductive CloseAction where
  /-- The attempt was not the current one. -/
  | ignore
  /-- Nobody wants the channel any more. -/
  | stop
  /-- The attempts are used up. -/
  | giveUp
  | reconnect (delay attempt : Nat)
  deriving DecidableEq, Repr

/-! ## The machine -/

/-- The state of a channel's connections. -/
structure ChannelMachine where
  policy : RetryPolicy
  status : ConnectionStatus
  generation : Nat
  wantsOpen : Bool
  /-- Attempts since the channel was asked for or last opened. -/
  attempts : Nat
  openedOnce : Bool
  lastSeen : Option Nat
  deriving DecidableEq, Repr

namespace ChannelMachine

/-- A channel that was never asked for. -/
def new (policy : RetryPolicy) : ChannelMachine :=
  { policy, status := .disconnected, generation := 0, wantsOpen := false, attempts := 0,
    openedOnce := false, lastSeen := none }

/-- Whether a report about this generation still counts. -/
def isCurrent (machine : ChannelMachine) (generation : Nat) : Bool :=
  machine.wantsOpen && machine.generation == generation

/-- Ask for the channel anew.  The new generation is the machine's. -/
def beginConnect (machine : ChannelMachine) : ChannelMachine :=
  { machine with
    generation := machine.generation + 1
    wantsOpen := true
    attempts := 0
    openedOnce := false
    lastSeen := none
    status := .connecting }

/-- An attempt has opened its socket. -/
def onOpen (machine : ChannelMachine) (generation now : Nat) : ChannelMachine × Option OpenKind :=
  if machine.isCurrent generation then
    ({ machine with
        status := .connected
        attempts := 0
        lastSeen := some now
        openedOnce := true },
      some (if machine.openedOnce then .reconnect else .initial))
  else (machine, none)

/-- The other side has shown that it is there. -/
def onKeepalive (machine : ChannelMachine) (generation now : Nat) : ChannelMachine :=
  if machine.isCurrent generation then { machine with lastSeen := some now } else machine

/-- Whether an open socket has been silent for too long. -/
def heartbeatExpired (machine : ChannelMachine) (generation now : Nat) : Bool :=
  machine.isCurrent generation && machine.status == .connected &&
    machine.lastSeen.any fun seen => machine.policy.heartbeatTimeout < now - seen

/-- An attempt has ended, opened or not. -/
def onClose (machine : ChannelMachine) (generation : Nat) : ChannelMachine × CloseAction :=
  if generation ≠ machine.generation then (machine, .ignore)
  else
    let silent := { machine with lastSeen := none }
    if !machine.wantsOpen then ({ silent with status := .disconnected }, .stop)
    else
      let attempts := machine.attempts + 1
      if machine.policy.maxAttempts < attempts then
        ({ silent with attempts, wantsOpen := false, status := .failed }, .giveUp)
      else
        ({ silent with attempts, status := .reconnecting attempts },
          .reconnect (machine.policy.delayFor attempts) attempts)

/-- Start the attempt that was put off under a generation; the new generation
comes second. -/
def beginReconnect (machine : ChannelMachine) (generation : Nat) : ChannelMachine × Option Nat :=
  if machine.isCurrent generation then
    let next := machine.generation + 1
    ({ machine with generation := next, status := .connecting }, some next)
  else (machine, none)

/-- Stop wanting the channel; whatever is under way no longer counts. -/
def shutdown (machine : ChannelMachine) : ChannelMachine :=
  { machine with
    wantsOpen := false
    generation := machine.generation + 1
    lastSeen := none
    status := .disconnected }

end ChannelMachine

end SessionSync
