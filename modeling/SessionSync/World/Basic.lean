import SessionSync.Engine.Step
import SessionSync.Text.Preview

/-!
# The engine and its surroundings

A world is the engine together with what goes on around it: inputs that have not
been handled, work that asks the backend, answers that are held back, and a
server that accepts or refuses sockets.  A world moves until it comes to rest.
Inputs are handled in the order in which they arrive; while there are none, work
goes on, and while there is none, the slots act.

The backend is given by a function from its state and a call; so the same world
serves every backend.
-/

set_option autoImplicit false

namespace SessionSync

/-- What a backend says to a call.  An answer that is held back arrives when it
is let go. -/
structure Verdict (call : Backend.Call) where
  outcome : Backend.Outcome call
  held : Bool

/-- How a backend with states in `β` answers calls. -/
abbrev Host (β : Type) := β → (call : Backend.Call) → β × Verdict call

/-- A job whose answer is held back. -/
structure Parked where
  job : Job
  outcome : Backend.Outcome job.call

/-- Something that can be seen from outside. -/
inductive Observation where
  | event (event : StoreEvent)
  | answered (caller : Caller) (answer : Answer)
  | called (call : Backend.Call)
  /-- The server was asked for the socket of a channel. -/
  | dialed (channel : Channel)
  /-- A frame has reached the server. -/
  | sent (slot : SlotKind) (frame : ClientFrame)
  /-- A text that was no frame was passed over. -/
  | malformed (text : String)

/-- The engine and its surroundings. -/
structure World (β : Type) where
  engine : Engine
  inbox : List Input
  jobs : List Job
  parked : List Parked
  backend : β
  /-- Whether there is a server for sockets. -/
  reachable : Bool
  /-- How many sockets the server will refuse. -/
  refusals : Nat
  /-- The time in milliseconds; it passes only while slots wait. -/
  now : Nat
  /-- What was seen, the latest first. -/
  seen : List Observation

namespace World

variable {β : Type}

/-- A world in which nothing has happened. -/
def new (config : Config) (backend : β) (reachable : Bool) : World β :=
  { engine := .new config, inbox := [], jobs := [], parked := [], backend, reachable,
    refusals := 0, now := 0, seen := [] }

/-- Note what was seen. -/
def see (world : World β) (observation : Observation) : World β :=
  { world with seen := observation :: world.seen }

/-- What was seen, in order, and the world without it. -/
def observations (world : World β) : World β × List Observation :=
  ({ world with seen := [] }, world.seen.reverse)

/-- Let an input arrive. -/
def post (world : World β) (input : Input) : World β :=
  { world with inbox := world.inbox ++ [input] }

/-! ## The engine's effects -/

/-- Carry out an effect of the engine. -/
def perform (world : World β) : Effect → World β
  | .publish event => world.see (.event event)
  | .answer caller answer => world.see (.answered caller answer)
  | .begin job => { world with jobs := world.jobs ++ [job] }
  | .send slot frame => world.see (.sent slot frame)
  | .report event => world.post (.channel event)

/-- Whether anyone still waits for a job: a selection that was superseded is
given up, whatever it waits for. -/
def isWanted (engine : Engine) : Job → Bool
  | .select task => engine.running && task.epoch == engine.selection.epoch
  | _ => true

/-- Give up the jobs that nobody waits for. -/
def dropUnwanted (world : World β) : World β :=
  { world with
    jobs := world.jobs.filter (isWanted world.engine)
    parked := world.parked.filter fun parked => isWanted world.engine parked.job }

/-- The engine handles an input. -/
def handle (world : World β) (input : Input) : World β :=
  let (engine, effects) := world.engine.step input
  (effects.foldl perform { world with engine }).dropUnwanted

/-! ## Work -/

/-- A job goes on with the answer to its call. -/
def resume (world : World β) (job : Job) (outcome : Backend.Outcome job.call) : World β :=
  let (inputs, next) := job.resume outcome
  { world with inbox := world.inbox ++ inputs, jobs := world.jobs ++ next.toList }

/-- A job makes its call. -/
def ask (host : Host β) (world : World β) (job : Job) : World β :=
  let (backend, verdict) := host world.backend job.call
  let world := { world with backend }.see (.called job.call)
  if verdict.held then { world with parked := world.parked ++ [⟨job, verdict.outcome⟩] }
  else world.resume job verdict.outcome

/-- Let go an answer that is held back; the call comes second. -/
def release? (world : World β) (index : Nat) : Option (World β × Backend.Call) := do
  let parked ← world.parked[index]?
  let world := { world with parked := world.parked.eraseIdx index }
  return (world.resume parked.job parked.outcome, parked.job.call)

/-! ## Sockets -/

/-- How long a wait may be if the world is to see its end, in milliseconds. -/
def patience : Nat := 10000

/-- Write a slot and let its events arrive. -/
def putSlot (world : World β) (kind : SlotKind) (outcome : Slot × List ChannelEvent) : World β :=
  let engine := { world.engine with slots := world.engine.slots.set outcome.1 kind }
  { world with engine, inbox := world.inbox ++ outcome.2.map .channel }

/-- The server answers a dial. -/
def answerDial (world : World β) (kind : SlotKind) (channel : Channel) : World β :=
  let accepted := world.reachable && world.refusals == 0
  let seen := if world.reachable then world.see (.dialed channel) else world
  { seen with refusals := world.refusals - 1 }.putSlot kind
    ((world.engine.slots.get kind).dialed accepted world.now)

/-- A slot acts: it is answered, or it has waited long enough. -/
def act (world : World β) (kind : SlotKind) : World β :=
  let slot := world.engine.slots.get kind
  match slot.active with
  | some (channel, .dialing _) => world.answerDial kind channel
  | some (_, .waiting _ delay) =>
      { world with now := world.now + delay }.putSlot kind slot.retry
  | _ => world.putSlot kind slot.retry

/-- The server sends a text over a slot's socket; `none` where none is open. -/
def receive? (world : World β) (kind : SlotKind) (text : String) : Option (World β) := do
  let (slot, received) ← (world.engine.slots.get kind).receive text world.now
  let world := world.putSlot kind (slot, [])
  return match received with
    | .malformed => world.see (.malformed text)
    | .pong frame => world.see (.sent kind frame)
    | .event event => world.post (.channel event)
    | .ignored => world

/-- The socket of a slot ends; `none` where none is open. -/
def drop? (world : World β) (kind : SlotKind) : Option (World β) :=
  let slot := world.engine.slots.get kind
  if slot.isStreaming then some (world.putSlot kind slot.dropped) else none

/-! ## Coming to rest -/

/-- The slot that acts next. -/
def busySlot? (world : World β) : Option SlotKind :=
  SlotKind.all.find? fun kind => (world.engine.slots.get kind).isBusy patience

/-- One move; `none` at rest. -/
def move? (host : Host β) (world : World β) : Option (World β) :=
  match world.inbox, world.jobs with
  | input :: later, _ => some ({ world with inbox := later }.handle input)
  | [], job :: later => some ({ world with jobs := later }.ask host job)
  | [], [] => world.busySlot?.map world.act

/-- At most so many moves. -/
def moves (host : Host β) : Nat → World β → World β
  | 0, world => world
  | fuel + 1, world =>
      match world.move? host with
      | some next => moves host fuel next
      | none => world

/-- More moves than a world can make by itself: every job makes at most a call
for each poll and three more, every slot dials at most once for each attempt and
once more, and none of this begins more than a few jobs. -/
def moveLimit (world : World β) : Nat :=
  32 * (world.engine.config.startMaxPolls + world.engine.config.maxReconnectAttempts + 16) *
    (world.inbox.length + world.jobs.length + 4)

/-- Let the world come to rest. -/
def settle (host : Host β) (world : World β) : World β := moves host world.moveLimit world

end World

end SessionSync
