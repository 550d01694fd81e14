import SessionSync.Engine.Snapshot
import SessionSync.World.Script

/-!
# Scenarios

A scenario is a series of steps that happen to a world with a scripted backend:
commands of callers, answers that are let go, and what the server for sockets
does.  The world comes to rest after every step.  The actions of one step happen
before anything else moves.
-/

set_option autoImplicit false

namespace SessionSync

/-- Something that happens to a world from outside. -/
inductive ScenarioAction where
  | command (command : Command)
  /-- A call that is held back gets its answer. -/
  | release (index : Nat)
  /-- The server will refuse so many sockets. -/
  | refuse (count : Nat)
  /-- The server sends a text. -/
  | text (slot : SlotKind) (text : String)
  /-- The server sends something that is no text. -/
  | noise (slot : SlotKind)
  /-- The socket of a slot ends. -/
  | drop (slot : SlotKind)
  | extend (kind : CallKind) (answers : List ScriptedAnswer)
  deriving DecidableEq, Repr

/-- What an action has led to so far. -/
inductive ScenarioResult where
  | nothing
  /-- An answer to a call of this kind was let go. -/
  | released (kind : CallKind)
  | nothingHeld
  | noConnection (slot : SlotKind)
  /-- The caller with this number will be answered. -/
  | asked (caller : Caller)
  deriving DecidableEq, Repr

/-- A world and the number of callers it has had. -/
structure Scenario where
  world : World Script
  callers : Nat

namespace Scenario

/-- A world in which nothing has happened. -/
def new (config : Config) (answers : CallKind → List ScriptedAnswer) (reachable : Bool) :
    Scenario :=
  { world := .new config { historyLimit := config.historyLimit, queues := answers } reachable
    callers := 0 }

/-- Change the world where the socket of a slot is open. -/
def onSocket (scenario : Scenario) (slot : SlotKind) (world : Option (World Script)) :
    Scenario × ScenarioResult :=
  match world with
  | some world => ({ scenario with world }, .nothing)
  | none => (scenario, .noConnection slot)

/-- One action happens. -/
def act (scenario : Scenario) (action : ScenarioAction) : Scenario × ScenarioResult :=
  let world := scenario.world
  match action with
  | .command command =>
      let caller := scenario.callers
      ({ world := world.post (.command caller command), callers := caller + 1 }, .asked caller)
  | .release index =>
      match world.release? index with
      | some (world, call) =>
          ({ scenario with world }, .released (.ofCall world.backend.historyLimit call))
      | none => (scenario, .nothingHeld)
  | .refuse count => ({ scenario with world := { world with refusals := count } }, .nothing)
  | .text slot text => scenario.onSocket slot (world.receive? slot text)
  | .noise slot => scenario.onSocket slot
      (if (world.engine.slots.get slot).isStreaming then some world else none)
  | .drop slot => scenario.onSocket slot (world.drop? slot)
  | .extend kind answers =>
      ({ scenario with world := { world with backend := world.backend.append kind answers } },
        .nothing)

/-- One step: its actions happen and the world comes to rest.  The results of the
actions and what was seen come second. -/
def step (scenario : Scenario) (actions : List ScenarioAction) :
    Scenario × List ScenarioResult × List Observation :=
  let (scenario, results) := actions.foldl
    (fun (scenario, results) action =>
      let (scenario, result) := scenario.act action
      (scenario, results ++ [result]))
    (scenario, [])
  let (world, seen) := (scenario.world.settle Script.host).observations
  ({ scenario with world }, results, seen)

end Scenario

end SessionSync
