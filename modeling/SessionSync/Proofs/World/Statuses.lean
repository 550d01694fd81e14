import SessionSync.Engine.Snapshot
import SessionSync.Proofs.World.Course

/-!
# What is shown of a slot without a channel

Readers see a status for every slot.  It is not the slot's own: the engine keeps a copy, and
writes to it only what the slot has reported about an attempt that is current.  A slot that
is closed becomes disconnected and reports nothing, and nothing that it has reported before
counts any more.

So what readers see of a slot without a channel is whatever was shown of it last, and that is
never that it is disconnected (`shown_of_idle`).  Only a slot of which nothing was ever shown
is seen as it is.
-/

set_option autoImplicit false

namespace SessionSync

/-- The status of a slot that a turn shows. -/
def LinkTurn.status? (kind : SlotKind) : LinkTurn → Option ConnectionStatus
  | .shows shown status => if shown = kind then some status else none
  | _ => none

theorem LinkTurn.eq_shows_of_status? {turn : LinkTurn} {kind : SlotKind}
    {status : ConnectionStatus} (told : turn.status? kind = some status) :
    turn = .shows kind status := by
  cases turn with
  | shows shown reported =>
      obtain ⟨rfl, rfl⟩ : shown = kind ∧ reported = status := by
        simpa [LinkTurn.status?] using told
      rfl
  | _ => cases told

namespace Engine

/-- The status of a slot that steps have shown last. -/
def lastShown? (kind : SlotKind) (past : List (Engine × Input)) : Option ConnectionStatus :=
  latest? (LinkTurn.status? kind) (linkTurns past)

section Shown

variable (kind : SlotKind)

theorem lastShown?_concat (past : List (Engine × Input)) (entry : Engine × Input) :
    lastShown? kind (past ++ [entry]) =
      ((entry.1.link? entry.2).bind (LinkTurn.status? kind)).or (lastShown? kind past) := by
  unfold lastShown?
  rw [linkTurns_append, linkTurns_singleton]
  cases entry.1.link? entry.2 with
  | none => simp
  | some turn => exact latest?_concat _ _ turn

theorem get_connections (before : PerSlot ConnectionStatus) (turn : LinkTurn) :
    (turn.connections before).get kind = (turn.status? kind).getD (before.get kind) := by
  cases turn with
  | shows shown status =>
      unfold LinkTurn.connections LinkTurn.status?
      rw [PerSlot.get_set]
      by_cases same : shown = kind
      · simp [same]
      · simp [same, Ne.symm same]
  | _ => rfl

/-- **What readers see of a slot is what was shown of it last.** -/
theorem Course.connections_eq {config : Config} {engine : Engine} {past : List (Engine × Input)}
    (course : Course (.new config) past engine) :
    engine.connections.get kind = (lastShown? kind past).getD .disconnected := by
  induction course with
  | nothing => cases kind <;> rfl
  | @step past current before input ih =>
      have connections : (current.step input).1.connections = _ :=
        congrArg Links.connections (current.relinks_step input).links
      rw [connections, lastShown?_concat]
      cases current.link? input with
      | none => exact ih
      | some turn =>
          show (turn.connections current.connections).get kind = _
          rw [get_connections, ih]
          cases shown : turn.status? kind <;> simp [shown]
  | slot before moved moves ih => exact ih

/-- A status is shown for news of it only. -/
theorem eq_status_of_shows {engine : Engine} {input : Input} {shown : SlotKind}
    {status : ConnectionStatus} (shows : engine.link? input = some (.shows shown status)) :
    ∃ channel generation, input = .channel (.status channel generation status) := by
  cases (makes_of_link? shows).2 with
  | status accepted => exact ⟨_, _, rfl⟩

end Shown

end Engine

namespace World

variable {β : Type} {host : Host β} {drifts : β → β → Prop} {world : World β}
  {past : List (Engine × Input)}

open Engine (lastShown?)

/-- No slot is ever shown as disconnected. -/
theorem Course.ne_disconnected_of_lastShown? {start : World β} (orderly : start.Orderly)
    (course : Course host drifts start past world) {kind : SlotKind} {status : ConnectionStatus}
    (shown : lastShown? kind past = some status) : status ≠ .disconnected := by
  induction course with
  | nothing => cases shown
  | @handled past world front back input before arrived ih =>
      rw [Engine.lastShown?_concat] at shown
      cases told : (world.engine.link? input).bind (LinkTurn.status? kind) with
      | none =>
          rw [told] at shown
          exact ih shown
      | some latest =>
          rw [told] at shown
          cases shown
          obtain ⟨turn, turned, shows⟩ := Option.bind_eq_some_iff.1 told
          rw [LinkTurn.eq_shows_of_status? shows] at turned
          obtain ⟨channel, generation, rfl⟩ := Engine.eq_status_of_shows turned
          have waits : .channel (.status channel generation status) ∈ world.inbox := by
            simp [arrived]
          have heard := (before.orderly orderly).news _ waits
          rintro rfl
          exact heard.shows channel generation rfl
  | commanded before caller command ih => exact ih shown
  | asked before begun ih => exact ih shown
  | released before index freed ih => exact ih shown
  | turned before moved own ih => exact ih shown
  | drifted before drift ih => exact ih shown
  | passed before reachable refusals now seen ih => exact ih shown

/-- **What is shown of a slot without a channel.**  Along every course of a world a slot that
holds no channel is disconnected.  But readers see the status that was shown of it last, and
so they see that it is disconnected exactly if nothing was ever shown of it. -/
theorem shown_of_idle {config : Config} {backend : β} {reachable : Bool}
    (course : Course host drifts (.new config backend reachable) past world) {kind : SlotKind}
    (idle : (world.engine.slots.get kind).target? = none) :
    (world.engine.slots.get kind).status = .disconnected ∧
      world.engine.snapshot.connections.get kind =
        (lastShown? kind past).getD .disconnected ∧
      (world.engine.snapshot.connections.get kind = .disconnected ↔
        lastShown? kind past = none) := by
  have orderly := orderly_new config backend reachable
  have seen : world.engine.snapshot.connections.get kind =
      (lastShown? kind past).getD .disconnected := course.engine.connections_eq kind
  refine ⟨((course.orderly orderly).fits kind).inStep.status_of_idle idle, seen, ?_⟩
  rw [seen]
  cases shown : lastShown? kind past with
  | none => simp
  | some status => simpa using course.ne_disconnected_of_lastShown? orderly shown

/-- A backend that cannot be reached. -/
def unreachable : Host Unit := fun _ _ => ((), ⟨.error .http, false⟩)

/-- The communications of a legion are followed, and then no longer. -/
def untracked : World Unit :=
  let tracking := ((World.new {} () true).post (.command 0 (.connectLegion "L"))).settle unreachable
  (tracking.post (.command 1 .disconnectLegion)).settle unreachable

/-- Readers see a legion's slot connected after it was given up. -/
theorem shown_of_idle_of_untracked :
    ∃ past, Course unreachable Eq (.new {} () true) past untracked ∧
      (untracked.engine.slots.get .legion).target? = none ∧
      (untracked.engine.slots.get .legion).status = .disconnected ∧
      untracked.engine.snapshot.connections.get .legion = .connected ∧
      lastShown? .legion past ≠ none := by
  have begins : Course unreachable Eq (.new {} () true) [] (.new {} () true) := .nothing
  obtain ⟨first, tracking⟩ := begins.asks 0 (.connectLegion "L")
  obtain ⟨past, course⟩ : ∃ past, Course unreachable Eq (.new {} () true) past untracked :=
    tracking.asks 1 .disconnectLegion
  have idle : (untracked.engine.slots.get .legion).target? = none := by decide +kernel
  have connected : untracked.engine.snapshot.connections.get .legion = .connected := by
    decide +kernel
  obtain ⟨closed, -, unseen⟩ := shown_of_idle course idle
  refine ⟨past, course, idle, closed, connected, fun never => ?_⟩
  have seen := unseen.2 never
  rw [connected] at seen
  cases seen

end World

end SessionSync
