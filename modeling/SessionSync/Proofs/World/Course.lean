import SessionSync.Proofs.Engine.Links
import SessionSync.World.Basic

/-!
# Courses of a world

The engine handles one input after another, but what happens around it goes on meanwhile:
callers ask, work makes its calls, answers are held back and let go, slots act, and the
backend changes by itself.  A course of a world is any interleaving of all this.  Any input
that has arrived may be the next to be handled, any job may be the next to make its call,
and any answer may be held back as long as one likes.

What a world does by itself is one of its courses (`course_moves`), and the engine of a world
goes through a course of engines (`Course.engine`).  What arrives from
a slot is what the slot may have reported (`Course.orderly`).
-/

set_option autoImplicit false

namespace SessionSync

namespace World

variable {β : Type}

/-- The steps that lead from one world to another.  What is noted are the inputs that were
handled, each with the engine as it then was.  The backend answers calls by `host`, and
changes by itself as `drifts` says. -/
inductive Course (host : Host β) (drifts : β → β → Prop) (start : World β) :
    List (Engine × Input) → World β → Prop
  | nothing : Course host drifts start [] start
  | commanded {past : List (Engine × Input)} {world : World β}
      (before : Course host drifts start past world) (caller : Caller) (command : Command) :
      Course host drifts start past (world.post (.command caller command))
  | handled {past : List (Engine × Input)} {world : World β} {earlier later : List Input}
      {input : Input} (before : Course host drifts start past world)
      (arrived : world.inbox = earlier ++ input :: later) :
      Course host drifts start (past ++ [(world.engine, input)])
        ({ world with inbox := earlier ++ later }.handle input)
  | asked {past : List (Engine × Input)} {world : World β} {earlier later : List Job}
      {job : Job} (before : Course host drifts start past world)
      (begun : world.jobs = earlier ++ job :: later) :
      Course host drifts start past ({ world with jobs := earlier ++ later }.ask host job)
  | released {past : List (Engine × Input)} {world next : World β} {call : Backend.Call}
      (before : Course host drifts start past world) (index : Nat)
      (freed : world.release? index = some (next, call)) : Course host drifts start past next
  | turned {past : List (Engine × Input)} {world : World β}
      (before : Course host drifts start past world) (kind : SlotKind) {turn : SlotTurn}
      (own : turn.isOwn = true) :
      Course host drifts start past
        (world.putSlot kind ((world.engine.slots.get kind).turned turn))
  | drifted {past : List (Engine × Input)} {world : World β} {backend : β}
      (before : Course host drifts start past world) (drift : drifts world.backend backend) :
      Course host drifts start past { world with backend }
  /-- What the server for sockets will do, the time, and what is noted of what was seen. -/
  | passed {past : List (Engine × Input)} {world : World β}
      (before : Course host drifts start past world) (reachable : Bool) (refusals now : Nat)
      (seen : List Observation) :
      Course host drifts start past { world with reachable, refusals, now, seen }

/-! ## What handling an input leaves -/

/-- The jobs that are begun among effects. -/
def jobsIn (effects : List Effect) : List Job :=
  effects.filterMap fun effect => match effect with
    | .begin job => some job
    | _ => none

theorem fillsIn_eq (effects : List Effect) :
    fillsIn effects = (jobsIn effects).filterMap Job.fill? := by
  unfold fillsIn jobsIn
  rw [List.filterMap_filterMap]
  congr 1
  funext effect
  cases effect <;> rfl

/-- Effects bring reports to the inbox and jobs to the work; beyond that they are only
seen. -/
theorem perform_eq (effects : List Effect) (world : World β) :
    ∃ seen, effects.foldl perform world =
      { world with
        inbox := world.inbox ++ (reportsIn effects).map .channel
        jobs := world.jobs ++ jobsIn effects
        seen } := by
  induction effects generalizing world with
  | nil => exact ⟨world.seen, by simp [jobsIn]⟩
  | cons effect effects ih =>
      obtain ⟨seen, same⟩ := ih (world.perform effect)
      refine ⟨seen, ?_⟩
      rw [List.foldl_cons, same]
      cases effect <;> simp [perform, see, post, jobsIn]

section Handle

variable (world : World β) (input : Input)

theorem handle_eq :
    ∃ seen, world.handle input =
      { world with
        engine := (world.engine.step input).1
        inbox := world.inbox ++ (reportsIn (world.engine.step input).2).map .channel
        jobs := (world.jobs ++ jobsIn (world.engine.step input).2).filter
          (isWanted (world.engine.step input).1)
        parked := world.parked.filter fun parked =>
          isWanted (world.engine.step input).1 parked.job
        seen } := by
  obtain ⟨seen, same⟩ := perform_eq (world.engine.step input).2
    { world with engine := (world.engine.step input).1 }
  refine ⟨seen, ?_⟩
  unfold handle
  dsimp only
  rw [same]
  rfl

@[simp] theorem engine_handle : (world.handle input).engine = (world.engine.step input).1 := by
  obtain ⟨seen, same⟩ := world.handle_eq input
  rw [same]

theorem inbox_handle :
    (world.handle input).inbox =
      world.inbox ++ (reportsIn (world.engine.step input).2).map .channel := by
  obtain ⟨seen, same⟩ := world.handle_eq input
  rw [same]

end Handle

/-! ## What jobs and answers leave -/

section Work

variable {host : Host β} {world next : World β}

/-- A job makes its call: the answer is held back, or the job goes on with it. -/
theorem ask_cases (host : Host β) (world : World β) (job : Job) :
    (∃ backend seen outcome, world.ask host job =
      { world with backend, seen, parked := world.parked ++ [⟨job, outcome⟩] }) ∨
    ∃ backend seen outcome, world.ask host job =
      ({ world with backend, seen } : World β).resume job outcome := by
  unfold ask
  dsimp only
  split
  · exact Or.inl ⟨_, _, _, rfl⟩
  · exact Or.inr ⟨_, _, _, rfl⟩

theorem release_cases {index : Nat} {call : Backend.Call}
    (freed : world.release? index = some (next, call)) :
    ∃ parked, world.parked[index]? = some parked ∧
      next = ({ world with parked := world.parked.eraseIdx index } : World β).resume parked.job
        parked.outcome := by
  unfold release? at freed
  cases found : world.parked[index]? with
  | none =>
      rw [found] at freed
      cases freed
  | some parked =>
      rw [found] at freed
      cases freed
      exact ⟨parked, rfl, rfl⟩

/-- Work brings no news of channels. -/
theorem channel_not_mem_resume {event : ChannelEvent} (job : Job)
    (outcome : Backend.Outcome job.call) : .channel event ∉ (job.resume outcome).1 := by
  cases job with
  | refresh caller => simp [Job.resume]
  | select task => simp [Job.resume]
  | sync caller sessionId generation limit offset => simp [Job.resume]

/-- The engine and the news that have arrived stay as they are. -/
structure Undisturbed (world next : World β) : Prop where
  engine : next.engine = world.engine
  news : ∀ event, .channel event ∈ next.inbox ↔ .channel event ∈ world.inbox

theorem undisturbed_post (world : World β) (caller : Caller) (command : Command) :
    world.Undisturbed (world.post (.command caller command)) :=
  ⟨rfl, fun event => by simp [post]⟩

theorem undisturbed_resume (world : World β) (job : Job) (outcome : Backend.Outcome job.call) :
    world.Undisturbed (world.resume job outcome) := by
  refine ⟨rfl, fun event => ?_⟩
  unfold resume
  simp [channel_not_mem_resume job outcome]

theorem undisturbed_ask (host : Host β) (world : World β) (job : Job) :
    world.Undisturbed (world.ask host job) := by
  rcases world.ask_cases host job with ⟨_, _, _, same⟩ | ⟨backend, seen, outcome, same⟩
  · rw [same]
    exact ⟨rfl, fun _ => .rfl⟩
  · rw [same]
    have resumed := undisturbed_resume { world with backend, seen } job outcome
    exact ⟨resumed.engine, resumed.news⟩

theorem undisturbed_release {index : Nat} {call : Backend.Call}
    (freed : world.release? index = some (next, call)) : world.Undisturbed next := by
  obtain ⟨parked, -, rfl⟩ := release_cases freed
  have resumed := undisturbed_resume { world with parked := world.parked.eraseIdx index }
    parked.job parked.outcome
  exact ⟨resumed.engine, resumed.news⟩

end Work

/-! ## The engine of a course -/

section Courses

variable {host : Host β} {drifts : β → β → Prop} {start middle world : World β}
  {past earlier later : List (Engine × Input)}

/-- **The engine of a world goes through a course of engines.** -/
theorem Course.engine (course : Course host drifts start past world) :
    Engine.Course start.engine past world.engine := by
  induction course with
  | nothing => exact .nothing
  | commanded before caller command ih => exact ih
  | @handled past world front back input before arrived ih =>
      rw [engine_handle]
      exact ih.step input
  | @asked past world front back job before begun ih =>
      rw [(undisturbed_ask host { world with jobs := front ++ back } job).engine]
      exact ih
  | released before index freed ih =>
      rw [(undisturbed_release freed).engine]
      exact ih
  | turned before kind own ih => exact ih.slot kind (Slot.moves_turned _ own)
  | drifted before drift ih => exact ih
  | passed before reachable refusals now seen ih => exact ih

/-- One course goes on where another ends. -/
theorem Course.trans (first : Course host drifts start earlier middle)
    (second : Course host drifts middle later world) :
    Course host drifts start (earlier ++ later) world := by
  induction second with
  | nothing => rwa [List.append_nil]
  | commanded before caller command ih => exact ih.commanded caller command
  | handled before arrived ih =>
      rw [← List.append_assoc]
      exact ih.handled arrived
  | asked before begun ih => exact ih.asked begun
  | released before index freed ih => exact ih.released index freed
  | turned before kind own ih => exact ih.turned kind own
  | drifted before drift ih => exact ih.drifted drift
  | passed before reachable refusals now seen ih => exact ih.passed reachable refusals now seen

/-! ## What arrives from slots -/

/-- The slots of a world are in their places, and the news that have arrived are theirs. -/
structure Orderly (world : World β) : Prop where
  fits : ∀ kind, (world.engine.slots.get kind).Fits kind
  news : ∀ event, .channel event ∈ world.inbox →
    (world.engine.slots.get event.channel.slot).Heard event

theorem orderly_new (config : Config) (backend : β) (reachable : Bool) :
    (World.new config backend reachable).Orderly := by
  refine ⟨fun kind => ?_, fun _ none => nomatch none⟩
  cases kind <;> exact Slot.fits_new _ _

theorem Orderly.undisturbed {next : World β} (orderly : world.Orderly)
    (same : world.Undisturbed next) : next.Orderly := by
  refine ⟨fun kind => ?_, fun event member => ?_⟩
  · rw [same.engine]
    exact orderly.fits kind
  · rw [same.engine]
    exact orderly.news event ((same.news event).1 member)

theorem Orderly.handled (orderly : world.Orderly) {front back : List Input} {input : Input}
    (arrived : world.inbox = front ++ input :: back) :
    ({ world with inbox := front ++ back }.handle input).Orderly := by
  refine ⟨fun kind => ?_, fun event member => ?_⟩
  · rw [engine_handle]
    exact Engine.fits_step input (orderly.fits kind)
  · rw [inbox_handle] at member
    rw [engine_handle]
    rcases List.mem_append.1 member with waits | reported
    · have known : .channel event ∈ world.inbox := by
        rw [arrived]
        exact ((List.sublist_cons_self input back).append_left front).mem waits
      exact (orderly.news event known).continues (world.engine.continues_step input _)
    · obtain ⟨told, brought, same⟩ := List.mem_map.1 reported
      cases same
      exact (Engine.heard_of_step brought).2

theorem Orderly.turned (orderly : world.Orderly) (kind : SlotKind) {turn : SlotTurn}
    (own : turn.isOwn = true) :
    (world.putSlot kind ((world.engine.slots.get kind).turned turn)).Orderly := by
  have slots : ∀ probe, (world.engine.slots.set
      ((world.engine.slots.get kind).turned turn).1 kind).get probe = _ :=
    PerSlot.get_set world.engine.slots _ kind
  refine ⟨fun probe => ?_, fun event member => ?_⟩
  · show ((world.engine.slots.set _ kind).get probe).Fits probe
    rw [slots]
    split
    · rename_i same
      rw [same]
      exact (orderly.fits kind).turned own
    · exact orderly.fits probe
  · show ((world.engine.slots.set _ kind).get event.channel.slot).Heard event
    rcases List.mem_append.1 member with known | reported
    · have heard := orderly.news event known
      rw [slots]
      split
      · rename_i same
        rw [same] at heard
        exact heard.continues ((orderly.fits kind).inStep.continues own)
      · exact heard
    · obtain ⟨told, brought, same⟩ := List.mem_map.1 reported
      cases same
      obtain ⟨placed, heard⟩ := (orderly.fits kind).heard own brought
      rw [slots, if_pos placed]
      exact heard

/-- **Whatever happens around the engine, the slots stay in their places** and all news that
arrive are theirs. -/
theorem Course.orderly (orderly : start.Orderly) (course : Course host drifts start past world) :
    world.Orderly := by
  induction course with
  | nothing => exact orderly
  | @commanded past world before caller command ih =>
      exact ih.undisturbed (world.undisturbed_post caller command)
  | handled before arrived ih => exact ih.handled arrived
  | @asked past world front back job before begun ih =>
      have same := undisturbed_ask host { world with jobs := front ++ back } job
      exact ih.undisturbed ⟨same.engine, same.news⟩
  | released before index freed ih => exact ih.undisturbed (undisturbed_release freed)
  | turned before kind own ih => exact ih.turned kind own
  | drifted before drift ih => exact ⟨ih.fits, ih.news⟩
  | passed before reachable refusals now seen ih => exact ⟨ih.fits, ih.news⟩

/-! ## Worlds that come to rest -/

theorem course_answerDial (world : World β) (kind : SlotKind) (channel : Channel) :
    Course host drifts world [] (world.answerDial kind channel) := by
  have own : SlotTurn.isOwn (.dialed (world.reachable && world.refusals == 0) world.now) = true :=
    rfl
  have noted := fun seen => (Course.nothing : Course host drifts world [] world).passed
    world.reachable (world.refusals - 1) world.now seen
  unfold answerDial
  dsimp only
  split
  · exact (noted (.dialed channel :: world.seen)).turned kind own
  · exact (noted world.seen).turned kind own

theorem course_act (world : World β) (kind : SlotKind) :
    Course host drifts world [] (world.act kind) := by
  have own : SlotTurn.isOwn .retry = true := rfl
  have here : Course host drifts world [] world := .nothing
  unfold act
  dsimp only
  split
  · exact course_answerDial world kind _
  · rename_i delay waiting
    exact (here.passed world.reachable world.refusals (world.now + delay) world.seen).turned kind own
  · exact here.turned kind own

/-- What is noted of one move. -/
def moveRecord (world : World β) : List (Engine × Input) :=
  world.inbox.head?.toList.map fun input => (world.engine, input)

/-- What is noted of at most so many moves. -/
def record (host : Host β) : Nat → World β → List (Engine × Input)
  | 0, _ => []
  | fuel + 1, world =>
      match world.move? host with
      | some next => world.moveRecord ++ record host fuel next
      | none => []

theorem course_move {next : World β} (moves : world.move? host = some next) :
    Course host drifts world world.moveRecord next := by
  have here : Course host drifts world [] world := .nothing
  unfold move? at moves
  unfold moveRecord
  split at moves
  · rename_i input back waiting
    cases moves
    have arrived : world.inbox = [] ++ input :: back := waiting
    rw [waiting]
    exact here.handled arrived
  · rename_i job back idle waiting
    cases moves
    have begun : world.jobs = [] ++ job :: back := waiting
    have asked : Course host drifts world [] _ := here.asked begun
    rw [idle] at asked ⊢
    exact asked
  · rename_i idle _
    obtain ⟨kind, -, rfl⟩ := Option.map_eq_some_iff.1 moves
    rw [idle]
    exact course_act world kind

/-- **What a world does by itself is a course.** -/
theorem course_moves (fuel : Nat) (world : World β) :
    Course host drifts world (record host fuel world) (moves host fuel world) := by
  induction fuel generalizing world with
  | zero => exact .nothing
  | succ fuel ih =>
      unfold record moves
      cases moved : world.move? host with
      | none => exact .nothing
      | some next => exact (course_move moved).trans (ih next)

/-- A caller asks something, and the world comes to rest. -/
theorem Course.asks (before : Course host drifts start past world) (caller : Caller)
    (command : Command) :
    ∃ whole, Course host drifts start whole
      ((world.post (.command caller command)).settle host) := by
  exact ⟨_, (before.commanded caller command).trans (course_moves _ _)⟩

end Courses

end World

end SessionSync
