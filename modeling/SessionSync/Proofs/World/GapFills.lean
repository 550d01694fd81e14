import SessionSync.Engine.Snapshot
import SessionSync.Proofs.World.Journal
import Mathlib.Data.List.Perm.Basic

/-!
# The flag of gaps that are being filled

Any number of gaps can be on their way to be filled, for the present connection of the
session slot and for earlier ones, but a single flag stands for all of them.  It is set when
the filling of a gap begins, and it is taken back when a page comes that still counts, or
when another session is selected.  A page that comes too late leaves it alone.

So the flag tells what the last of these turns was (`Course.filling`).  It is true of the
present connection while nothing disturbs this: it stays set when the connection for which
the last gap was begun is superseded, whatever becomes of the page, and it is taken back by
the first of several pages for one connection (`syncing_tells_iff`).
-/

set_option autoImplicit false

namespace SessionSync

/-! ## What is under way -/

/-- The gap whose page an input brings. -/
def Input.fill? : Input → Option GapFill
  | .syncFetched asker sessionId generation _ => some ⟨asker, sessionId, generation⟩
  | _ => none

namespace World

variable {β : Type}

/-- The gaps whose filling has begun and whose pages were not handled yet. -/
def underWay (world : World β) : List GapFill :=
  world.inbox.filterMap Input.fill? ++ world.jobs.filterMap Job.fill? ++
    world.parked.filterMap fun parked => parked.job.fill?

section UnderWay

variable {host : Host β} {world next : World β}

theorem fills_news (events : List ChannelEvent) :
    (events.map Input.channel).filterMap Input.fill? = [] := by
  simp [Input.fill?]

theorem fills_resume (job : Job) (outcome : Backend.Outcome job.call) :
    (job.resume outcome).1.filterMap Input.fill? = job.fill?.toList ∧
      (job.resume outcome).2.toList.filterMap Job.fill? = [] := by
  cases job with
  | refresh caller => exact ⟨rfl, rfl⟩
  | sync caller sessionId generation limit offset => exact ⟨rfl, rfl⟩
  | select task =>
      refine ⟨?_, ?_⟩
      · simp [Job.resume, Job.fill?, Input.fill?]
      · show ((task.resume outcome).2.map Job.select).toList.filterMap Job.fill? = []
        cases (task.resume outcome).2 <;> rfl

/-- A job that goes on takes its gap along. -/
theorem underWay_resume (world : World β) (job : Job) (outcome : Backend.Outcome job.call) :
    (world.resume job outcome).underWay.Perm (world.underWay ++ job.fill?.toList) := by
  obtain ⟨brought, left⟩ := fills_resume job outcome
  rw [List.perm_iff_count]
  intro fill
  simp only [underWay, resume, List.filterMap_append, List.count_append, brought, left,
    List.count_nil]
  omega

theorem underWay_ask {front back : List Job} {job : Job}
    (begun : world.jobs = front ++ job :: back) :
    ({ world with jobs := front ++ back }.ask host job).underWay.Perm world.underWay := by
  have split : world.underWay.Perm
      (({ world with jobs := front ++ back } : World β).underWay ++ job.fill?.toList) := by
    rw [List.perm_iff_count]
    intro fill
    simp only [underWay, begun, List.filterMap_append, filterMap_cons_eq, List.count_append]
    omega
  refine List.Perm.trans ?_ split.symm
  rcases ask_cases host { world with jobs := front ++ back } job with
    ⟨backend, seen, outcome, same⟩ | ⟨backend, seen, outcome, same⟩
  · rw [same]
    simp [underWay, filterMap_cons_eq]
  · rw [same]
    exact underWay_resume _ job outcome

theorem underWay_release {index : Nat} {call : Backend.Call}
    (freed : world.release? index = some (next, call)) :
    next.underWay.Perm world.underWay := by
  obtain ⟨parked, held, rfl⟩ := release_cases freed
  refine (underWay_resume _ parked.job parked.outcome).trans ?_
  obtain ⟨bound, rfl⟩ := List.getElem?_eq_some_iff.1 held
  have whole := (List.getElem_cons_eraseIdx_perm bound).filterMap fun parked => parked.job.fill?
  rw [List.perm_iff_count] at whole ⊢
  intro fill
  have counted := whole fill
  simp only [filterMap_cons_eq, List.count_append] at counted
  simp only [underWay, List.count_append]
  omega

theorem underWay_post (world : World β) (caller : Caller) (command : Command) :
    (world.post (.command caller command)).underWay.Perm world.underWay := by
  simp [underWay, post, filterMap_cons_eq, Input.fill?]

theorem underWay_putSlot (world : World β) (kind : SlotKind)
    (outcome : Slot × List ChannelEvent) :
    (world.putSlot kind outcome).underWay.Perm world.underWay := by
  simp only [underWay, putSlot, List.filterMap_append, fills_news, List.append_nil]
  exact .refl _

/-- Nobody gives up the filling of a gap. -/
theorem filterMap_isWanted (engine : Engine) (jobs : List Job) :
    (jobs.filter (isWanted engine)).filterMap Job.fill? = jobs.filterMap Job.fill? := by
  rw [List.filterMap_filter]
  congr 1
  funext job
  cases job <;> simp [isWanted, Job.fill?]

theorem filterMap_isWanted_parked (engine : Engine) (parked : List Parked) :
    (parked.filter fun parked => isWanted engine parked.job).filterMap
        (fun parked => parked.job.fill?) = parked.filterMap fun parked => parked.job.fill? := by
  rw [List.filterMap_filter]
  congr 1
  funext parked
  cases parked.job <;> simp [isWanted, Job.fill?]

/-- The engine adds the gaps that it begins to fill. -/
theorem underWay_handle (world : World β) (input : Input) :
    (world.handle input).underWay.Perm
      (world.underWay ++ fillsIn (world.engine.step input).2) := by
  obtain ⟨seen, same⟩ := world.handle_eq input
  rw [same, fillsIn_eq, List.perm_iff_count]
  intro fill
  simp only [underWay, List.filterMap_append, fills_news, filterMap_isWanted, filterMap_isWanted_parked,
    List.count_append, List.count_nil]
  omega

end UnderWay

end World

/-! ## The last turn of the flag -/

/-- A turn that writes the flag. -/
def LinkTurn.filling? : LinkTurn → Option LinkTurn
  | .selects => some .selects
  | .fills fill => some (.fills fill)
  | .filled => some .filled
  | _ => none

theorem LinkTurn.quiet_of_filling? {turn : LinkTurn} (writes : turn.filling? = none)
    (before : Bool) : turn.syncing before = before ∧ turn.fill? = none ∧ turn ≠ .filled := by
  cases turn with
  | selects => cases writes
  | fills fill => cases writes
  | filled => cases writes
  | _ => exact ⟨rfl, rfl, LinkTurn.noConfusion⟩

namespace Engine

/-- The last turn of steps that has written the flag. -/
def lastFilling? (past : List (Engine × Input)) : Option LinkTurn :=
  latest? LinkTurn.filling? (linkTurns past)

theorem lastFilling?_concat (past : List (Engine × Input)) (entry : Engine × Input) :
    lastFilling? (past ++ [entry]) =
      ((entry.1.link? entry.2).bind LinkTurn.filling?).or (lastFilling? past) := by
  unfold lastFilling?
  rw [linkTurns_append, linkTurns_singleton]
  cases entry.1.link? entry.2 with
  | none => simp
  | some turn => exact latest?_concat _ _ turn

section Inputs

variable {engine : Engine} {input : Input} {fill : GapFill}

/-- The filling of a gap begins when a caller asks for it, or when the stream of a session is
open again. -/
theorem fills_cases (fills : engine.link? input = some (.fills fill)) :
    (fill.asker.isSome = true ∧
        engine.sessionSlot.target? = some (.session fill.sessionId) ∧
        fill.generation = engine.sessionSlot.generation) ∨
      (input = .channel (.opened (.session fill.sessionId) fill.generation .reconnect) ∧
        engine.accepts (.opened (.session fill.sessionId) fill.generation .reconnect) = true) := by
  cases (makes_of_link? fills).2 with
  | syncMessages caller held => exact Or.inl ⟨rfl, held, rfl⟩
  | reopened accepted => exact Or.inr ⟨rfl, accepted⟩

/-- It begins for the connection that the session slot has. -/
theorem current_of_fills (fills : engine.link? input = some (.fills fill)) :
    engine.sessionSlot.target? = some (.session fill.sessionId) ∧
      fill.generation = engine.sessionSlot.generation := by
  rcases fills_cases fills with ⟨-, asked⟩ | ⟨-, accepted⟩
  · exact asked
  · obtain ⟨target, same⟩ := Slot.accepts_iff.1 accepted
    exact ⟨target, same.symm⟩

/-- The page for the connection that the session slot has is taken. -/
theorem filled_of_current (running : engine.running = true) (brings : input.fill? = some fill)
    (placed : engine.sessionSlot.target? = some (.session fill.sessionId))
    (current : fill.generation = engine.sessionSlot.generation) :
    engine.link? input = some .filled := by
  cases input with
  | syncFetched asker sessionId generation outcome =>
      cases brings
      have counts : engine.syncIsCurrent sessionId generation = true := by
        simp [syncIsCurrent, placed, ← current]
      simp [link?, running, handledLink?, counts]
  | _ => cases brings

end Inputs

end Engine

/-! ## What the flag tells -/

/-- The flag after a last turn, beside the generation of the session slot and the gaps that
are under way.  When that turn has begun to fill a gap the flag is set; the gap is the latest
one, and it is under way as long as its connection is the present one. -/
def FlagAfter (last : Option LinkTurn) (syncing : Bool) (generation : Nat)
    (gaps : List GapFill) : Prop :=
  match last with
  | some (.fills fill) =>
      syncing = true ∧ fill.generation ≤ generation ∧
        (∀ other ∈ gaps, other.generation ≤ fill.generation) ∧
        (fill.generation = generation → fill ∈ gaps)
  | some .filled => syncing = false
  | _ => syncing = false ∧ ∀ other ∈ gaps, other.generation < generation

/-- The gaps that are under way were begun for the connections that the session slot has had,
and the flag is that of the last turn. -/
structure Filling (last : Option LinkTurn) (syncing : Bool) (slot : Slot)
    (gaps : List GapFill) : Prop where
  bounded : ∀ fill ∈ gaps, fill.generation ≤ slot.generation
  placed : ∀ fill ∈ gaps, fill.generation = slot.generation →
    slot.target? = some (.session fill.sessionId)
  flag : FlagAfter last syncing slot.generation gaps

namespace Filling

variable {last : Option LinkTurn} {syncing : Bool} {slot next : Slot} {gaps left : List GapFill}

/-- The slot goes on, and of the gaps only those may be done with that do not count any
more. -/
theorem goesOn (filling : Filling last syncing slot gaps) (continues : slot.Continues next)
    (fewer : ∀ fill ∈ left, fill ∈ gaps)
    (kept : ∀ fill ∈ gaps, fill.generation = slot.generation → fill ∈ left) :
    Filling last syncing next left := by
  have unmoved : ∀ generation, generation ≤ slot.generation → generation = next.generation →
      next.generation = slot.generation := by
    rintro generation bounded rfl
    exact Nat.le_antisymm bounded continues.le
  refine ⟨fun fill member => ?_, fun fill member current => ?_, ?_⟩
  · exact Nat.le_trans (filling.bounded fill (fewer fill member)) continues.le
  · have same := unmoved _ (filling.bounded fill (fewer fill member)) current
    rw [continues.target same]
    exact filling.placed fill (fewer fill member) (current.trans same)
  · have below : (∀ other ∈ gaps, other.generation < slot.generation) →
        ∀ other ∈ left, other.generation < next.generation :=
      fun passed other member => Nat.lt_of_lt_of_le (passed other (fewer other member)) continues.le
    have flag := filling.flag
    cases last with
    | none => exact ⟨flag.1, below flag.2⟩
    | some turn =>
        cases turn with
        | fills fill =>
            obtain ⟨set, begun, latest, waits⟩ := flag
            refine ⟨set, Nat.le_trans begun continues.le, ?_, fun current => ?_⟩
            · exact fun other member => latest other (fewer other member)
            · have before := current.trans (unmoved _ begun current)
              exact kept fill (waits before) before
        | filled => exact flag
        | _ => exact ⟨flag.1, below flag.2⟩

/-- A selection ends the stream, and all gaps with it. -/
theorem selects (filling : Filling last syncing slot gaps)
    (raised : slot.generation < next.generation) (fewer : ∀ fill ∈ left, fill ∈ gaps) :
    Filling (some .selects) false next left := by
  have passed : ∀ fill ∈ left, fill.generation < next.generation := fun fill member =>
    Nat.lt_of_le_of_lt (filling.bounded fill (fewer fill member)) raised
  refine ⟨fun fill member => Nat.le_of_lt (passed fill member), fun fill member current => ?_,
    rfl, passed⟩
  exact absurd current (Nat.ne_of_lt (passed fill member))

/-- The filling of a gap begins for the present connection. -/
theorem fills (filling : Filling last syncing slot gaps) {fill : GapFill}
    (target : slot.target? = some (.session fill.sessionId))
    (current : fill.generation = slot.generation) (begun : fill ∈ left)
    (others : ∀ other ∈ left, other ∈ gaps ∨ other = fill) :
    Filling (some (.fills fill)) true slot left := by
  have bounded : ∀ other ∈ left, other.generation ≤ slot.generation := by
    intro other member
    rcases others other member with known | rfl
    · exact filling.bounded other known
    · exact Nat.le_of_eq current
  refine ⟨bounded, fun other member counts => ?_, rfl, Nat.le_of_eq current, ?_, fun _ => begun⟩
  · rcases others other member with known | rfl
    · exact filling.placed other known counts
    · exact target
  · rw [current]
    exact bounded

/-- A page for the present connection has come. -/
theorem filled (filling : Filling last syncing slot gaps) (fewer : ∀ fill ∈ left, fill ∈ gaps) :
    Filling (some .filled) false slot left :=
  ⟨fun fill member => filling.bounded fill (fewer fill member),
    fun fill member => filling.placed fill (fewer fill member), rfl⟩

end Filling

/-! ### Whether the flag is true -/

/-- Whether the flag of a last turn is true of a connection: the last gap that was begun is
one of this connection, or a page has come and no other gap of this connection is under
way. -/
def FlagIsTrue (last : Option LinkTurn) (generation : Nat) (gaps : List GapFill) : Prop :=
  match last with
  | some (.fills fill) => fill.generation = generation
  | some .filled => ∀ fill ∈ gaps, fill.generation ≠ generation
  | _ => True

theorem Filling.tells_iff {last : Option LinkTurn} {syncing : Bool} {slot : Slot}
    {gaps : List GapFill} (filling : Filling last syncing slot gaps) :
    (syncing = true ↔ ∃ fill, last = some (.fills fill)) ∧
      ((syncing = true ↔ ∃ fill ∈ gaps, fill.generation = slot.generation) ↔
        FlagIsTrue last slot.generation gaps) := by
  have none : syncing = false ∧ (∀ fill ∈ gaps, fill.generation < slot.generation) →
      ((syncing = true ↔ ∃ fill ∈ gaps, fill.generation = slot.generation) ↔ True) := by
    rintro ⟨off, passed⟩
    refine iff_true_intro (iff_of_false (by simp [off]) ?_)
    rintro ⟨fill, member, current⟩
    exact absurd current (Nat.ne_of_lt (passed fill member))
  have flag := filling.flag
  cases last with
  | none => exact ⟨by simp [flag.1], none flag⟩
  | some turn =>
      cases turn with
      | fills fill =>
          obtain ⟨set, begun, latest, waits⟩ := flag
          refine ⟨by simp [set], ⟨fun tells => ?_, fun current => ?_⟩⟩
          · -- Whatever is under way for the present connection is no later than the last gap.
            obtain ⟨other, member, current⟩ := tells.1 set
            exact Nat.le_antisymm begun (current ▸ latest other member)
          · exact iff_of_true set ⟨fill, waits current, current⟩
      | filled =>
          have off : syncing = false := flag
          simp [off, FlagIsTrue]
      | _ => exact ⟨by simp [flag.1], none flag⟩

namespace World

variable {β : Type} {host : Host β} {drifts : β → β → Prop} {world : World β}
  {past : List (Engine × Input)}

open Engine (lastFilling?)

/-- What a world says of the gaps that are being filled. -/
abbrev FillingIn (last : Option LinkTurn) (world : World β) : Prop :=
  Filling last world.engine.syncing world.engine.sessionSlot world.underWay

/-- An input that is handled takes its gap from those under way, and its turn adds one. -/
theorem mem_underWay_handled {front back : List Input} {input : Input}
    (arrived : world.inbox = front ++ input :: back) (fill : GapFill) :
    (fill ∈ ({ world with inbox := front ++ back }.handle input).underWay →
      fill ∈ world.underWay ∨
        (world.engine.link? input).bind LinkTurn.fill? = some fill) ∧
    ((world.engine.link? input).bind LinkTurn.fill? = some fill →
      fill ∈ ({ world with inbox := front ++ back }.handle input).underWay) ∧
    (fill ∈ world.underWay →
      fill ∈ ({ world with inbox := front ++ back }.handle input).underWay ∨
        input.fill? = some fill) := by
  have under := (underWay_handle { world with inbox := front ++ back } input).mem_iff (a := fill)
  have whole : world.underWay.Perm
      (({ world with inbox := front ++ back } : World β).underWay ++ input.fill?.toList) := by
    rw [List.perm_iff_count]
    intro other
    simp only [underWay, arrived, List.filterMap_append, filterMap_cons_eq, List.count_append]
    omega
  have before := whole.mem_iff (a := fill)
  rw [(world.engine.relinks_step input).fills, List.mem_append, Option.mem_toList] at under
  rw [List.mem_append, Option.mem_toList] at before
  rw [under, before]
  exact ⟨fun after => after.imp_left Or.inl, Or.inr, fun held => held.imp_left Or.inl⟩

theorem filling_handle {last : Option LinkTurn} (filling : FillingIn last world)
    (stopped : world.engine.running = false → world.engine.sessionSlot.target? = none)
    {front back : List Input} {input : Input} (arrived : world.inbox = front ++ input :: back) :
    FillingIn (((world.engine.link? input).bind LinkTurn.filling?).or last)
      ({ world with inbox := front ++ back }.handle input) := by
  have under := mem_underWay_handled arrived
  have taken : ∀ fill ∈ world.underWay, input.fill? = some fill →
      fill.generation = world.engine.sessionSlot.generation →
      world.engine.link? input = some .filled := by
    intro fill member brings current
    have placed := filling.placed fill member current
    cases running : world.engine.running with
    | true => exact Engine.filled_of_current running brings placed current
    | false =>
        rw [stopped running] at placed
        cases placed
  have links := (world.engine.relinks_step input).links
  have continues := world.engine.continues_step input .session
  have slots := world.engine.get_slots_step input .session
  unfold FillingIn
  generalize ({ world with inbox := front ++ back }.handle input).underWay = left at under ⊢
  rw [engine_handle]
  cases turned : world.engine.link? input with
  | none =>
      rw [turned] at links
      have syncing : (world.engine.step input).1.syncing = world.engine.syncing :=
        congrArg Links.syncing links
      simp only [turned] at under taken
      rw [syncing]
      refine filling.goesOn continues (fun fill member => ?_) fun fill member current => ?_
      · exact ((under fill).1 member).resolve_right (by simp)
      · refine ((under fill).2.2 member).resolve_right fun brings => ?_
        exact nomatch taken fill member brings current
  | some turn =>
      rw [turned] at links slots
      have syncing : (world.engine.step input).1.syncing = turn.syncing world.engine.syncing :=
        congrArg Links.syncing links
      simp only [turned, Option.bind_some] at under taken
      have fewer : turn.fill? = none → ∀ fill ∈ left, fill ∈ world.underWay :=
        fun none fill member => ((under fill).1 member).resolve_right (by simp [none])
      rw [syncing, Option.bind_some]
      cases writes : turn.filling? with
      | none =>
          obtain ⟨same, begins, other⟩ := turn.quiet_of_filling? writes world.engine.syncing
          rw [same]
          refine filling.goesOn continues (fewer begins) fun fill member current => ?_
          refine ((under fill).2.2 member).resolve_right fun brings => other ?_
          exact Option.some.inj (taken fill member brings current)
      | some written =>
          cases turn with
          | selects =>
              cases writes
              have ends : world.engine.sessionSlot.supersedes .close = true := rfl
              have raised := world.engine.sessionSlot.generation_lt_of_supersedes ends
              have closed : (world.engine.step input).1.sessionSlot =
                  world.engine.sessionSlot.close := slots
              rw [closed]
              exact filling.selects raised (fewer rfl)
          | fills fill =>
              cases writes
              obtain ⟨target, current⟩ := Engine.current_of_fills turned
              have begun : fill ∈ left := (under fill).2.1 rfl
              have others : ∀ other ∈ left, other ∈ world.underWay ∨ other = fill :=
                fun other member => ((under other).1 member).imp_right fun same =>
                  (Option.some.inj same).symm
              have kept : (world.engine.step input).1.sessionSlot = world.engine.sessionSlot := slots
              rw [kept]
              exact filling.fills target current begun others
          | filled =>
              cases writes
              have kept : (world.engine.step input).1.sessionSlot = world.engine.sessionSlot := slots
              rw [kept]
              exact filling.filled (fewer rfl)
          | _ => cases writes

/-- **Along every course the flag is that of the last turn**, and the gaps that are under way
are those of the connections that the session slot has had. -/
theorem Course.filling {config : Config} {backend : β} {reachable : Bool}
    (course : Course host drifts (.new config backend reachable) past world) :
    FillingIn (lastFilling? past) world := by
  induction course with
  | nothing =>
      refine ⟨fun _ none => ?_, fun _ none => ?_, rfl, fun _ none => ?_⟩
      all_goals cases none
  | @commanded past world before caller command ih =>
      have same := world.underWay_post caller command
      exact ih.goesOn (.refl _) (fun fill => same.mem_iff.1) fun fill member _ =>
        same.mem_iff.2 member
  | handled before arrived ih =>
      rw [Engine.lastFilling?_concat]
      exact filling_handle ih (fun stopped => before.engine.idle_of_stopped stopped .session) arrived
  | @asked past world front back job before begun ih =>
      have same : ({ world with jobs := front ++ back }.ask host job).underWay.Perm
          world.underWay := underWay_ask begun
      have undisturbed := undisturbed_ask host { world with jobs := front ++ back } job
      unfold FillingIn
      rw [undisturbed.engine]
      exact ih.goesOn (.refl _) (fun fill => same.mem_iff.1) fun fill member _ =>
        same.mem_iff.2 member
  | released before index freed ih =>
      have same := underWay_release freed
      unfold FillingIn
      rw [(undisturbed_release freed).engine]
      exact ih.goesOn (.refl _) (fun fill => same.mem_iff.1) fun fill member _ =>
        same.mem_iff.2 member
  | @turned past world before kind turn own ih =>
      have same := world.underWay_putSlot kind ((world.engine.slots.get kind).turned turn)
      have inStep := (before.engine.fits kind).inStep
      have continues : world.engine.sessionSlot.Continues
          (world.putSlot kind ((world.engine.slots.get kind).turned turn)).engine.sessionSlot := by
        cases kind with
        | session => exact inStep.continues own
        | _ => exact .refl _
      exact ih.goesOn continues (fun fill => same.mem_iff.1) fun fill member _ =>
        same.mem_iff.2 member
  | drifted before drift ih => exact ⟨ih.bounded, ih.placed, ih.flag⟩
  | passed before reachable refusals now seen ih => exact ⟨ih.bounded, ih.placed, ih.flag⟩

/-- **What the flag of gaps tells.**  Along every course of a world, while a session is in
focus, readers see the flag set exactly if the last turn that has written it began to fill a
gap.  It is true of the present connection of the session slot, that is, set exactly while a
gap that was begun for this connection is under way, if and only if the connection of that
last gap is still the present one, or, where the last turn was a page, if the page was the
only one under way for the present connection. -/
theorem syncing_tells_iff {config : Config} {backend : β} {reachable : Bool}
    (course : Course host drifts (.new config backend reachable) past world) {sessionId : String}
    (focused : world.engine.sessions.currentId = some sessionId) :
    (world.engine.snapshot.syncing = true ↔
        ∃ fill, lastFilling? past = some (.fills fill)) ∧
      ((world.engine.snapshot.syncing = true ↔
          ∃ fill ∈ world.underWay, fill.generation = world.engine.sessionSlot.generation) ↔
        FlagIsTrue (lastFilling? past) world.engine.sessionSlot.generation world.underWay) := by
  have seen : world.engine.snapshot.syncing = world.engine.syncing := by
    simp [Engine.snapshot, focused]
  rw [seen]
  exact course.filling.tells_iff

/-- A gap begins to be filled, and before its page is asked for the stream ends and cannot be
opened again. -/
def leftSyncing : World (List Message) :=
  let following := ((World.new {} [] true).post (.command 0 (.selectSession "s"))).settle journal
  let filling := (following.post (.command 1 (.syncMessages "s"))).moves journal 1
  let ended := filling.putSlot .session (filling.engine.sessionSlot.turned .dropped)
  let again := ended.putSlot .session (ended.engine.sessionSlot.turned .retry)
  { again with reachable := false }.settle journal

/-- The flag stays set although every gap that was begun has been answered. -/
theorem syncing_tells_iff_of_leftSyncing :
    ∃ past, Course journal Eq (.new {} [] true) past leftSyncing ∧
      leftSyncing.engine.sessions.currentId = some "s" ∧
      leftSyncing.engine.snapshot.syncing = true ∧ leftSyncing.underWay = [] ∧
      ∃ fill, lastFilling? past = some (.fills fill) ∧
        fill.generation ≠ leftSyncing.engine.sessionSlot.generation := by
  have begins : Course journal Eq (.new {} [] true) [] (.new {} [] true) := .nothing
  obtain ⟨first, following⟩ := begins.asks 0 (.selectSession "s")
  have filling := (following.commanded 1 (.syncMessages "s")).trans (course_moves 1 _)
  have ended := filling.turned .session (show SlotTurn.isOwn .dropped = true from rfl)
  have again := ended.turned .session (show SlotTurn.isOwn .retry = true from rfl)
  obtain ⟨past, course⟩ : ∃ past, Course journal Eq (.new {} [] true) past leftSyncing :=
    ⟨_, (again.passed false _ _ _).trans (course_moves _ _)⟩
  have focused : leftSyncing.engine.sessions.currentId = some "s" := by decide +kernel
  have set : leftSyncing.engine.snapshot.syncing = true := by decide +kernel
  have answered : leftSyncing.underWay = [] := by decide +kernel
  obtain ⟨last, tells⟩ := syncing_tells_iff course focused
  obtain ⟨fill, fills⟩ := last.1 set
  refine ⟨past, course, focused, set, answered, fill, fills, fun current => ?_⟩
  rw [fills, answered] at tells
  have under := (tells.2 current).1 set
  simp at under

end World

end SessionSync
