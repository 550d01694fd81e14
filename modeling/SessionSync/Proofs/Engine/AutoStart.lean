import SessionSync.Engine.Selection

/-!
# Starting a session on the way

A selection task asks the backend until it has the history, or until it lacks what it cannot
do without.  On the way it starts a session that does not run, and asks for its record again
until it does.  Here a task is let run against a backend that may answer each call in any way
(`course`).

A course has a fixed shape: the first record, at most one start, some polls, and the history
(`course_start_eq`).  Polls are described as what they are, one answer after another (`Polls`),
so everything that a whole course is bound to follows by induction over its polls
(`course_start_bounded`).
-/

set_option autoImplicit false

namespace SessionSync

/-- The state that a step reports. -/
def SelectionStep.state? : SelectionStep → Option SessionState
  | .session record => some record.state
  | .history _ | .failed _ => none

namespace SelectionTask

open Backend (Call Outcome)

/-! ## Stages -/

theorem ofState_eq_ready_iff {state : SessionState} :
    StartPlan.ofState state = .ready ↔ [SessionState.active, .paused].contains state = true := by
  cases state <;> decide

theorem ofState_eq_start_iff {state : SessionState} :
    StartPlan.ofState state = .start ↔
      [SessionState.created, .terminated, .error].contains state = true := by
  cases state <;> decide

theorem await_of_ready {session : Session} (runs : StartPlan.ofState session.state = .ready)
    (left : Nat) : await session left = .loading := by
  cases left with
  | zero => rfl
  | succ left => exact if_pos runs

theorem await_of_waits {session : Session} (waits : StartPlan.ofState session.state ≠ .ready)
    (left : Nat) : await session (left + 1) = .polling session left := if_neg waits

/-- The most calls that are still to come at a stage. -/
def callsLeft (task : SelectionTask) : Nat :=
  match task.stage with
  | .fetching => task.maxPolls + 3
  | .starting _ => task.maxPolls + 2
  | .polling _ left => left + 2
  | .loading => 1

/-- With every answer fewer calls are left. -/
theorem callsLeft_resume {task next : SelectionTask} {outcome : Outcome task.call}
    (goesOn : (task.resume outcome).2 = some next) : next.callsLeft < task.callsLeft := by
  obtain ⟨sessionId, epoch, historyLimit, maxPolls, stage⟩ := task
  have await_le : ∀ session left,
      callsLeft ⟨sessionId, epoch, historyLimit, maxPolls, await session left⟩ ≤ left + 1 := by
    intro session left
    by_cases runs : StartPlan.ofState session.state = .ready
    · rw [await_of_ready runs]
      exact Nat.le_add_left 1 left
    · cases left with
      | zero => exact Nat.le_refl 1
      | succ left =>
          rw [await_of_waits runs]
          exact Nat.le_refl (left + 2)
  cases stage with
  | fetching =>
      cases outcome with
      | error failure => cases goesOn
      | ok session =>
          obtain rfl := Option.some_inj.1 goesOn
          show callsLeft ⟨sessionId, epoch, historyLimit, maxPolls, afterFetch maxPolls session⟩ <
            maxPolls + 3
          unfold afterFetch
          split
          · exact Nat.lt_add_left maxPolls (show 1 < 3 from by decide)
          · exact Nat.lt_succ_self (maxPolls + 2)
          · exact Nat.lt_of_le_of_lt (await_le session maxPolls) (by omega)
  | starting session =>
      cases outcome with
      | error failure =>
          obtain rfl := Option.some_inj.1 goesOn
          exact Nat.lt_succ_of_le (await_le session maxPolls)
      | ok started =>
          obtain rfl := Option.some_inj.1 goesOn
          exact Nat.lt_succ_of_le (await_le started maxPolls)
  | polling session left =>
      cases outcome with
      | error failure =>
          obtain rfl := Option.some_inj.1 goesOn
          exact Nat.lt_succ_of_le (await_le session left)
      | ok latest =>
          obtain rfl := Option.some_inj.1 goesOn
          exact Nat.lt_succ_of_le (await_le latest left)
  | loading => cases outcome <;> cases goesOn

/-! ## Courses -/

/-- What the backend will answer to each call, by the number of the calls before. -/
abbrev Answers : Type := Nat → (call : Call) → Outcome call

/-- A call, the answer to it, and what the task reports then. -/
structure Turn where
  call : Call
  outcome : Outcome call
  steps : List SelectionStep

/-- The turns of a task, from a number of calls on, if nothing stops it. -/
def course (answers : Answers) (index : Nat) (task : SelectionTask) : List Turn :=
  let outcome := answers index task.call
  { call := task.call, outcome, steps := (task.resume outcome).1 } ::
    match goesOn : (task.resume outcome).2 with
    | none => []
    | some next => next.course answers (index + 1)
termination_by task.callsLeft
decreasing_by exact callsLeft_resume goesOn

theorem course_eq (answers : Answers) (index : Nat) (task : SelectionTask) :
    task.course answers index =
      ⟨task.call, answers index task.call, (task.resume (answers index task.call)).1⟩ ::
        (task.resume (answers index task.call)).2.elim [] fun next =>
          next.course answers (index + 1) := by
  rw [course]
  congr 1
  split
  · rename_i ends
    rw [ends]
    rfl
  · rename_i next goesOn
    rw [goesOn]
    rfl

/-- Every call of a course is answered in its turn. -/
theorem outcome_course (answers : Answers) (task : SelectionTask) (first index : Nat) {turn : Turn}
    (taken : (task.course answers first)[index]? = some turn) :
    turn.outcome = answers (first + index) turn.call := by
  induction index generalizing task first with
  | zero =>
      rw [course_eq] at taken
      obtain rfl := Option.some_inj.1 taken
      rfl
  | succ index ih =>
      rw [course_eq, List.getElem?_cons_succ] at taken
      cases goesOn : (task.resume (answers first task.call)).2 with
      | none =>
          rw [goesOn] at taken
          cases taken
      | some next =>
          rw [goesOn] at taken
          rw [ih next (first + 1) taken, Nat.add_right_comm, Nat.add_assoc]

/-! ## The parts of a course -/

namespace Turn

/-- The state that the answer of a turn brings. -/
def state? : Turn → Option SessionState
  | ⟨.fetchSession _, .ok record, _⟩ | ⟨.startSession _, .ok record, _⟩ => some record.state
  | _ => none

/-- Whether the answer of a turn shows that the session runs. -/
def showsRunning (turn : Turn) : Bool :=
  turn.state?.any fun state => [.active, .paused].contains state

end Turn

/-- What a task reports when the history has arrived, or could not be fetched. -/
def ending {sessionId : String} {limit offset : Nat} :
    Outcome (.fetchMessages sessionId limit offset) → SelectionStep
  | .ok page => .history page
  | .error failure => .failed failure

/-- The turn that brings the first record. -/
def firstTurn (sessionId : String) (first : Session) : Turn :=
  { call := .fetchSession sessionId, outcome := .ok first, steps := [.session first] }

/-- The last turn of a task that has a first record. -/
def lastTurn (answers : Answers) (index : Nat) (sessionId : String) (limit : Nat) : Turn :=
  let call : Call := .fetchMessages sessionId limit 0
  { call, outcome := answers index call, steps := [ending (answers index call)] }

/-- Polls for a session that was last seen in a record, with so many tries. -/
inductive Polls (sessionId : String) : Session → Nat → List Turn → Prop
  /-- No try is left. -/
  | spent (session : Session) : Polls sessionId session 0 []
  /-- The session runs. -/
  | ready {session : Session} (runs : StartPlan.ofState session.state = .ready) (left : Nat) :
      Polls sessionId session left []
  /-- A poll brings a record, which is reported if the state is another one. -/
  | seen {session latest : Session} {left : Nat} {later : List Turn}
      (waits : StartPlan.ofState session.state ≠ .ready)
      (next : Polls sessionId latest left later) :
      Polls sessionId session (left + 1)
        (⟨.fetchSession sessionId, .ok latest,
          if latest.state = session.state then [] else [.session latest]⟩ :: later)
  /-- A poll fails. -/
  | missed {session : Session} {left : Nat} {later : List Turn} (failure : Failure)
      (waits : StartPlan.ofState session.state ≠ .ready)
      (next : Polls sessionId session left later) :
      Polls sessionId session (left + 1) (⟨.fetchSession sessionId, .error failure, []⟩ :: later)

/-- The start of a session whose first record was fetched, where it needs one, and the record
that it leaves. -/
inductive Starts (sessionId : String) (first : Session) : List Turn → Session → Prop
  | needless (goes : StartPlan.ofState first.state ≠ .start) : Starts sessionId first [] first
  | started (dead : StartPlan.ofState first.state = .start) (record : Session) :
      Starts sessionId first [⟨.startSession sessionId, .ok record, [.session record]⟩] record
  | refused (dead : StartPlan.ofState first.state = .start) (failure : Failure) :
      Starts sessionId first [⟨.startSession sessionId, .error failure, []⟩] first

section Shape

variable (answers : Answers) (index : Nat) (sessionId : String) (epoch limit maxPolls : Nat)

theorem course_loading :
    course answers index ⟨sessionId, epoch, limit, maxPolls, .loading⟩ =
      [lastTurn answers index sessionId limit] := by
  rw [course_eq]
  unfold lastTurn ending resume
  dsimp only [call, callAt]
  cases answers index (.fetchMessages sessionId limit 0) with
  | ok page => rfl
  | error failure => rfl

/-- From a record on there are polls, and then the history. -/
theorem course_await (session : Session) (left : Nat) :
    ∃ polls, Polls sessionId session left polls ∧
      course answers index ⟨sessionId, epoch, limit, maxPolls, await session left⟩ =
        polls ++ [lastTurn answers (index + polls.length) sessionId limit] := by
  induction left generalizing session index with
  | zero => exact ⟨[], .spent session, course_loading answers index sessionId epoch limit maxPolls⟩
  | succ left ih =>
      by_cases runs : StartPlan.ofState session.state = .ready
      · refine ⟨[], .ready runs (left + 1), ?_⟩
        rw [await_of_ready runs]
        exact course_loading answers index sessionId epoch limit maxPolls
      · rw [await_of_waits runs, course_eq]
        unfold resume
        dsimp only [call, callAt]
        cases answers index (.fetchSession sessionId) with
        | ok latest =>
            obtain ⟨polls, polled, rest⟩ := ih (index + 1) latest
            refine ⟨_ :: polls, .seen runs polled, ?_⟩
            rw [List.length_cons, ← Nat.add_assoc, Nat.add_right_comm, List.cons_append, ← rest]
            rfl
        | error failure =>
            obtain ⟨polls, polled, rest⟩ := ih (index + 1) session
            refine ⟨_ :: polls, .missed failure runs polled, ?_⟩
            rw [List.length_cons, ← Nat.add_assoc, Nat.add_right_comm, List.cons_append, ← rest]
            rfl

/-- A first record is followed by a start, if the session needs one, by polls, and by the
history. -/
theorem course_afterFetch (first : Session) :
    ∃ starts session polls, Starts sessionId first starts session ∧
      Polls sessionId session maxPolls polls ∧
      course answers index ⟨sessionId, epoch, limit, maxPolls, afterFetch maxPolls first⟩ =
        starts ++ polls ++
          [lastTurn answers (index + starts.length + polls.length) sessionId limit] := by
  by_cases dead : StartPlan.ofState first.state = .start
  · have begins : afterFetch maxPolls first = .starting first := by
      unfold afterFetch
      rw [dead]
    rw [begins, course_eq]
    unfold resume
    dsimp only [call, callAt]
    cases answers index (.startSession sessionId) with
    | ok record =>
        obtain ⟨polls, polled, rest⟩ :=
          course_await answers (index + 1) sessionId epoch limit maxPolls record maxPolls
        refine ⟨_, record, polls, .started dead record, polled, ?_⟩
        rw [List.append_assoc, List.singleton_append]
        exact congrArg _ rest
    | error failure =>
        obtain ⟨polls, polled, rest⟩ :=
          course_await answers (index + 1) sessionId epoch limit maxPolls first maxPolls
        refine ⟨_, first, polls, .refused dead failure, polled, ?_⟩
        rw [List.append_assoc, List.singleton_append]
        exact congrArg _ rest
  · have waits : afterFetch maxPolls first = await first maxPolls := by
      unfold afterFetch
      cases plan : StartPlan.ofState first.state with
      | ready => exact (await_of_ready plan maxPolls).symm
      | start => exact absurd plan dead
      | poll => rfl
    obtain ⟨polls, polled, rest⟩ :=
      course_await answers index sessionId epoch limit maxPolls first maxPolls
    exact ⟨[], first, polls, .needless dead, polled, waits ▸ rest⟩

/-- **The shape of a course.**  It ends with the first call if that fails, and otherwise with
the history. -/
theorem course_start_eq (config : Config) :
    course answers 0 (start config sessionId epoch) =
      match answers 0 (.fetchSession sessionId) with
      | .error failure => [⟨.fetchSession sessionId, .error failure, [.failed failure]⟩]
      | .ok first => firstTurn sessionId first ::
          course answers 1 ⟨sessionId, epoch, config.historyLimit, config.startMaxPolls,
            afterFetch config.startMaxPolls first⟩ := by
  rw [course_eq]
  unfold resume start
  dsimp only [call, callAt]
  cases answers 0 (.fetchSession sessionId) with
  | error failure => rfl
  | ok first => rfl

end Shape

/-! ## What holds of polls -/

section Polling

variable {sessionId : String} {session : Session} {left : Nat} {polls : List Turn}
  (polled : Polls sessionId session left polls)
include polled

theorem Polls.map_call :
    polls.map Turn.call = List.replicate polls.length (.fetchSession sessionId) := by
  induction polled with
  | spent session => rfl
  | ready runs left => rfl
  | seen waits next ih => exact congrArg (List.cons _) ih
  | missed failure waits next ih => exact congrArg (List.cons _) ih

theorem Polls.length_le : polls.length ≤ left := by
  induction polled with
  | spent session => exact Nat.le_refl 0
  | ready runs left => exact Nat.zero_le left
  | seen waits next ih => exact Nat.succ_le_succ ih
  | missed failure waits next ih => exact Nat.succ_le_succ ih

/-- A session that runs is not polled. -/
theorem Polls.eq_nil (runs : StartPlan.ofState session.state = .ready) : polls = [] := by
  cases polled with
  | spent session => rfl
  | ready runs left => rfl
  | seen waits next => exact absurd runs waits
  | missed failure waits next => exact absurd runs waits

/-- A poll that shows the session running is the last one. -/
theorem Polls.pairwise : polls.Pairwise fun turn _ => turn.showsRunning = false := by
  induction polled with
  | spent session => exact .nil
  | ready runs left => exact .nil
  | @seen session latest left later waits next ih =>
      refine List.pairwise_cons.2 ⟨fun turn member => ?_, ih⟩
      refine Bool.eq_false_iff.2 fun runs => ?_
      rw [next.eq_nil (ofState_eq_ready_iff.2 runs)] at member
      cases member
  | missed failure waits next ih => exact List.pairwise_cons.2 ⟨fun _ _ => rfl, ih⟩

/-- Polls report nothing but records. -/
theorem Polls.steps_eq :
    ∃ records : List Session, polls.flatMap Turn.steps = records.map .session := by
  induction polled with
  | spent session => exact ⟨[], rfl⟩
  | ready runs left => exact ⟨[], rfl⟩
  | @seen session latest left later waits next ih =>
      obtain ⟨records, told⟩ := ih
      rw [List.flatMap_cons, told]
      split
      · exact ⟨records, rfl⟩
      · exact ⟨latest :: records, rfl⟩
  | missed failure waits next ih => exact ih

/-- No change of the state goes unreported: what polls report last is what they see last. -/
theorem Polls.getLast?_state : (((polls.flatMap Turn.steps).filterMap
      SelectionStep.state?).getLast?).getD session.state =
    ((polls.filterMap Turn.state?).getLast?).getD session.state := by
  induction polled with
  | spent session => rfl
  | ready runs left => rfl
  | @seen session latest left later waits next ih =>
      have brought : ((⟨.fetchSession sessionId, .ok latest, if latest.state = session.state then []
          else [.session latest]⟩ :: later : List Turn).filterMap Turn.state?) =
            latest.state :: later.filterMap Turn.state? := rfl
      rw [brought, List.getLast?_cons, Option.getD_some, ← ih, List.flatMap_cons,
        List.filterMap_append]
      dsimp only
      split
      · rename_i same
        rw [same]
        rfl
      · have told : ([SelectionStep.session latest].filterMap SelectionStep.state?) =
            [latest.state] := rfl
        rw [told, List.singleton_append, List.getLast?_cons, Option.getD_some]
  | missed failure waits next ih => exact ih

end Polling

/-! ## What holds of a start -/

section Starting

variable {sessionId : String} {first session : Session} {starts : List Turn}
  (started : Starts sessionId first starts session)
include started

theorem Starts.map_call : starts.map Turn.call =
    if [SessionState.created, .terminated, .error].contains first.state then
      [.startSession sessionId] else [] := by
  cases started with
  | needless goes => rw [if_neg fun dead => goes (ofState_eq_start_iff.2 dead)]; rfl
  | started dead => rw [if_pos (ofState_eq_start_iff.1 dead)]; rfl
  | refused dead failure => rw [if_pos (ofState_eq_start_iff.1 dead)]; rfl

/-- A start reports nothing but a record. -/
theorem Starts.steps_eq :
    ∃ records : List Session, starts.flatMap Turn.steps = records.map .session := by
  cases started with
  | needless goes => exact ⟨[], rfl⟩
  | started dead => exact ⟨[session], rfl⟩
  | refused dead failure => exact ⟨[], rfl⟩

/-- A session that runs is not started. -/
theorem Starts.eq_nil (runs : StartPlan.ofState first.state = .ready) :
    starts = [] ∧ session = first := by
  cases started with
  | needless goes => exact ⟨rfl, rfl⟩
  | started dead => rw [runs] at dead; cases dead
  | refused dead failure => rw [runs] at dead; cases dead

/-- A start that shows the session running leaves nothing to poll for. -/
theorem Starts.ready_of_showsRunning {turn : Turn} (member : turn ∈ starts)
    (runs : turn.showsRunning = true) : StartPlan.ofState session.state = .ready := by
  cases started with
  | needless goes => cases member
  | started dead =>
      obtain rfl := List.mem_singleton.1 member
      exact ofState_eq_ready_iff.2 runs
  | refused dead failure =>
      obtain rfl := List.mem_singleton.1 member
      cases runs

theorem Starts.pairwise (related : Turn → Turn → Prop) : starts.Pairwise related := by
  cases started with
  | needless goes => exact .nil
  | started dead => exact List.pairwise_singleton _ _
  | refused dead failure => exact List.pairwise_singleton _ _

/-- What is reported last and seen last after a start is so after the first record. -/
theorem Starts.getLast?_state {reported seen : List SessionState}
    (same : reported.getLast?.getD session.state = seen.getLast?.getD session.state) :
    ((starts.flatMap Turn.steps).filterMap SelectionStep.state? ++ reported).getLast?.getD
        first.state =
      (starts.filterMap Turn.state? ++ seen).getLast?.getD first.state := by
  cases started with
  | needless goes => exact same
  | started dead =>
      show (session.state :: reported).getLast?.getD first.state =
        (session.state :: seen).getLast?.getD first.state
      rw [List.getLast?_cons, List.getLast?_cons, same]
  | refused dead failure => exact same

end Starting

/-! ## Whole courses -/

section Whole

variable {sessionId : String} {first session : Session} {starts polls : List Turn} {left : Nat}
  (started : Starts sessionId first starts session) (polled : Polls sessionId session left polls)
include started polled

/-- Nothing but the history follows an answer that shows the session running. -/
theorem pairwise_whole (last : Turn) :
    (firstTurn sessionId first :: (starts ++ polls) ++ [last]).Pairwise fun turn later =>
      turn.showsRunning = true → later.call = last.call := by
  have between : (firstTurn sessionId first :: (starts ++ polls)).Pairwise
      fun turn _ => turn.showsRunning = false := by
    refine List.pairwise_cons.2 ⟨fun later member => ?_, List.pairwise_append.2
      ⟨started.pairwise _, polled.pairwise, fun turn before later member => ?_⟩⟩
    · refine Bool.eq_false_iff.2 fun runs => ?_
      have ready : StartPlan.ofState first.state = .ready := ofState_eq_ready_iff.2 runs
      obtain ⟨rfl, rfl⟩ := started.eq_nil ready
      rw [polled.eq_nil ready] at member
      cases member
    · refine Bool.eq_false_iff.2 fun runs => ?_
      rw [polled.eq_nil (started.ready_of_showsRunning before runs)] at member
      cases member
  refine List.pairwise_append.2 ⟨between.imp fun silent runs => ?_, List.pairwise_singleton _ _,
    fun _ _ later member _ => congrArg Turn.call (List.mem_singleton.1 member)⟩
  rw [silent] at runs
  cases runs

/-- What is reported last is what is seen last. -/
theorem getLast?_state_whole {last : Turn} (unseen : last.state? = none)
    (silent : last.steps.filterMap SelectionStep.state? = []) :
    (((firstTurn sessionId first :: (starts ++ polls) ++ [last]).flatMap Turn.steps).filterMap
        SelectionStep.state?).getLast? =
      ((firstTurn sessionId first :: (starts ++ polls) ++ [last]).filterMap
        Turn.state?).getLast? := by
  have told : (((firstTurn sessionId first :: (starts ++ polls) ++ [last]).flatMap
      Turn.steps).filterMap SelectionStep.state?) = first.state ::
        ((starts.flatMap Turn.steps).filterMap SelectionStep.state? ++
          (polls.flatMap Turn.steps).filterMap SelectionStep.state?) := by
    rw [List.flatMap_append, List.filterMap_append, List.flatMap_singleton, silent,
      List.append_nil, ← List.filterMap_append, ← List.flatMap_append]
    rfl
  have seen : (firstTurn sessionId first :: (starts ++ polls) ++ [last]).filterMap Turn.state? =
      first.state :: (starts.filterMap Turn.state? ++ polls.filterMap Turn.state?) := by
    rw [List.filterMap_append, List.filterMap_cons_none unseen, List.filterMap_nil,
      List.append_nil, ← List.filterMap_append]
    rfl
  rw [told, seen, List.getLast?_cons, List.getLast?_cons,
    started.getLast?_state polled.getLast?_state]

omit started in
/-- The calls: the record, a start if the session needs one, the polls, and the last call. -/
theorem map_call_whole (last : Turn) :
    (firstTurn sessionId first :: (starts ++ polls) ++ [last]).map Turn.call =
      (.fetchSession sessionId :: (starts.map Turn.call ++
        List.replicate polls.length (.fetchSession sessionId))) ++ [last.call] := by
  rw [← polled.map_call, ← List.map_append, List.map_append]
  rfl

/-- The reports: records, and what is reported last. -/
theorem steps_whole (last : Turn) : ∃ records : List Session,
    (firstTurn sessionId first :: (starts ++ polls) ++ [last]).flatMap Turn.steps =
      (first :: records).map .session ++ last.steps := by
  obtain ⟨begun, told⟩ := started.steps_eq
  obtain ⟨seen, told'⟩ := polled.steps_eq
  refine ⟨begun ++ seen, ?_⟩
  rw [List.flatMap_append, List.flatMap_cons, List.flatMap_append, told, told',
    List.flatMap_singleton, List.map_cons, List.map_append]
  rfl

end Whole

/-- **Starting on the way.**  However the backend answers, the course of a selection is this.

* Every call is for the record, for a start, or for the history.
* The start is asked for once if the first record shows the session created, terminated or
  failed, and otherwise never.
* The record is asked for once and then at most as often as the configuration allows, and after
  an answer that shows the session active or paused the history is all that is asked for.
* The state that is reported last is the one that an answer has brought last.
* If the first record could not be fetched, that is all that is asked for and reported.
  Otherwise nothing but records is reported until the history is asked for, and the answer to
  that is the last report: a start or a poll that fails does not end the selection. -/
theorem course_start_bounded (config : Config) (sessionId : String) (epoch : Nat)
    (answers : Answers) :
    let turns := (start config sessionId epoch).course answers 0
    let calls := turns.map Turn.call
    let reports := turns.flatMap Turn.steps
    let fetch : Call := .fetchSession sessionId
    let history : Call := .fetchMessages sessionId config.historyLimit 0
    (∀ index turn, turns[index]? = some turn → turn.outcome = answers index turn.call) ∧
      (∀ call ∈ calls, call ∈ [fetch, .startSession sessionId, history]) ∧
      calls.count (.startSession sessionId) =
        (if (answers 0 fetch).toOption.any fun first =>
          [SessionState.created, .terminated, .error].contains first.state then 1 else 0) ∧
      calls.count fetch ≤ 1 + config.startMaxPolls ∧
      (turns.Pairwise fun turn later => turn.showsRunning = true → later.call = history) ∧
      (reports.filterMap SelectionStep.state?).getLast? = (turns.filterMap Turn.state?).getLast? ∧
      match answers 0 fetch with
      | .error failure => calls = [fetch] ∧ reports = [.failed failure]
      | .ok first => ∃ (earlier : List Call) (records : List Session),
          calls = earlier ++ [history] ∧ history ∉ earlier ∧
          reports =
            (first :: records).map .session ++ [ending (answers earlier.length history)] := by
  intro turns calls reports fetch history
  have shape : turns = _ := course_start_eq answers sessionId epoch config
  refine ⟨fun index turn taken => ?answered, ?rest⟩
  case answered =>
    have told := outcome_course answers _ 0 index taken
    rwa [Nat.zero_add] at told
  case rest =>
    cases fetched : answers 0 (.fetchSession sessionId) with
    | error failure =>
        rw [fetched] at shape
        have asked : calls = [fetch] := congrArg (List.map Turn.call) shape
        have told : reports = [.failed failure] := congrArg (List.flatMap Turn.steps) shape
        rw [asked, told, shape]
        exact ⟨by simp, by simp [fetch, Except.toOption], by simp, List.pairwise_singleton _ _, rfl,
          rfl, rfl⟩
    | ok first =>
        obtain ⟨starts, session, polls, started, polled, rest⟩ := course_afterFetch answers 1
          sessionId epoch config.historyLimit config.startMaxPolls first
        let last :=
          lastTurn answers (1 + starts.length + polls.length) sessionId config.historyLimit
        have parts : turns = firstTurn sessionId first :: (starts ++ polls) ++ [last] := by
          rw [shape, fetched]
          exact congrArg (List.cons _) rest
        have asked : calls = (fetch :: (starts.map Turn.call ++
            List.replicate polls.length fetch)) ++ [history] := by
          unfold calls
          rw [parts]
          exact map_call_whole polled last
        obtain ⟨records, told⟩ := steps_whole started polled last
        have begun := started.map_call
        refine ⟨?calls, ?starts, ?polls, ?settled, ?seen, ?ends⟩
        case calls =>
          intro call member
          rw [asked, begun] at member
          simp only [List.mem_append, List.mem_cons, List.mem_ite_nil_right, List.mem_replicate,
            List.not_mem_nil, or_false] at member
          rcases member with (asks | ⟨-, asks⟩ | ⟨-, asks⟩) | asks
          · simp [asks]
          · simp [asks]
          · simp [asks]
          · simp [asks]
        case starts =>
          rw [asked, begun, Except.toOption, Option.any_some]
          split <;> simp [fetch, history, List.count_replicate]
        case polls =>
          have few := polled.length_le
          rw [asked, begun]
          split <;> simp [fetch, history] <;> omega
        case settled =>
          rw [parts]
          exact pairwise_whole started polled last
        case seen =>
          unfold reports
          rw [parts]
          refine getLast?_state_whole started polled rfl ?_
          show [ending last.outcome].filterMap SelectionStep.state? = []
          unfold ending
          split <;> rfl
        case ends =>
          refine ⟨_, records, asked, ?_, ?_⟩
          · rw [begun]
            split <;> simp [fetch, history]
          · have number : (fetch :: (starts.map Turn.call ++
                List.replicate polls.length fetch)).length = 1 + starts.length + polls.length := by
              simp
              omega
            unfold reports
            rw [parts, number]
            exact told

end SelectionTask

end SessionSync
