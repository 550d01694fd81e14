import SessionSync.Proofs.Engine.Course

/-!
# Selections one after another

Every selection has an epoch of its own, and a task that was given up may go on reporting
under an old one.  Such a report is without effect, for good
(`Course.step_selection_of_superseded`).

Whoever asks for a selection waits in a single place that many handlers clear or take over.
Still the answer follows from the course: it is the one of the first turn after the
question, and there is no other (`Course.answersTo_eq`).  The theorem
`selections_serialised` puts this together.
-/

set_option autoImplicit false

namespace SessionSync.Engine

/-! ## Epochs -/

section Epochs

variable {start engine : Engine} {past : List (Engine × Input)}

theorem selectionsIn_step (asked : Engine) (input : Input) :
    selectionsIn (asked.step input).2 = (asked.turn? input).elim [] asked.begun :=
  (asked.follows_step input).selections

/-- A step begins a selection under the epoch that follows. -/
theorem epoch_of_begun {asked : Engine} {input : Input} {task : SelectionTask}
    (begins : task ∈ selectionsIn (asked.step input).2) :
    task.epoch = asked.selection.epoch + 1 ∧
      (asked.step input).1.selection.epoch = asked.selection.epoch + 1 := by
  have focus := (asked.follows_step input).focus
  rw [selectionsIn_step] at begins
  cases turned : asked.turn? input with
  | none =>
      rw [turned] at begins
      cases begins
  | some turn =>
      rw [turned] at begins focus
      have epoch := congrArg (fun focus => focus.selection.epoch) focus
      cases turn with
      | selects caller sessionId =>
          cases List.mem_singleton.1 begins
          exact ⟨rfl, epoch⟩
      | _ => cases begins

theorem Course.epoch_le (course : Course start past engine) :
    start.selection.epoch ≤ engine.selection.epoch := by
  rw [course.epoch_eq]
  exact Nat.le_add_right _ _

/-- The epochs of the selections that were begun increase, up to the present one. -/
theorem Course.pairwise_epochs (course : Course start past engine) :
    ((selections past).map SelectionTask.epoch).Pairwise (· < ·) ∧
      ∀ task ∈ selections past, task.epoch ≤ engine.selection.epoch := by
  induction course with
  | nothing => exact ⟨.nil, fun _ none => nomatch none⟩
  | @step past current before input ih =>
      obtain ⟨increase, bounded⟩ := ih
      have risen := (Course.step .nothing input : Course current _ _).epoch_le
      rw [selections_append, selections_singleton, List.map_append, List.pairwise_append]
      refine ⟨⟨increase, ?_, ?_⟩, ?_⟩
      · rw [selectionsIn_step]
        cases current.turn? input with
        | none => exact .nil
        | some turn => cases turn <;> simp [begun]
      · intro epoch known next mapped
        obtain ⟨earlier, held, rfl⟩ := List.mem_map.1 known
        obtain ⟨task, begins, rfl⟩ := List.mem_map.1 mapped
        rw [(epoch_of_begun begins).1]
        exact Nat.lt_succ_of_le (bounded earlier held)
      · intro task member
        rcases List.mem_append.1 member with known | begins
        · exact Nat.le_trans (bounded task known) risen
        · obtain ⟨same, next⟩ := epoch_of_begun begins
          exact Nat.le_of_eq (same.trans next.symm)
  | slot before kind moves ih => exact ih

theorem step_selection_of_stale (engine : Engine) {epoch : Nat}
    (stale : epoch ≠ engine.selection.epoch) (step : SelectionStep) :
    engine.step (.selection epoch step) = (engine, []) := by
  unfold Engine.step handle onSelectionStep waitingCaller
  split
  · exact if_pos stale
  · rfl

/-- **Nothing comes of a selection that was given up**, whatever its task goes on to
report. -/
theorem Course.step_selection_of_superseded {asked : Engine} {input : Input}
    {later : List (Engine × Input)} (course : Course (asked.step input).1 later engine)
    {task : SelectionTask} (begins : task ∈ selectionsIn (asked.step input).2)
    (superseded : ∃ turn ∈ turns later, turn.supersedes = true) (step : SelectionStep) :
    engine.step (.selection task.epoch step) = (engine, []) := by
  obtain ⟨same, next⟩ := epoch_of_begun begins
  have counted := course.epoch_eq
  have more : 0 < (turns later).countP SelectionTurn.supersedes := List.countP_pos_iff.2 superseded
  apply engine.step_selection_of_stale
  omega

end Epochs

/-! ## Answers -/

section Answers

variable {start engine : Engine} {past : List (Engine × Input)} {caller : Caller}

/-- None of the inputs has the caller waiting. -/
def Fresh (caller : Caller) (past : List (Engine × Input)) : Prop :=
  ∀ entry ∈ past, waitingCaller entry.2 ≠ some caller

theorem filterMap_told (asked : Engine) (turn : SelectionTurn) :
    ((asked.told turn).filterMap fun answered =>
        if answered.1 = caller then some answered.2 else none) =
      if asked.selection.caller = some caller then [turn.answer] else [] := by
  unfold told
  cases asked.selection.caller with
  | none => rfl
  | some waiting => by_cases same : waiting = caller <;> simp [same]

theorem waitingCaller_of_selects {asked : Engine} {input : Input} {sessionId : String}
    (turned : asked.turn? input = some (.selects caller sessionId)) :
    waitingCaller input = some caller := by
  unfold turn? handledTurn? at turned
  split at turned
  · split at turned
    · cases turned
      rfl
    all_goals simp at turned
  · cases turned

/-- A step whose input is somebody else's answers to a caller what its turn says, if the
caller waits for the selection, and nothing else. -/
theorem answersTo_of_fresh {asked : Engine} {input : Input}
    (fresh : waitingCaller input ≠ some caller) :
    answersTo caller [(asked, input)] =
      if asked.selection.caller = some caller then
        (asked.turn? input).toList.map SelectionTurn.answer
      else [] := by
  obtain ⟨others, answers, own⟩ := (asked.follows_step input).answers
  have silent : (others.filterMap fun answered =>
      if answered.1 = caller then some answered.2 else none) = [] := by
    rw [List.filterMap_eq_nil_iff]
    intro answered member
    refine if_neg fun same => fresh ?_
    rw [own answered member, same]
  rw [answersTo_singleton, answers, List.filterMap_append, silent, List.append_nil]
  cases asked.turn? input with
  | none => simp
  | some turn => exact filterMap_told asked turn

/-- While only others give inputs, a caller goes on waiting until there is a turn. -/
theorem waits_of_fresh {asked : Engine} {input : Input}
    (fresh : waitingCaller input ≠ some caller) :
    (asked.step input).1.selection.caller = some caller ↔
      asked.selection.caller = some caller ∧ asked.turn? input = none := by
  have same : (asked.step input).1.selection.caller = _ :=
    congrArg (fun focus => focus.selection.caller) (asked.follows_step input).focus
  rw [same]
  cases turned : asked.turn? input with
  | none => simp [focus]
  | some turn =>
      constructor
      · intro waits
        cases turn with
        | selects selecting sessionId =>
            cases waits
            exact absurd (waitingCaller_of_selects turned) fresh
        | _ => cases waits
      · rintro ⟨-, silent⟩
        cases silent

/-- **The answer to whoever waits** is the one of the first turn. -/
theorem Course.answersTo_of_fresh (course : Course start past engine) (fresh : Fresh caller past) :
    (engine.selection.caller = some caller ↔
        start.selection.caller = some caller ∧ turns past = []) ∧
      answersTo caller past =
        if start.selection.caller = some caller then
          ((turns past).head?.map SelectionTurn.answer).toList
        else [] := by
  induction course with
  | nothing => simp
  | @step past current before input ih =>
      have known : Fresh caller past := fun entry member =>
        fresh entry (List.mem_append_left _ member)
      obtain ⟨waits, answers⟩ := ih known
      have other : waitingCaller input ≠ some caller := fresh (current, input) (by simp)
      rw [answersTo_append, answers, Engine.answersTo_of_fresh other, waits_of_fresh other]
      simp only [waits]
      constructor
      · simp [and_assoc]
      -- Once there was a turn nobody waits any more, so only the first one is told.
      · by_cases asked : start.selection.caller = some caller
        · cases earlier : turns past with
          | nil => cases turned : current.turn? input <;> simp [asked, earlier, turned]
          | cons first rest => simp [asked, earlier]
        · simp [asked]
  | slot before kind moves ih => exact ih fresh

/-- The question itself: a running engine answers nothing yet and keeps the caller waiting,
one that has stopped answers at once. -/
theorem answersTo_question {asked : Engine} (idle : asked.selection.caller ≠ some caller)
    (sessionId : String) :
    answersTo caller [(asked, .command caller (.selectSession sessionId))] =
        (if asked.running then [] else [.failed .stopped]) ∧
      ((asked.step (.command caller (.selectSession sessionId))).1.selection.caller =
          some caller ↔ asked.running = true) := by
  cases running : asked.running with
  | true =>
      have begins : asked.step (.command caller (.selectSession sessionId)) =
          asked.beginSelection caller sessionId := by
        simp [Engine.step, running, handle, onCommand]
      have told : answersIn (asked.beginSelection caller sessionId).2 =
          asked.told (.selects caller sessionId) := by
        simp [beginSelection, supersede, Engine.told]
      refine ⟨?_, ?_⟩
      · rw [answersTo_singleton, begins, told, filterMap_told, if_neg idle]
        rfl
      · rw [begins]
        exact iff_of_true rfl rfl
  | false =>
      have refused : asked.step (.command caller (.selectSession sessionId)) =
          (asked, [.answer caller (.failed .stopped)]) := by
        simp [Engine.step, running, waitingCaller]
      simp [answersTo_singleton, refused, idle]

/-- **Whoever asks for a selection is answered at most once**: by the first turn after the
question.  The caller waits as long as there is none. -/
theorem Course.answersTo_eq {asked : Engine} {sessionId : String}
    {earlier later : List (Engine × Input)} (unasked : start.selection.caller ≠ some caller)
    (course : Course start
      (earlier ++ (asked, .command caller (.selectSession sessionId)) :: later) engine)
    (before : Fresh caller earlier) (after : Fresh caller later) :
    answersTo caller (earlier ++ (asked, .command caller (.selectSession sessionId)) :: later) =
        (if asked.running then ((turns later).head?.map SelectionTurn.answer).toList
        else [.failed .stopped]) ∧
      (engine.selection.caller = some caller ↔ asked.running = true ∧ turns later = []) := by
  obtain ⟨first, second⟩ := course.split
  obtain ⟨waited, silent⟩ := first.answersTo_of_fresh before
  obtain ⟨waits, answers⟩ := second.answersTo_of_fresh after
  have idle : asked.selection.caller ≠ some caller := fun waiting => unasked (waited.1 waiting).1
  obtain ⟨question, waiting⟩ := answersTo_question idle sessionId
  rw [List.append_cons, answersTo_append, answersTo_append, silent, if_neg unasked, question,
    answers, waits]
  simp only [waiting]
  cases asked.running <;> simp

end Answers

/-! ## Who waits -/

/-- Who waits after a last turn: while the engine runs, somebody does exactly while the phase
is loading; and it is the caller of that turn, which selects. -/
def AwaitedAfter (last : Option SelectionTurn) (focus : Focus) : Prop :=
  (focus.running = true →
    (focus.selection.caller.isSome = true ↔
      ∃ sessionId, focus.selection.phase = .loading sessionId)) ∧
  ∀ caller sessionId,
    (focus.selection.caller = some caller ∧ focus.selection.phase = .loading sessionId) ↔
      last = some (.selects caller sessionId)

theorem Course.awaitedAfter {config : Config} {engine : Engine} {past : List (Engine × Input)}
    (course : Course (.new config) past engine) :
    AwaitedAfter (turns past).getLast? engine.focus := by
  refine course.turnsRec
    (motive := fun earlier focus => AwaitedAfter earlier.getLast? focus) ?_ ?_
  · simp [AwaitedAfter, focus, Engine.new]
  · intro earlier focus turn _ _
    rw [List.getLast?_concat]
    cases turn <;> simp [AwaitedAfter, SelectionTurn.focus, SelectionTurn.caller?,
      SelectionTurn.phase, SelectionTurn.running]

/-! ## Selections -/

/-- **Selections are serialised.**  Along every course of an engine:

- a step of a selection under any epoch but the present one is without effect;
- no two selections are begun under one epoch;
- once something has superseded a selection, nothing that its task reports has an effect;
- whoever asks for a selection, and for nothing else, is answered by the first turn after
  the question, and by nothing else;
- while the engine runs, somebody waits exactly while the phase is loading, and it is the
  caller of the selection in progress. -/
theorem selections_serialised {config : Config} {engine : Engine} {past : List (Engine × Input)}
    (course : Course (.new config) past engine) :
    (∀ epoch step, epoch ≠ engine.selection.epoch →
      engine.step (.selection epoch step) = (engine, [])) ∧
    ((selections past).map SelectionTask.epoch).Pairwise (· < ·) ∧
    (∀ earlier asked input later, past = earlier ++ (asked, input) :: later →
      ∀ task ∈ selectionsIn (asked.step input).2,
        (∃ turn ∈ turns later, turn.supersedes = true) →
        ∀ step, engine.step (.selection task.epoch step) = (engine, [])) ∧
    (∀ earlier asked caller sessionId later,
      past = earlier ++ (asked, .command caller (.selectSession sessionId)) :: later →
      Fresh caller earlier → Fresh caller later →
      answersTo caller past =
          (if asked.running then ((turns later).head?.map SelectionTurn.answer).toList
          else [.failed .stopped]) ∧
        (engine.selection.caller = some caller ↔ asked.running = true ∧ turns later = [])) ∧
    (engine.running = true →
      (engine.selection.caller.isSome = true ↔
        ∃ sessionId, engine.selection.phase = .loading sessionId)) ∧
    ∀ caller sessionId,
      (engine.selection.caller = some caller ∧ engine.selection.phase = .loading sessionId) ↔
        (turns past).getLast? = some (.selects caller sessionId) := by
  refine ⟨fun epoch step stale => engine.step_selection_of_stale stale step,
    course.pairwise_epochs.1, ?_, ?_, course.awaitedAfter⟩
  · rintro earlier asked input later rfl task begins superseded step
    exact course.split.2.step_selection_of_superseded begins superseded step
  · rintro earlier asked caller sessionId later rfl before after
    exact course.answersTo_eq (by simp [Engine.new]) before after

/-- Two callers want different sessions: the first of them is told that its selection was
superseded, and its task can report nothing more. -/
theorem selections_serialised_of_second_choice :
    Course (.new {})
        ((Engine.new {}).recorded
          [.command 0 (.selectSession "a"), .command 1 (.selectSession "b")])
        ((Engine.new {}).run
          [.command 0 (.selectSession "a"), .command 1 (.selectSession "b")]) ∧
      answersTo 0 ((Engine.new {}).recorded
        [.command 0 (.selectSession "a"), .command 1 (.selectSession "b")]) =
          [.failed .superseded] ∧
      ((Engine.new {}).run
          [.command 0 (.selectSession "a"), .command 1 (.selectSession "b")]).step
        (.selection 1 (.failed .http)) =
          ((Engine.new {}).run
            [.command 0 (.selectSession "a"), .command 1 (.selectSession "b")], []) := by
  have course := course_run (Engine.new {})
    [.command 0 (.selectSession "a"), .command 1 (.selectSession "b")]
  obtain ⟨stale, -, -, answers, -⟩ := selections_serialised course
  have first := answers [] (.new {}) 0 "a" [_] rfl (by simp [Fresh])
    (by simp [Fresh, waitingCaller])
  exact ⟨course, first.1, stale 1 (.failed .http) (by decide)⟩

end SessionSync.Engine
