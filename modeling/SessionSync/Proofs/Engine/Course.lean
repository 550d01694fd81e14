import SessionSync.Proofs.Engine.Reachability
import SessionSync.Proofs.Engine.Turns

/-!
# Courses of an engine

A course is what an engine has gone through: the inputs that it has handled, each with the
engine as it then was, while its slots have moved by themselves in between.  Any inputs can
come in any order, so also what selections that were given up report late.

The focus of an engine follows from the turns of its course and from nothing else
(`Course.focus_eq`), and what apt turns preserve holds along every course
(`Course.turnsRec`).
-/

set_option autoImplicit false

namespace SessionSync

/-- A turn can be given with a focus: the engine runs, and only the session in focus is
loaded, fails or is deleted. -/
def SelectionTurn.Apt (focus : Focus) (turn : SelectionTurn) : Prop :=
  focus.running = true ∧
    match turn with
    | .loads sessionId | .fails sessionId _ | .deletes sessionId _ =>
        focus.currentId = some sessionId
    | .selects .. | .clears | .stops => True

namespace Engine

/-! ## Courses -/

/-- The steps that lead from one engine to another, each as the engine before it and the
input. -/
inductive Course (start : Engine) : List (Engine × Input) → Engine → Prop
  | nothing : Course start [] start
  | step {past : List (Engine × Input)} {engine : Engine} (before : Course start past engine)
      (input : Input) : Course start (past ++ [(engine, input)]) (engine.step input).1
  | slot {past : List (Engine × Input)} {engine : Engine} (before : Course start past engine)
      (kind : SlotKind) {next : Slot} (moves : (engine.slots.get kind).Moves next) :
      Course start past { engine with slots := engine.slots.set next kind }

/-- The engines that can come about are those with a course. -/
theorem reachable_iff {config : Config} {engine : Engine} :
    Reachable config engine ↔ ∃ past, Course (.new config) past engine := by
  constructor
  · intro reachable
    induction reachable with
    | new => exact ⟨[], .nothing⟩
    | step before input ih =>
        obtain ⟨past, course⟩ := ih
        exact ⟨_, course.step input⟩
    | slot before kind moves ih =>
        obtain ⟨past, course⟩ := ih
        exact ⟨_, course.slot kind moves⟩
  · rintro ⟨past, course⟩
    induction course with
    | nothing => exact .new
    | step before input ih => exact ih.step input
    | slot before kind moves ih => exact ih.slot kind moves

/-- One course goes on where another ends. -/
theorem Course.trans {start middle engine : Engine} {earlier later : List (Engine × Input)}
    (first : Course start earlier middle) (second : Course middle later engine) :
    Course start (earlier ++ later) engine := by
  induction second with
  | nothing => rwa [List.append_nil]
  | step before input ih =>
      rw [← List.append_assoc]
      exact ih.step input
  | slot before kind moves ih => exact ih.slot kind moves

/-- Inputs one after another, each with the engine before it. -/
def recorded : Engine → List Input → List (Engine × Input)
  | _, [] => []
  | engine, input :: later => (engine, input) :: recorded (engine.step input).1 later

theorem course_run (engine : Engine) (inputs : List Input) :
    Course engine (engine.recorded inputs) (engine.run inputs) := by
  induction inputs generalizing engine with
  | nil => exact .nothing
  | cons input later ih => exact (Course.nothing.step input).trans (ih (engine.step input).1)

/-- A course is taken apart at one of its steps. -/
theorem Course.split {start asked engine : Engine} {earlier later : List (Engine × Input)}
    {input : Input} (course : Course start (earlier ++ (asked, input) :: later) engine) :
    Course start earlier asked ∧ Course (asked.step input).1 later engine := by
  generalize whole : earlier ++ (asked, input) :: later = past at course
  induction course generalizing later with
  | nothing => simp at whole
  | @step past current before last ih =>
      -- A course grows at its end: the step in question is the last one, or stands before it.
      rcases later.eq_nil_or_concat with rfl | ⟨rest, final, rfl⟩
      · obtain ⟨rfl, same⟩ := List.append_inj' whole rfl
        cases same
        exact ⟨before, .nothing⟩
      · rw [List.concat_eq_append, ← List.cons_append, ← List.append_assoc] at whole
        obtain ⟨same, lasts⟩ := List.append_inj' whole rfl
        cases lasts
        obtain ⟨first, second⟩ := ih same
        rw [List.concat_eq_append]
        exact ⟨first, second.step last⟩
  | slot before kind moves ih =>
      obtain ⟨first, second⟩ := ih whole
      exact ⟨first, second.slot kind moves⟩

/-! ## What was turned, answered and begun -/

section Past

/-- The turns of steps. -/
def turns (past : List (Engine × Input)) : List SelectionTurn :=
  past.filterMap fun entry => entry.1.turn? entry.2

/-- What steps have answered to a caller. -/
def answersTo (caller : Caller) (past : List (Engine × Input)) : List Answer :=
  past.flatMap fun entry =>
    (answersIn (entry.1.step entry.2).2).filterMap fun answered =>
      if answered.1 = caller then some answered.2 else none

/-- The selections that steps have begun. -/
def selections (past : List (Engine × Input)) : List SelectionTask :=
  past.flatMap fun entry => selectionsIn (entry.1.step entry.2).2

variable (past more : List (Engine × Input))

@[simp] theorem turns_nil : turns [] = [] := rfl

@[simp] theorem turns_append : turns (past ++ more) = turns past ++ turns more :=
  List.filterMap_append

@[simp] theorem turns_cons (entry : Engine × Input) :
    turns (entry :: past) = (entry.1.turn? entry.2).toList ++ turns past := by
  unfold turns
  rw [List.filterMap_cons]
  cases entry.1.turn? entry.2 <;> rfl

@[simp] theorem answersTo_nil (caller : Caller) : answersTo caller [] = [] := rfl

@[simp] theorem answersTo_append (caller : Caller) :
    answersTo caller (past ++ more) = answersTo caller past ++ answersTo caller more :=
  List.flatMap_append

theorem answersTo_singleton (caller : Caller) (entry : Engine × Input) :
    answersTo caller [entry] =
      (answersIn (entry.1.step entry.2).2).filterMap fun answered =>
        if answered.1 = caller then some answered.2 else none := by
  simp [answersTo]

@[simp] theorem selections_append :
    selections (past ++ more) = selections past ++ selections more :=
  List.flatMap_append

@[simp] theorem selections_singleton (entry : Engine × Input) :
    selections [entry] = selectionsIn (entry.1.step entry.2).2 := by
  simp [selections]

end Past

/-! ## The focus over a course -/

theorem apt_of_turn? {engine : Engine} {input : Input} {turn : SelectionTurn}
    (turned : engine.turn? input = some turn) : turn.Apt engine.focus := by
  unfold turn? at turned
  split at turned
  · rename_i running
    refine ⟨running, ?_⟩
    unfold handledTurn? at turned
    split at turned
    · cases turned
      trivial
    · cases turned
      trivial
    · cases turned
      trivial
    · split at turned
      · obtain ⟨sessionId, current, rfl⟩ := Option.map_eq_some_iff.1 turned
        exact current
      · cases turned
    · split at turned
      · obtain ⟨sessionId, current, rfl⟩ := Option.map_eq_some_iff.1 turned
        exact current
      · cases turned
    · split at turned
      · rename_i accepted
        cases turned
        exact accepted.2
      · cases turned
    · cases turned
  · cases turned

/-- **What apt turns preserve holds along a course.** -/
theorem Course.turnsRec {start engine : Engine} {past : List (Engine × Input)}
    {motive : List SelectionTurn → Focus → Prop} (course : Course start past engine)
    (nothing : motive [] start.focus)
    (turning : ∀ earlier focus turn, motive earlier focus → SelectionTurn.Apt focus turn →
      motive (earlier ++ [turn]) (turn.focus focus)) :
    motive (turns past) engine.focus := by
  induction course with
  | nothing => exact nothing
  | @step past current before input ih =>
      have follows := current.follows_step input
      rw [follows.focus, turns_append, turns_cons, turns_nil, List.append_nil]
      cases turned : current.turn? input with
      | none => simpa using ih
      | some turn => exact turning _ _ _ ih (apt_of_turn? turned)
  | slot before kind moves ih => exact ih

/-- **The focus is what the turns have made of it.** -/
theorem Course.focus_eq {start engine : Engine} {past : List (Engine × Input)}
    (course : Course start past engine) :
    engine.focus = (turns past).foldl SelectionTurn.focus start.focus := by
  refine course.turnsRec
    (motive := fun earlier focus => focus = earlier.foldl SelectionTurn.focus start.focus) rfl ?_
  intro earlier focus turn same _
  rw [List.foldl_append, ← same]
  rfl

/-- The epoch counts the turns that have superseded something. -/
theorem Course.epoch_eq {start engine : Engine} {past : List (Engine × Input)}
    (course : Course start past engine) :
    engine.selection.epoch =
      start.selection.epoch + (turns past).countP SelectionTurn.supersedes := by
  refine course.turnsRec
    (motive := fun earlier focus => focus.selection.epoch =
      start.selection.epoch + earlier.countP SelectionTurn.supersedes) rfl ?_
  intro earlier focus turn counted _
  have next : (turn.focus focus).selection.epoch =
      focus.selection.epoch + [turn].countP SelectionTurn.supersedes := by
    cases turn <;> rfl
  rw [next, counted, List.countP_append, Nat.add_assoc]

end Engine

end SessionSync
