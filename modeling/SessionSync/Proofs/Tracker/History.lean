import Mathlib.Data.List.Induction
import SessionSync.Proofs.Tracker.Changes

/-!
# What a run has set and not reset

Some facts about a tracker are set by certain changes and then last until another
change resets them.  Such a fact holds after a run exactly if some change of the run
set it and none of those that follow reset it (`holds_run_iff_lastSet`).  What sets
and what resets may depend on the tracker that the change meets.
-/

set_option autoImplicit false

namespace SessionSync.Tracker

section LastSet

variable (sets resets : Tracker → TrackerChange → Bool)

/-- A change of the run sets something, and none of those that follow resets it. -/
def LastSet (start : Tracker) (changes : List TrackerChange) : Prop :=
  ∃ earlier change later, changes = earlier ++ change :: later ∧
    sets (start.run earlier) change = true ∧
    ∀ middle next rest, later = middle ++ next :: rest →
      resets (start.run (earlier ++ change :: middle)) next = false

variable {sets resets}

/-- The last change sets it, or it was set before and the last change does not reset
it. -/
theorem lastSet_concat {start : Tracker} {changes : List TrackerChange} {last : TrackerChange} :
    LastSet sets resets start (changes ++ [last]) ↔
      sets (start.run changes) last = true ∨
        LastSet sets resets start changes ∧ resets (start.run changes) last = false := by
  constructor
  · rintro ⟨earlier, change, later, split, set, lasting⟩
    rcases List.eq_nil_or_concat later with rfl | ⟨before, final, rfl⟩
    · obtain ⟨rfl, same⟩ := List.append_inj' split rfl
      cases same
      exact Or.inl set
    · rw [List.concat_eq_append, ← List.cons_append, ← List.append_assoc] at split
      obtain ⟨rfl, same⟩ := List.append_inj' split rfl
      cases same
      refine Or.inr ⟨⟨earlier, change, before, rfl, set, fun middle next rest here => ?_⟩, ?_⟩
      · exact lasting middle next (rest ++ [last]) (by simp [here])
      · exact lasting before last [] (by simp)
  · rintro (set | ⟨⟨earlier, change, later, rfl, set, lasting⟩, kept⟩)
    · refine ⟨changes, last, [], rfl, set, fun middle next rest here => ?_⟩
      simp at here
    · refine ⟨earlier, change, later ++ [last], by simp, set, fun middle next rest here => ?_⟩
      rcases List.eq_nil_or_concat rest with rfl | ⟨before, final, rfl⟩
      · obtain ⟨rfl, same⟩ := List.append_inj' here rfl
        cases same
        exact kept
      · rw [List.concat_eq_append, ← List.cons_append, ← List.append_assoc] at here
        obtain ⟨rfl, same⟩ := List.append_inj' here rfl
        exact lasting middle next before rfl

/-- What every change keeps, every run keeps. -/
theorem kept_run {motive : Tracker → Prop}
    (keeps : ∀ tracker change, motive tracker → motive (tracker.after change)) {start : Tracker}
    (begins : motive start) (changes : List TrackerChange) : motive (start.run changes) := by
  induction changes generalizing start with
  | nil => exact begins
  | cons change rest ih => exact ih (keeps start change begins)

/-- **Set and not reset.**  A fact that each change sets, resets or leaves alone, as long
as the tracker is as runs keep it, holds after a run that began without it exactly if the
run set it last. -/
theorem holds_run_iff_lastSet_of_kept (holds : Tracker → Bool) (kept : Tracker → Prop)
    (keeps : ∀ tracker change, kept tracker → kept (tracker.after change))
    (step : ∀ tracker change, kept tracker → holds (tracker.after change) =
      (sets tracker change || holds tracker && !resets tracker change))
    {start : Tracker} (begins : kept start) (clean : holds start = false)
    (changes : List TrackerChange) :
    holds (start.run changes) = true ↔ LastSet sets resets start changes := by
  induction changes using List.reverseRecOn with
  | nil =>
      constructor
      · intro held
        rw [run_nil, clean] at held
        cases held
      · rintro ⟨earlier, change, later, split, -⟩
        simp at split
  | append_singleton changes last ih =>
      rw [lastSet_concat, ← ih, run_append, run_cons, run_nil,
        step _ last (kept_run keeps begins changes)]
      simp

/-- A fact that each change sets, resets or leaves alone whatever the tracker. -/
theorem holds_run_iff_lastSet (holds : Tracker → Bool)
    (step : ∀ tracker change, holds (tracker.after change) =
      (sets tracker change || holds tracker && !resets tracker change))
    {start : Tracker} (clean : holds start = false) (changes : List TrackerChange) :
    holds (start.run changes) = true ↔ LastSet sets resets start changes :=
  holds_run_iff_lastSet_of_kept holds (fun _ => True) (fun _ _ _ => trivial)
    (fun tracker change _ => step tracker change) trivial clean changes

end LastSet

end SessionSync.Tracker
