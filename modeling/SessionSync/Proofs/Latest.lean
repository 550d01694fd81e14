import Mathlib.Data.List.Induction
import Mathlib.Data.List.Nodup

/-!
# What a list said last, and what it said first

Elements of a list may bring a value or bring none.  The latest value is the one that the
last element with a value brings (`latest?_concat`); it stands until another one comes.

The distinct elements of a list, in the order of their first appearance, only grow at
their end when the list does (`eraseDups_concat`), so an element keeps its rank for good
(`idxOf_eraseDups_append`).
-/

set_option autoImplicit false

namespace SessionSync

variable {α β : Type}

/-! ## The latest value -/

/-- The value that the last element with a value brings. -/
def latest? (brings : α → Option β) (elements : List α) : Option β :=
  elements.reverse.findSome? brings

@[simp] theorem latest?_nil (brings : α → Option β) : latest? brings [] = none := rfl

theorem latest?_concat (brings : α → Option β) (elements : List α) (last : α) :
    latest? brings (elements ++ [last]) = (brings last).or (latest? brings elements) := by
  cases brought : brings last <;> simp [latest?, brought]

/-! ## Ranks by first appearance -/

section Ranks

variable [DecidableEq α]

theorem eraseDups_concat (elements : List α) (last : α) :
    (elements ++ [last]).eraseDups =
      if last ∈ elements then elements.eraseDups else elements.eraseDups ++ [last] := by
  rw [List.eraseDups_append]
  by_cases known : last ∈ elements
  · simp [List.removeAll, known]
  · simp [List.removeAll, known, List.eraseDups_cons]

theorem nodup_eraseDups (elements : List α) : elements.eraseDups.Nodup := by
  induction elements using List.reverseRecOn with
  | nil => exact List.nodup_nil
  | append_singleton elements last ih =>
      rw [eraseDups_concat]
      split
      · exact ih
      · rename_i unknown
        refine List.nodup_append.2 ⟨ih, List.nodup_singleton last, ?_⟩
        intro element member other single
        rintro rfl
        rw [List.mem_singleton.1 single] at member
        exact unknown (List.mem_eraseDups.1 member)

/-- An element that has appeared keeps its rank when the list goes on. -/
theorem idxOf_eraseDups_append {elements : List α} {element : α} (known : element ∈ elements)
    (more : List α) :
    (elements ++ more).eraseDups.idxOf element = elements.eraseDups.idxOf element := by
  rw [List.eraseDups_append]
  exact List.idxOf_append_of_mem (List.mem_eraseDups.2 known)

/-- An element that has not appeared has a rank behind all that have. -/
theorem length_eraseDups_le_idxOf_append {elements : List α} {element : α}
    (unknown : element ∉ elements) (more : List α) :
    elements.eraseDups.length ≤ (elements ++ more).eraseDups.idxOf element := by
  have absent : element ∉ elements.eraseDups := fun member => unknown (List.mem_eraseDups.1 member)
  rw [List.eraseDups_append, List.idxOf_append_of_notMem absent]
  exact Nat.le_add_right _ _

/-- A new element has the rank behind all that have appeared. -/
theorem idxOf_eraseDups_concat_self {elements : List α} {last : α} (unknown : last ∉ elements) :
    (elements ++ [last]).eraseDups.idxOf last = elements.eraseDups.length := by
  have absent : last ∉ elements.eraseDups := fun member => unknown (List.mem_eraseDups.1 member)
  rw [eraseDups_concat, if_neg unknown, List.idxOf_append_of_notMem absent]
  simp

/-- The ranks of distinct elements count from zero. -/
theorem map_idxOf_of_nodup {elements : List α} (distinct : elements.Nodup) :
    elements.map elements.idxOf = List.range elements.length := by
  refine List.ext_getElem (by simp) fun rank inside _ => ?_
  rw [List.getElem_map, List.getElem_range]
  exact distinct.idxOf_getElem rank (by simpa using inside)

/-- Distinct elements stand in the order of their ranks. -/
theorem pairwise_idxOf {elements : List α} (distinct : elements.Nodup) :
    elements.Pairwise fun left right => elements.idxOf left < elements.idxOf right := by
  refine List.pairwise_iff_getElem.2 fun left right inside inside' before => ?_
  rwa [distinct.idxOf_getElem left inside, distinct.idxOf_getElem right inside']

end Ranks

end SessionSync
