import SessionSync.Sorting

/-!
# Ascending lists and stable sorting

A list that was sorted by a key ascends in that key, and a list that ascends
already is its own sorted form.  Sorting by a key is the stable sorting of lists
(`sortByKey_eq_mergeSort`), so it does not matter whether the end of a list was
sorted before (`sortByKey_append_sortByKey`), and equal keys keep their order
(`sortedFrom_sortByKey`).
-/

set_option autoImplicit false

namespace SessionSync

variable {α : Type}

/-- The elements stand in ascending order of a key; equal keys are allowed. -/
def Ascending (key : α → Int) (elements : List α) : Prop :=
  elements.Pairwise fun earlier later => key earlier ≤ key later

theorem Ascending.append {key : α → Int} {front back : List α} (first : Ascending key front)
    (second : Ascending key back)
    (across : ∀ earlier ∈ front, ∀ later ∈ back, key earlier ≤ key later) :
    Ascending key (front ++ back) :=
  List.pairwise_append.2 ⟨first, second, across⟩

theorem Ascending.sublist {key : α → Int} {part whole : List α} (ascending : Ascending key whole)
    (kept : part.Sublist whole) : Ascending key part :=
  List.Pairwise.sublist kept ascending

/-- In an ascending list nothing is above the last element. -/
theorem Ascending.le_getLast {key : α → Int} {elements : List α} {last element : α}
    (ascending : Ascending key elements) (atEnd : elements.getLast? = some last)
    (member : element ∈ elements) : key element ≤ key last := by
  obtain ⟨front, rfl⟩ := List.getLast?_eq_some_iff.1 atEnd
  rcases List.mem_append.1 member with before | here
  · exact (List.pairwise_append.1 ascending).2.2 element before last (by simp)
  · obtain rfl := List.mem_singleton.1 here
    exact Int.le_refl _

/-- Of an ascending list the last element with a property is found from the back: nothing
with the property is above it. -/
theorem Ascending.le_of_find?_reverse {key : α → Int} {keeps : α → Bool} {elements : List α}
    {found element : α} (ascending : Ascending key elements)
    (here : elements.reverse.find? keeps = some found) (member : element ∈ elements)
    (kept : keeps element = true) : key element ≤ key found := by
  have filtered : (elements.filter keeps).getLast? = some found := by
    rw [← List.head?_reverse, ← List.filter_reverse, List.head?_filter, here]
  exact (ascending.sublist List.filter_sublist).le_getLast filtered (List.mem_filter.2 ⟨member, kept⟩)

/-- In an ascending list nothing is below the first element. -/
theorem Ascending.head_le {key : α → Int} {elements : List α} {first element : α}
    (ascending : Ascending key elements) (atFront : elements.head? = some first)
    (member : element ∈ elements) : key first ≤ key element := by
  cases elements with
  | nil => cases atFront
  | cons head rest =>
      cases atFront
      rcases List.mem_cons.1 member with rfl | later
      · exact Int.le_refl _
      · exact (List.pairwise_cons.1 ascending).1 element later

/-! ## Sorting puts a list in order -/

section InOrder

variable {mayPrecede : α → α → Bool}
  (trans : ∀ first second third, mayPrecede first second = true →
    mayPrecede second third = true → mayPrecede first third = true)
  (total : ∀ left right, (mayPrecede left right || mayPrecede right left) = true)
include trans total

theorem pairwise_insertBy (element : α) {elements : List α}
    (sorted : elements.Pairwise fun left right => mayPrecede left right = true) :
    (insertBy mayPrecede element elements).Pairwise fun left right =>
      mayPrecede left right = true := by
  induction elements with
  | nil => exact List.pairwise_singleton _ _
  | cons head rest ih =>
      obtain ⟨above, tail⟩ := List.pairwise_cons.1 sorted
      simp only [insertBy]
      split
      · rename_i before
        refine List.pairwise_cons.2 ⟨fun other member => ?_, sorted⟩
        rcases List.mem_cons.1 member with rfl | later
        · exact before
        · exact trans element head other before (above other later)
      · rename_i notBefore
        refine List.pairwise_cons.2 ⟨fun other member => ?_, ih tail⟩
        rcases List.mem_cons.1 ((insertBy_perm _ element rest).mem_iff.1 member) with rfl | later
        · have either := total other head
          rwa [eq_false_of_ne_true notBefore, Bool.false_or] at either
        · exact above other later

/-- Sorting by a total order puts a list in that order. -/
theorem pairwise_sortBy (elements : List α) :
    (sortBy mayPrecede elements).Pairwise fun left right => mayPrecede left right = true := by
  induction elements with
  | nil => exact List.Pairwise.nil
  | cons head rest ih => exact pairwise_insertBy trans total head ih

end InOrder

theorem le_trans_of_key (key : α → Int) (first second third : α)
    (front : decide (key first ≤ key second) = true)
    (back : decide (key second ≤ key third) = true) : decide (key first ≤ key third) = true := by
  rw [decide_eq_true_eq] at front back ⊢
  exact Int.le_trans front back

theorem le_total_of_key (key : α → Int) (left right : α) :
    (decide (key left ≤ key right) || decide (key right ≤ key left)) = true := by
  rw [Bool.or_eq_true, decide_eq_true_eq, decide_eq_true_eq]
  exact Int.le_total _ _

/-- Sorting by a key puts a list in ascending order of it. -/
theorem ascending_sortByKey (key : α → Int) (elements : List α) :
    Ascending key (sortByKey key elements) :=
  (pairwise_sortBy (le_trans_of_key key) (le_total_of_key key) elements).imp of_decide_eq_true

/-- An element that nothing in a list is below goes in front of the list. -/
theorem insertBy_of_le (key : α → Int) (element : α) {elements : List α}
    (below : ∀ other ∈ elements, key element ≤ key other) :
    insertBy (fun left right => key left ≤ key right) element elements = element :: elements := by
  cases elements with
  | nil => rfl
  | cons head rest => simp [insertBy, below head List.mem_cons_self]

/-- A list in ascending order is its own sorted form. -/
theorem sortByKey_of_ascending (key : α → Int) :
    ∀ {elements : List α}, Ascending key elements → sortByKey key elements = elements
  | [], _ => rfl
  | head :: rest, ascending => by
      have above := (List.pairwise_cons.1 ascending).1
      have sorted : sortByKey key rest = rest :=
        sortByKey_of_ascending key (List.pairwise_cons.1 ascending).2
      show insertBy _ head (sortByKey key rest) = head :: rest
      rw [sorted]
      exact insertBy_of_le key head above

theorem sortByKey_perm (key : α → Int) (elements : List α) :
    (sortByKey key elements).Perm elements :=
  sortBy_perm _ elements

/-- What is sorted at the end of a list already is sorted as if it had not been. -/
theorem sortByKey_append_sortByKey (key : α → Int) (front back : List α) :
    sortByKey key (front ++ sortByKey key back) = sortByKey key (front ++ back) := by
  induction front with
  | nil => exact sortByKey_of_ascending key (ascending_sortByKey key back)
  | cons head rest ih => exact congrArg (insertBy _ head) ih

/-! ## Stability -/

/-- An element goes behind all that it may not stand before. -/
theorem insertBy_append (mayPrecede : α → α → Bool) (element : α) {front : List α}
    (back : List α) (above : ∀ other ∈ front, mayPrecede element other = false) :
    insertBy mayPrecede element (front ++ back) = front ++ insertBy mayPrecede element back := by
  induction front with
  | nil => rfl
  | cons head rest ih =>
      have stays : mayPrecede element head = false := above head List.mem_cons_self
      have behind := ih fun other member => above other (List.mem_cons_of_mem head member)
      simp [insertBy, stays, behind]

/-- **Sorting by a key is the stable sorting of lists.** -/
theorem sortByKey_eq_mergeSort (key : α → Int) (elements : List α) :
    sortByKey key elements = elements.mergeSort fun left right => key left ≤ key right := by
  induction elements with
  | nil =>
      rw [List.mergeSort_nil]
      rfl
  | cons head rest ih =>
      -- Sorting the longer list puts the head in front of the first element that is not below it.
      obtain ⟨front, back, whole, sorted, above⟩ :=
        List.mergeSort_cons (le_trans_of_key key) (le_total_of_key key) head rest
      have ascending := List.pairwise_mergeSort (le_trans_of_key key) (le_total_of_key key)
        (head :: rest)
      rw [whole] at ascending
      have below : ∀ other ∈ back, key head ≤ key other := by
        intro other member
        have placed := (List.pairwise_append.1 ascending).2.1
        simpa using (List.pairwise_cons.1 placed).1 other member
      calc sortByKey key (head :: rest)
          = insertBy (fun left right => key left ≤ key right) head (sortByKey key rest) := rfl
        _ = insertBy (fun left right => key left ≤ key right) head (front ++ back) := by
            rw [ih, sorted]
        _ = front ++ insertBy (fun left right => key left ≤ key right) head back :=
            insertBy_append _ head back fun other member => by simpa using above other member
        _ = front ++ head :: back := by rw [insertBy_of_le key head below]
        _ = (head :: rest).mergeSort fun left right => key left ≤ key right := whole.symm

theorem filter_insertBy (key : α → Int) (element : α) (value : Int) (elements : List α) :
    (insertBy (fun left right => key left ≤ key right) element elements).filter (key · = value) =
      (element :: elements).filter (key · = value) := by
  induction elements with
  | nil => rfl
  | cons head rest ih =>
      simp only [insertBy, decide_eq_true_eq]
      split
      · rfl
      · rename_i above
        -- The head stays in front of the element, so the two have different keys.
        rw [List.filter_cons, ih]
        by_cases here : key head = value
        · have apart : key element ≠ value := by omega
          simp [here, apart]
        · simp [List.filter_cons, here]

/-- A list is another one in ascending order of a key, and elements with equal keys stand in
the order that they had. -/
structure SortedFrom (key : α → Int) (sorted elements : List α) : Prop where
  perm : sorted.Perm elements
  ascending : Ascending key sorted
  ties : ∀ value, sorted.filter (key · = value) = elements.filter (key · = value)

theorem sortedFrom_sortByKey (key : α → Int) (elements : List α) :
    SortedFrom key (sortByKey key elements) elements := by
  refine ⟨sortByKey_perm key elements, ascending_sortByKey key elements, fun value => ?_⟩
  induction elements with
  | nil => rfl
  | cons head rest ih =>
      refine (filter_insertBy key head value (sortByKey key rest)).trans ?_
      rw [List.filter_cons, ih, List.filter_cons]

end SessionSync
