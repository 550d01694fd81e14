/-!
# Stable sorting

Insertion sort by a test that says whether one element may stand before
another.  Elements of which each may stand before the other keep their order.
A list that is already in order is sorted in one pass.
-/

set_option autoImplicit false

namespace SessionSync

variable {α : Type}

/-- Put an element in front of the first one that it may stand before. -/
def insertBy (mayPrecede : α → α → Bool) (element : α) : List α → List α
  | [] => [element]
  | head :: rest =>
      if mayPrecede element head then element :: head :: rest
      else head :: insertBy mayPrecede element rest

/-- Sort a list, stably. -/
def sortBy (mayPrecede : α → α → Bool) : List α → List α
  | [] => []
  | head :: rest => insertBy mayPrecede head (sortBy mayPrecede rest)

/-- Sort a list by an integer key, stably. -/
def sortByKey (key : α → Int) : List α → List α :=
  sortBy fun left right => key left ≤ key right

theorem insertBy_perm (mayPrecede : α → α → Bool) (element : α) :
    ∀ (elements : List α), (insertBy mayPrecede element elements).Perm (element :: elements)
  | [] => List.Perm.refl _
  | head :: rest => by
      simp only [insertBy]
      split
      · exact List.Perm.refl _
      · exact ((insertBy_perm mayPrecede element rest).cons head).trans
          (List.Perm.swap element head rest)

theorem sortBy_perm (mayPrecede : α → α → Bool) :
    ∀ (elements : List α), (sortBy mayPrecede elements).Perm elements
  | [] => List.Perm.refl _
  | head :: rest =>
      (insertBy_perm mayPrecede head _).trans ((sortBy_perm mayPrecede rest).cons head)

theorem mem_sortBy {mayPrecede : α → α → Bool} {element : α} {elements : List α} :
    element ∈ sortBy mayPrecede elements ↔ element ∈ elements :=
  (sortBy_perm mayPrecede elements).mem_iff

end SessionSync
