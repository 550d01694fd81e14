import Mathlib.Data.List.Nodup
import SessionSync.Proofs.Tracker.Changes

/-!
# The index of signatures

The index keeps a list of tool uses under each signature.  A tool use joins a list at its
end (`enlist`) and leaves it from anywhere (`delist`); a list that becomes empty is not
kept.
-/

set_option autoImplicit false

namespace SessionSync.Tracker

/-! ## Lists of tool uses -/

/-- Put a tool use at the end of a list, unless it is on it. -/
def enlist (toolId : String) (ids : List String) : List String :=
  if toolId ∈ ids then ids else ids ++ [toolId]

/-- Take a tool use from a list. -/
def delist (toolId : String) (ids : List String) : List String := ids.filter fun id => id != toolId

section Lists

variable {left right last toolId probe : String} {ids : List String}

theorem mem_enlist : probe ∈ enlist toolId ids ↔ probe = toolId ∨ probe ∈ ids := by
  unfold enlist
  split
  · rename_i known
    exact ⟨Or.inr, fun either => either.elim (fun same => same ▸ known) id⟩
  · rw [List.mem_append, List.mem_singleton, or_comm]

theorem mem_delist : probe ∈ delist toolId ids ↔ probe ≠ toolId ∧ probe ∈ ids := by
  unfold delist
  rw [List.mem_filter, bne_iff_ne, and_comm]

theorem enlist_ne_nil : enlist toolId ids ≠ [] :=
  List.ne_nil_of_mem (mem_enlist.2 (Or.inl rfl))

theorem nodup_enlist (distinct : ids.Nodup) : (enlist toolId ids).Nodup := by
  unfold enlist
  split
  · exact distinct
  · rename_i unknown
    exact List.nodup_append.2 ⟨distinct, List.nodup_singleton _, fun left member right single =>
      fun same => unknown (List.mem_singleton.1 single ▸ same ▸ member)⟩

theorem nodup_delist (distinct : ids.Nodup) : (delist toolId ids).Nodup := distinct.filter _

/-- Two entries of a list that has grown: both were on it, or the second one is new. -/
theorem pair_sublist_concat :
    [left, right].Sublist (ids ++ [last]) ↔
      [left, right].Sublist ids ∨ left ∈ ids ∧ right = last := by
  constructor
  · intro pair
    obtain ⟨front, back, split, inFront, inBack⟩ := List.sublist_append_iff.1 pair
    match front, split with
    | [], split =>
        have long := inBack.length_le
        rw [List.nil_append] at split
        rw [← split] at long
        simp at long
    | [first], split =>
        obtain ⟨rfl, rest⟩ := List.cons.inj split
        have rest : [right] = back := rest
        rw [← rest] at inBack
        exact Or.inr ⟨List.singleton_sublist.1 inFront,
          List.mem_singleton.1 (List.singleton_sublist.1 inBack)⟩
    | first :: second :: more, split =>
        obtain ⟨rfl, rest⟩ := List.cons.inj split
        obtain ⟨rfl, -⟩ := List.cons.inj rest
        exact Or.inl (List.Sublist.trans (by simp) inFront)
  · rintro (pair | ⟨member, rfl⟩)
    · exact pair.trans (List.sublist_append_left _ _)
    · exact (List.singleton_sublist.2 member).append (List.Sublist.refl [right])

theorem pair_sublist_delist :
    [left, right].Sublist (delist toolId ids) ↔
      [left, right].Sublist ids ∧ left ≠ toolId ∧ right ≠ toolId := by
  unfold delist
  constructor
  · intro pair
    have kept : ∀ id ∈ [left, right], id ≠ toolId := fun id member => by
      simpa using (List.mem_filter.1 (pair.subset member)).2
    exact ⟨pair.trans List.filter_sublist, kept left (by simp), kept right (by simp)⟩
  · rintro ⟨pair, first, second⟩
    have kept := pair.filter fun id => id != toolId
    simpa [first, second] using kept

end Lists

/-! ## The index -/

/-- The tool uses that the index lists under a signature. -/
def listed (tracker : Tracker) (signature : String) : List String :=
  (tracker.signatures.find? signature).getD []

/-- The signature of the call of a tool use. -/
def signature? (tracker : Tracker) (toolId : String) : Option String :=
  (tracker.call? toolId).map ToolCall.signature

/-- No entry of the index is empty. -/
def NoEmptyEntry (tracker : Tracker) : Prop :=
  ∀ signature, tracker.signatures.find? signature ≠ some []

section Index

theorem listed_of_signatures {left right : Tracker} (same : left.signatures = right.signatures)
    (signature : String) : left.listed signature = right.listed signature := by
  unfold listed
  rw [same]

theorem NoEmptyEntry.of_signatures {left right : Tracker}
    (same : left.signatures = right.signatures) (nonempty : right.NoEmptyEntry) :
    left.NoEmptyEntry := by
  unfold NoEmptyEntry
  rw [same]
  exact nonempty

variable (tracker : Tracker) (toolId signature probe : String)

theorem find?_indexSignature :
    (tracker.indexSignature toolId signature).signatures.find? probe =
      if probe = signature then some (enlist toolId (tracker.listed signature))
      else tracker.signatures.find? probe := by
  unfold indexSignature enlist listed
  dsimp only
  by_cases known : toolId ∈ (tracker.signatures.find? signature).getD []
  · rw [if_pos (List.contains_iff_mem.2 known), if_pos known]
    split
    · rename_i here
      rw [here]
      cases held : tracker.signatures.find? signature with
      | none =>
          rw [held] at known
          cases known
      | some ids => rfl
    · rfl
  · rw [if_neg (fun held => known (List.contains_iff_mem.1 held)), if_neg known]
    exact Table.find?_insert _ _ _ _

theorem find?_unindexSignature :
    (tracker.unindexSignature toolId signature).signatures.find? probe =
      if probe = signature then
        (tracker.signatures.find? signature).bind fun ids =>
          if (delist toolId ids).isEmpty then none else some (delist toolId ids)
      else tracker.signatures.find? probe := by
  unfold unindexSignature delist
  cases held : tracker.signatures.find? signature with
  | none =>
      by_cases here : probe = signature
      · rw [if_pos here, here]
        exact held
      · rw [if_neg here]
  | some ids =>
      rw [Option.bind_some]
      dsimp only
      cases (ids.filter fun id => id != toolId).isEmpty with
      | true => exact Table.find?_erase _ _ _
      | false => exact Table.find?_insert _ _ _ _

theorem listed_indexSignature :
    (tracker.indexSignature toolId signature).listed probe =
      if probe = signature then enlist toolId (tracker.listed probe) else tracker.listed probe := by
  have found := tracker.find?_indexSignature toolId signature probe
  rw [listed, found]
  split
  · rename_i here
    rw [here]
    rfl
  · rfl

theorem listed_unindexSignature :
    (tracker.unindexSignature toolId signature).listed probe =
      if probe = signature then delist toolId (tracker.listed probe) else tracker.listed probe := by
  have found := tracker.find?_unindexSignature toolId signature probe
  rw [listed, found]
  split
  · rename_i here
    rw [here, listed]
    cases tracker.signatures.find? signature with
    | none => rfl
    | some ids =>
        rw [Option.bind_some, Option.getD_some]
        split
        · rename_i empty
          exact (List.isEmpty_iff.1 empty).symm
        · rfl
  · rfl

theorem listed_reindex {old new : String} (different : old ≠ new) :
    (tracker.reindex toolId old new).listed probe =
      if probe = new then enlist toolId (tracker.listed probe)
      else if probe = old then delist toolId (tracker.listed probe)
      else tracker.listed probe := by
  unfold reindex
  rw [if_neg different, listed_indexSignature, listed_unindexSignature]
  by_cases here : probe = new
  · rw [if_pos here, if_pos here, if_neg (here ▸ Ne.symm different)]
  · rw [if_neg here, if_neg here]

variable {tracker} in
theorem NoEmptyEntry.indexSignature (nonempty : tracker.NoEmptyEntry) :
    (tracker.indexSignature toolId signature).NoEmptyEntry := by
  intro probe
  rw [find?_indexSignature]
  split
  · intro same
    exact enlist_ne_nil (Option.some_inj.1 same)
  · exact nonempty probe

variable {tracker} in
theorem NoEmptyEntry.unindexSignature (nonempty : tracker.NoEmptyEntry) :
    (tracker.unindexSignature toolId signature).NoEmptyEntry := by
  intro probe
  rw [find?_unindexSignature]
  split
  · intro same
    obtain ⟨ids, -, kept⟩ := Option.bind_eq_some_iff.1 same
    split at kept
    · cases kept
    · rename_i left
      rw [Option.some_inj.1 kept] at left
      exact left rfl
  · exact nonempty probe

variable {tracker} in
theorem NoEmptyEntry.reindex (nonempty : tracker.NoEmptyEntry) (old new : String) :
    (tracker.reindex toolId old new).NoEmptyEntry := by
  unfold Tracker.reindex
  split
  · exact nonempty
  · exact (nonempty.unindexSignature _ _).indexSignature _ _

end Index

end SessionSync.Tracker
