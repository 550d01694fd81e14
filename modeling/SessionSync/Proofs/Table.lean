import Mathlib.Data.List.Induction
import SessionSync.Table

/-!
# Look-ups in tables that were changed

What a look-up finds after a table was changed, for the changes beyond insertion
and removal, and what a set of keys contains after a change.  With these laws no
statement about a table needs its entries.
-/

set_option autoImplicit false

namespace SessionSync

variable {α β : Type}

namespace Table

/-! ## Changes of values -/

theorem find?_mapValues (table : Table α) (change : String → α → β) (probe : String) :
    (table.mapValues change).find? probe = (table.find? probe).map (change probe) := by
  obtain ⟨entries, ordered⟩ := table
  show valueAt? probe (entries.map fun entry => (entry.1, change entry.1 entry.2)) =
    (valueAt? probe entries).map (change probe)
  clear ordered
  induction entries with
  | nil => rfl
  | cons entry rest ih =>
      obtain ⟨key, value⟩ := entry
      by_cases here : probe = key
      · subst here
        simp [valueAt?]
      · simp [valueAt?, here, ih]

theorem find?_adjust (table : Table α) (key : String) (change : α → α) (probe : String) :
    (table.adjust key change).find? probe =
      if probe = key then (table.find? key).map change else table.find? probe := by
  unfold adjust
  cases held : table.find? key with
  | none =>
      by_cases here : probe = key
      · simp [here, held]
      · simp [here]
  | some value => simp [find?_insert]

/-! ## Tables of entries -/

end Table

theorem valueAt?_append (key : String) (front back : List (String × α)) :
    valueAt? key (front ++ back) = (valueAt? key front).or (valueAt? key back) := by
  induction front with
  | nil => rfl
  | cons entry rest ih =>
      obtain ⟨other, held⟩ := entry
      by_cases here : key = other <;> simp [valueAt?, here, ih]

theorem not_mem_of_valueAt?_eq_none {key : String} {entries : List (String × α)}
    (absent : valueAt? key entries = none) (value : α) : (key, value) ∉ entries := by
  induction entries with
  | nil => simp
  | cons entry rest ih =>
      obtain ⟨other, held⟩ := entry
      simp only [valueAt?] at absent
      split at absent
      · cases absent
      · rename_i different
        simp [different, ih absent]

namespace Table

/-- Of several entries that are written under one key the last is found. -/
theorem find?_foldl_insert (entries : List (String × α)) (table : Table α) (probe : String) :
    (entries.foldl (fun table entry => table.insert entry.1 entry.2) table).find? probe =
      (valueAt? probe entries.reverse).or (table.find? probe) := by
  induction entries using List.reverseRecOn with
  | nil => rfl
  | append_singleton rest entry ih =>
      rw [List.foldl_append, List.foldl_cons, List.foldl_nil, find?_insert, ih,
        List.reverse_append]
      show _ = (valueAt? probe (entry :: rest.reverse)).or _
      simp only [valueAt?]
      split
      · rfl
      · rfl

/-- Of several entries with one key the last is found. -/
theorem find?_ofList (entries : List (String × α)) (probe : String) :
    (ofList entries).find? probe = valueAt? probe entries.reverse :=
  (find?_foldl_insert entries empty probe).trans Option.or_none

theorem find?_ofList_append (front back : List (String × α)) (probe : String) :
    (ofList (front ++ back)).find? probe =
      ((ofList back).find? probe).or ((ofList front).find? probe) := by
  rw [find?_ofList, find?_ofList, find?_ofList, List.reverse_append, valueAt?_append]

/-- A table is the table of its entries. -/
theorem ofList_entries (table : Table α) : ofList table.entries = table := by
  refine ext_find? fun key => ?_
  rw [find?_ofList]
  cases held : table.find? key with
  | some value =>
      cases last : valueAt? key table.entries.reverse with
      | some other =>
          have member := List.mem_reverse.1 (mem_of_valueAt? last)
          rw [← held, ← mem_entries_iff.1 member]
      | none =>
          have member := List.mem_reverse.2 (mem_entries_iff.2 held)
          exact absurd member (not_mem_of_valueAt?_eq_none last value)
  | none =>
      refine valueAt?_eq_none_of_forall fun entry member same => ?_
      subst same
      rw [mem_entries_iff.1 (List.mem_reverse.1 member)] at held
      cases held

/-! ## Writes that change nothing -/

/-- Writing what a key holds changes nothing. -/
theorem insert_of_find? {table : Table α} {key : String} {value : α}
    (held : table.find? key = some value) : table.insert key value = table := by
  apply ext_find?
  intro probe
  rw [find?_insert]
  split
  · rename_i here
    rw [here, held]
  · rfl

/-- Removing a key that holds nothing changes nothing. -/
theorem erase_of_find? {table : Table α} {key : String} (absent : table.find? key = none) :
    table.erase key = table := by
  apply ext_find?
  intro probe
  rw [find?_erase]
  split
  · rename_i here
    rw [here, absent]
  · rfl

/-- Entries that are written once more change nothing. -/
theorem foldl_insert_foldl_insert (entries : List (String × α)) (table : Table α) :
    entries.foldl (fun table entry => table.insert entry.1 entry.2)
        (entries.foldl (fun table entry => table.insert entry.1 entry.2) table) =
      entries.foldl (fun table entry => table.insert entry.1 entry.2) table := by
  apply ext_find?
  intro probe
  rw [find?_foldl_insert, find?_foldl_insert, ← Option.or_assoc, Option.or_self]

/-! ## Writes under different keys -/

/-- Writes under different keys can change places. -/
theorem insert_comm (table : Table α) {left right : String}
    (different : left ≠ right) (first second : α) :
    (table.insert left first).insert right second =
      (table.insert right second).insert left first := by
  apply ext_find?
  intro probe
  simp only [find?_insert]
  by_cases here : probe = right
  · rw [if_pos here, if_neg fun there => different (there.symm.trans here), if_pos here]
  · rw [if_neg here, if_neg here]

/-! ## Containing a key -/

@[simp] theorem find?_emptyCollection (probe : String) : ({} : Table α).find? probe = none := rfl

@[simp] theorem contains_emptyCollection (probe : String) :
    ({} : Table α).contains probe = false := rfl

theorem contains_insert (table : Table α) (key : String) (value : α) (probe : String) :
    (table.insert key value).contains probe = (probe == key || table.contains probe) := by
  by_cases here : probe = key <;> simp [contains, find?_insert, here]

theorem contains_erase (table : Table α) (key probe : String) :
    (table.erase key).contains probe = (probe != key && table.contains probe) := by
  by_cases here : probe = key <;> simp [contains, find?_erase, here]

theorem contains_mapValues (table : Table α) (change : String → α → β) (probe : String) :
    (table.mapValues change).contains probe = table.contains probe := by
  simp [contains, find?_mapValues]

theorem contains_of_find? {table : Table α} {key : String} {value : α}
    (found : table.find? key = some value) : table.contains key = true := by
  simp [contains, found]

theorem contains_keys (table : Table α) (key : String) :
    table.keys.contains key = table.contains key := by
  rw [Bool.eq_iff_iff, List.contains_iff_mem]
  exact mem_keys_iff

theorem contains_eq_false_iff {table : Table α} {key : String} :
    table.contains key = false ↔ table.find? key = none := by
  simp [contains]

end Table

theorem KeySet.contains_add (set : KeySet) (key probe : String) :
    (set.add key).contains probe = (probe == key || set.contains probe) :=
  Table.contains_insert set key () probe

/-- Two sets that contain the same keys are equal. -/
theorem KeySet.ext_contains {left right : KeySet}
    (same : ∀ key, left.contains key = right.contains key) : left = right := by
  apply Table.ext_find?
  intro key
  have here := same key
  unfold Table.contains at here
  cases leftFound : left.find? key <;> cases rightFound : right.find? key <;>
    simp_all

/-- A key that is contained can be added again without a change. -/
theorem KeySet.add_of_contains {set : KeySet} {key : String} (known : set.contains key = true) :
    set.add key = set := by
  apply KeySet.ext_contains
  intro probe
  rw [KeySet.contains_add]
  by_cases here : probe = key
  · simp [here, known]
  · simp [here]

/-! ## Maps that are walked -/

theorem valueAt?_of_mem_of_nodup {entries : List (String × α)}
    (distinct : (entries.map Prod.fst).Nodup) {key : String} {value : α}
    (member : (key, value) ∈ entries) : valueAt? key entries = some value := by
  induction entries with
  | nil => cases member
  | cons entry rest ih =>
      obtain ⟨other, held⟩ := entry
      obtain ⟨fresh, distinct⟩ := List.nodup_cons.1 distinct
      rcases List.mem_cons.1 member with same | later
      · cases same
        exact if_pos rfl
      · have different : key ≠ other := fun same => fresh (List.mem_map.2 ⟨_, later, same⟩)
        exact (if_neg different).trans (ih distinct later)

/-- What a key holds does not depend on the order of the entries. -/
theorem valueAt?_perm {left right : List (String × α)} (perm : left.Perm right)
    (distinct : (left.map Prod.fst).Nodup) (key : String) :
    valueAt? key left = valueAt? key right := by
  have distinct' : (right.map Prod.fst).Nodup := (perm.map Prod.fst).nodup_iff.1 distinct
  cases held : valueAt? key left with
  | some value =>
      have member := perm.mem_iff.1 (mem_of_valueAt? held)
      exact (valueAt?_of_mem_of_nodup distinct' member).symm
  | none =>
      refine (valueAt?_eq_none_of_forall fun entry member same => ?_).symm
      subst same
      exact not_mem_of_valueAt?_eq_none held entry.2 (perm.mem_iff.2 member)

namespace WalkedMap

theorem mem_entries_iff {map : WalkedMap α} {key : String} {value : α} :
    (key, value) ∈ map.entries ↔ map.find? key = some value :=
  ⟨valueAt?_of_mem_of_nodup map.distinct, mem_of_valueAt?⟩

theorem contains_of_find? {map : WalkedMap α} {key : String} {value : α}
    (found : map.find? key = some value) : map.contains key = true := by
  simp [contains, found]

theorem mem_keys_iff {map : WalkedMap α} {key : String} :
    key ∈ map.keys ↔ map.contains key = true := by
  unfold keys contains
  rw [List.mem_map, Option.isSome_iff_exists]
  constructor
  · rintro ⟨⟨key', value⟩, member, rfl⟩
    exact ⟨value, mem_entries_iff.1 member⟩
  · rintro ⟨value, found⟩
    exact ⟨(key, value), mem_entries_iff.2 found, rfl⟩

theorem contains_keys (map : WalkedMap α) (key : String) :
    map.keys.contains key = map.contains key := by
  rw [Bool.eq_iff_iff, List.contains_iff_mem]
  exact mem_keys_iff

@[simp] theorem toTable_ofTable (table : Table α) : (ofTable table).toTable = table :=
  Table.ofList_entries table

end WalkedMap

end SessionSync
