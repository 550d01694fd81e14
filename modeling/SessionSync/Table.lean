/-!
# Tables keyed by text

A table holds at most one value under each key, and its entries stand in
strictly ascending key order, so there is only one table with given contents.
Keys are ordered by their characters' code points, which is also the order of
their UTF-8 bytes.

Everything that the library keeps by id is such a table, so no result can
depend on the order in which ids arrived.  The main statements: a look-up after
an insertion or a removal sees exactly that change (`find?_insert`,
`find?_erase`), and two tables that answer every look-up alike are equal
(`Table.ext_find?`).

A map that is read from outside and worked off entry by entry is another thing.
It has an order in which it is walked, which no key decides, and what the
entries do may depend on that order: it is a `WalkedMap`.
-/

set_option autoImplicit false

namespace SessionSync

variable {α : Type}

/-! ## Entries in key order -/

/-- Write a value into entries in key order. -/
def insertEntry (key : String) (value : α) : List (String × α) → List (String × α)
  | [] => [(key, value)]
  | (other, held) :: rest =>
      if key < other then (key, value) :: (other, held) :: rest
      else if key = other then (key, value) :: rest
      else (other, held) :: insertEntry key value rest

/-- The value under a key. -/
def valueAt? (key : String) : List (String × α) → Option α
  | [] => none
  | (other, held) :: rest => if key = other then some held else valueAt? key rest

/-- Entries in strictly ascending key order. -/
def KeyOrdered (entries : List (String × α)) : Prop :=
  entries.Pairwise fun left right => left.1 < right.1

theorem mem_insertEntry {key : String} {value : α} {entry : String × α} :
    ∀ {entries : List (String × α)}, entry ∈ insertEntry key value entries →
      entry = (key, value) ∨ entry ∈ entries
  | [], member => by simpa [insertEntry] using member
  | (other, held) :: rest, member => by
      simp only [insertEntry] at member
      split at member
      · simpa using member
      · split at member
        · rcases List.mem_cons.1 member with same | member
          · exact Or.inl same
          · exact Or.inr (List.mem_cons_of_mem _ member)
        · rcases List.mem_cons.1 member with same | member
          · exact Or.inr (List.mem_cons.2 (Or.inl same))
          · rcases mem_insertEntry member with same | member
            · exact Or.inl same
            · exact Or.inr (List.mem_cons_of_mem _ member)

/-- Of two texts one comes first, or they are the same. -/
theorem lt_of_not_lt_of_ne {left right : String} (notBefore : ¬ left < right)
    (different : left ≠ right) : right < left := by
  rcases Classical.em (right < left) with before | notAfter
  · exact before
  · exact absurd (String.le_antisymm (String.not_lt.1 notAfter) (String.not_lt.1 notBefore))
      different

theorem keyOrdered_insertEntry (key : String) (value : α) :
    ∀ {entries : List (String × α)}, KeyOrdered entries →
      KeyOrdered (insertEntry key value entries)
  | [], _ => by simp [insertEntry, KeyOrdered]
  | (other, held) :: rest, ordered => by
      have above := (List.pairwise_cons.1 ordered).1
      have tail := (List.pairwise_cons.1 ordered).2
      simp only [insertEntry]
      split
      · rename_i before
        refine List.pairwise_cons.2 ⟨fun entry member => ?_, ordered⟩
        rcases List.mem_cons.1 member with rfl | member
        · exact before
        · exact String.lt_trans before (above entry member)
      · rename_i notBefore
        split
        · rename_i same
          exact List.pairwise_cons.2 ⟨fun entry member => same ▸ above entry member, tail⟩
        · rename_i different
          refine List.pairwise_cons.2 ⟨fun entry member => ?_, keyOrdered_insertEntry key value tail⟩
          rcases mem_insertEntry member with rfl | member
          · exact lt_of_not_lt_of_ne notBefore different
          · exact above entry member

theorem valueAt?_eq_none_of_forall {key : String} :
    ∀ {entries : List (String × α)}, (∀ entry ∈ entries, key ≠ entry.1) →
      valueAt? key entries = none
  | [], _ => rfl
  | (other, held) :: rest, absent => by
      have different : key ≠ other := absent (other, held) List.mem_cons_self
      simp only [valueAt?, different, if_false]
      exact valueAt?_eq_none_of_forall fun entry member =>
        absent entry (List.mem_cons_of_mem _ member)

theorem valueAt?_insertEntry (key : String) (value : α) (probe : String) :
    ∀ (entries : List (String × α)),
      valueAt? probe (insertEntry key value entries) =
        if probe = key then some value else valueAt? probe entries
  | [] => by simp [insertEntry, valueAt?]
  | (other, held) :: rest => by
      simp only [insertEntry]
      split
      · simp [valueAt?]
      · split
        · rename_i same
          subst same
          by_cases here : probe = key <;> simp [valueAt?, here]
        · rename_i different
          simp only [valueAt?, valueAt?_insertEntry key value probe rest]
          by_cases here : probe = key
          · subst here
            simp [different]
          · simp [here]

theorem mem_of_valueAt? {key : String} {value : α} :
    ∀ {entries : List (String × α)}, valueAt? key entries = some value → (key, value) ∈ entries
  | (other, held) :: rest, found => by
      simp only [valueAt?] at found
      split at found
      · rename_i same
        cases found
        exact same ▸ List.mem_cons_self
      · exact List.mem_cons_of_mem _ (mem_of_valueAt? found)

theorem valueAt?_of_mem {key : String} {value : α} :
    ∀ {entries : List (String × α)}, KeyOrdered entries → (key, value) ∈ entries →
      valueAt? key entries = some value
  | (other, held) :: rest, ordered, member => by
      have above := (List.pairwise_cons.1 ordered).1
      rcases List.mem_cons.1 member with same | member
      · cases same
        simp [valueAt?]
      · have later := above _ member
        have different : key ≠ other := fun same => String.lt_irrefl other (same ▸ later)
        simp only [valueAt?, different, if_false]
        exact valueAt?_of_mem (List.pairwise_cons.1 ordered).2 member

theorem entries_ext {left right : List (String × α)} (leftOrdered : KeyOrdered left)
    (rightOrdered : KeyOrdered right)
    (same : ∀ key, valueAt? key left = valueAt? key right) : left = right := by
  have sameMembers : ∀ entry, entry ∈ left ↔ entry ∈ right := by
    intro ⟨key, value⟩
    constructor
    · intro member
      exact mem_of_valueAt? ((same key) ▸ valueAt?_of_mem leftOrdered member)
    · intro member
      exact mem_of_valueAt? ((same key).symm ▸ valueAt?_of_mem rightOrdered member)
  induction left generalizing right with
  | nil =>
      cases right with
      | nil => rfl
      | cons entry rest => exact absurd ((sameMembers entry).2 List.mem_cons_self) (by simp)
  | cons entry rest ih =>
      cases right with
      | nil => exact absurd ((sameMembers entry).1 List.mem_cons_self) (by simp)
      | cons entry' rest' =>
          have above := (List.pairwise_cons.1 leftOrdered).1
          have above' := (List.pairwise_cons.1 rightOrdered).1
          have heads : entry = entry' := by
            rcases List.mem_cons.1 ((sameMembers entry).1 List.mem_cons_self) with eq | later
            · exact eq
            · rcases List.mem_cons.1 ((sameMembers entry').2 List.mem_cons_self) with eq | later'
              · exact eq.symm
              · exact absurd (above' entry later) (String.lt_asymm (above entry' later'))
          subst heads
          have tails : ∀ probe, probe ∈ rest ↔ probe ∈ rest' := by
            intro probe
            constructor
            · intro member
              rcases List.mem_cons.1 ((sameMembers probe).1 (List.mem_cons_of_mem _ member)) with
                eq | member'
              · exact absurd (eq ▸ above probe member) (String.lt_irrefl _)
              · exact member'
            · intro member
              rcases List.mem_cons.1 ((sameMembers probe).2 (List.mem_cons_of_mem _ member)) with
                eq | member'
              · exact absurd (eq ▸ above' probe member) (String.lt_irrefl _)
              · exact member'
          have leftTail := (List.pairwise_cons.1 leftOrdered).2
          have rightTail := (List.pairwise_cons.1 rightOrdered).2
          have sameTail : ∀ key, valueAt? key rest = valueAt? key rest' := by
            intro key
            cases found : valueAt? key rest with
            | some value =>
                exact (valueAt?_of_mem rightTail ((tails _).1 (mem_of_valueAt? found))).symm
            | none =>
                cases found' : valueAt? key rest' with
                | none => rfl
                | some value =>
                    have := valueAt?_of_mem leftTail ((tails _).2 (mem_of_valueAt? found'))
                    rw [found] at this
                    cases this
          rw [ih leftTail rightTail sameTail tails]

/-! ## Tables -/

/-- At most one value under each key; entries in ascending key order. -/
structure Table (α : Type) where
  entries : List (String × α)
  ordered : KeyOrdered entries

namespace Table

instance [DecidableEq α] : DecidableEq (Table α) := fun left right =>
  if same : left.entries = right.entries then
    isTrue (by cases left; cases right; cases same; rfl)
  else isFalse fun equal => same (equal ▸ rfl)

instance [Repr α] : Repr (Table α) := ⟨fun table precedence => reprPrec table.entries precedence⟩

/-- The table without entries. -/
def empty : Table α := ⟨[], List.Pairwise.nil⟩

instance : Inhabited (Table α) := ⟨empty⟩

instance : EmptyCollection (Table α) := ⟨empty⟩

/-- The value under a key. -/
def find? (table : Table α) (key : String) : Option α := valueAt? key table.entries

/-- Whether the table has a value under the key. -/
def contains (table : Table α) (key : String) : Bool := (table.find? key).isSome

/-- Write a value, replacing what the key held. -/
def insert (table : Table α) (key : String) (value : α) : Table α :=
  ⟨insertEntry key value table.entries, keyOrdered_insertEntry key value table.ordered⟩

/-- Keep the entries that pass a test. -/
def filter (table : Table α) (keep : String → α → Bool) : Table α :=
  ⟨table.entries.filter fun entry => keep entry.1 entry.2, table.ordered.filter _⟩

/-- Remove a key. -/
def erase (table : Table α) (key : String) : Table α :=
  table.filter fun other _ => other != key

/-- Change every value by a rule that may look at its key. -/
def mapValues {β : Type} (table : Table α) (change : String → α → β) : Table β :=
  ⟨table.entries.map fun entry => (entry.1, change entry.1 entry.2),
    List.pairwise_map.2 (table.ordered.imp fun before => before)⟩

/-- Change the value under a key, where there is one. -/
def adjust (table : Table α) (key : String) (change : α → α) : Table α :=
  match table.find? key with
  | some value => table.insert key (change value)
  | none => table

/-- The keys in ascending order. -/
def keys (table : Table α) : List String := table.entries.map Prod.fst

/-- The values in the order of their keys. -/
def values (table : Table α) : List α := table.entries.map Prod.snd

/-- The number of entries. -/
def size (table : Table α) : Nat := table.entries.length

/-- Whether there is no entry. -/
def isEmpty (table : Table α) : Bool := table.entries.isEmpty

/-- The table of a list of entries; of several with one key the last wins. -/
def ofList (entries : List (String × α)) : Table α :=
  entries.foldl (fun table entry => table.insert entry.1 entry.2) empty

/-! ## Look-up laws -/

@[simp] theorem find?_empty (key : String) : (empty : Table α).find? key = none := rfl

theorem find?_insert (table : Table α) (key : String) (value : α) (probe : String) :
    (table.insert key value).find? probe = if probe = key then some value else table.find? probe :=
  valueAt?_insertEntry key value probe table.entries

@[simp] theorem find?_insert_self (table : Table α) (key : String) (value : α) :
    (table.insert key value).find? key = some value := by
  simp [find?_insert]

theorem find?_insert_of_ne (table : Table α) {key probe : String} (value : α)
    (different : probe ≠ key) : (table.insert key value).find? probe = table.find? probe := by
  simp [find?_insert, different]

theorem mem_entries_iff {table : Table α} {key : String} {value : α} :
    (key, value) ∈ table.entries ↔ table.find? key = some value :=
  ⟨valueAt?_of_mem table.ordered, mem_of_valueAt?⟩

theorem find?_filter (table : Table α) (keep : String → α → Bool) (probe : String) :
    (table.filter keep).find? probe = (table.find? probe).filter (keep probe) := by
  cases found : (table.filter keep).find? probe with
  | some value =>
      have member := mem_entries_iff.2 found
      have held : (probe, value) ∈ table.entries ∧ keep probe value = true := by
        simpa [filter] using member
      simp [mem_entries_iff.1 held.1, held.2, Option.filter]
  | none =>
      cases held : table.find? probe with
      | none => rfl
      | some value =>
          cases kept : keep probe value with
          | false => simp [Option.filter, kept]
          | true =>
              have member : (probe, value) ∈ (table.filter keep).entries := by
                simpa [filter, kept] using mem_entries_iff.2 held
              rw [mem_entries_iff.1 member] at found
              cases found

theorem find?_erase (table : Table α) (key probe : String) :
    (table.erase key).find? probe = if probe = key then none else table.find? probe := by
  unfold erase
  rw [find?_filter]
  by_cases here : probe = key
  · cases table.find? probe <;> simp [here, Option.filter]
  · cases table.find? probe <;> simp [here, Option.filter]

/-- Two tables that answer every look-up alike are equal. -/
theorem ext_find? {left right : Table α} (same : ∀ key, left.find? key = right.find? key) :
    left = right := by
  obtain ⟨leftEntries, leftOrdered⟩ := left
  obtain ⟨rightEntries, rightOrdered⟩ := right
  have entries : leftEntries = rightEntries := entries_ext leftOrdered rightOrdered same
  subst entries
  rfl

theorem mem_keys_iff {table : Table α} {key : String} :
    key ∈ table.keys ↔ table.contains key = true := by
  simp only [keys, contains, List.mem_map, Option.isSome_iff_exists]
  constructor
  · rintro ⟨⟨key', value⟩, member, rfl⟩
    exact ⟨value, mem_entries_iff.1 member⟩
  · rintro ⟨value, found⟩
    exact ⟨(key, value), mem_entries_iff.2 found, rfl⟩

/-- No key stands twice. -/
theorem nodup_keys (table : Table α) : table.keys.Nodup := by
  refine List.pairwise_map.2 (table.ordered.imp ?_)
  intro left right before same
  rw [same] at before
  exact String.lt_irrefl right.1 before

end Table

/-! ## Maps that are walked -/

/-- At most one value under each key; entries in the order in which the map is walked.
The order is the map's own: two readings of one text hold the same entries and may walk
them differently. -/
structure WalkedMap (α : Type) where
  entries : List (String × α)
  distinct : (entries.map Prod.fst).Nodup

namespace WalkedMap

instance [DecidableEq α] : DecidableEq (WalkedMap α) := fun left right =>
  if same : left.entries = right.entries then
    isTrue (by cases left; cases right; cases same; rfl)
  else isFalse fun equal => same (equal ▸ rfl)

instance [Repr α] : Repr (WalkedMap α) := ⟨fun map precedence => reprPrec map.entries precedence⟩

/-- The value under a key. -/
def find? (map : WalkedMap α) (key : String) : Option α := valueAt? key map.entries

/-- Whether the map has a value under the key. -/
def contains (map : WalkedMap α) (key : String) : Bool := (map.find? key).isSome

/-- The keys in the order in which they are walked. -/
def keys (map : WalkedMap α) : List String := map.entries.map Prod.fst

/-- A table, walked from its least key on. -/
def ofTable (table : Table α) : WalkedMap α := ⟨table.entries, table.nodup_keys⟩

/-- The table with the entries of a map. -/
def toTable (map : WalkedMap α) : Table α := Table.ofList map.entries

end WalkedMap

/-- A set of keys. -/
abbrev KeySet := Table Unit

namespace KeySet

/-- Add a key. -/
def add (set : KeySet) (key : String) : KeySet := Table.insert set key ()

end KeySet

end SessionSync
