import Mathlib.Data.List.Basic
import SessionSync.Proofs.Json.Normal
import SessionSync.Proofs.Table
import SessionSync.Wire.Field

/-!
# Records that are written and read again

A record is written in groups of members, one for each field, and the object has its members
in the order of their keys.  When it is read again, every field is given the value that its
group has written (`view?_record`), so a record is read again as it was if every field is.

How values of a type are read and written is `Faithful` when whatever is read is read again
from what it is written as.  That alone would hold of a way of reading that reads nothing.  So
what is proved of every type is more: its way of reading is `Exact` for some proper values,
which are all that it can read, and each of which is read from what it is written as.  Fields,
lists, tables and records keep this up, and what is exact is faithful (`Exact.faithful`).
-/

set_option autoImplicit false

namespace SessionSync.Wire

/-! ## What is written -/

/-- The value that groups of members write under a name, the last one if there are more. -/
def written (groups : List (List (String × Json))) (name : String) : Option Json :=
  (Table.ofList groups.flatten).find? name

section Written

variable (groups : List (List (String × Json))) (probe : String)

theorem written_cons (group : List (String × Json)) :
    written (group :: groups) probe =
      (written groups probe).or ((Table.ofList group).find? probe) := by
  unfold written
  rw [List.flatten_cons, Table.find?_ofList_append]

theorem written_nil : written [] probe = none := rfl

theorem written_entries (table : Table Json) :
    written [table.entries] probe = table.find? probe := by
  rw [written_cons, Table.ofList_entries]
  rfl

theorem written_append (front back : List (List (String × Json))) :
    written (front ++ back) probe = (written back probe).or (written front probe) := by
  unfold written
  rw [List.flatten_append, Table.find?_ofList_append]

/-- No member has a name. -/
def Avoids (probe : String) (groups : List (List (String × Json))) : Prop :=
  ∀ group ∈ groups, ∀ member ∈ group, member.1 ≠ probe

variable {groups probe} in
theorem written_of_avoids (avoids : Avoids probe groups) : written groups probe = none := by
  unfold written
  rw [Table.find?_ofList]
  refine valueAt?_eq_none_of_forall fun member listed same => ?_
  obtain ⟨group, among, inside⟩ := List.mem_flatten.1 (List.mem_reverse.1 listed)
  exact avoids group among member inside same.symm

/-- The members of a written record are those of a table. -/
theorem record_eq : record groups = .object (Table.ofList groups.flatten).entries := by
  have entries : ∀ (members : List (String × Json)) (table : Table Json),
      members.foldl (fun entries member => insertEntry member.1 member.2 entries) table.entries =
        (members.foldl (fun table member => table.insert member.1 member.2) table).entries := by
    intro members
    induction members with
    | nil => exact fun _ => rfl
    | cons member rest ih => exact fun table => ih (table.insert member.1 member.2)
  exact congrArg Json.object (entries groups.flatten Table.empty)

end Written

/-! ## The view of a written record -/

section View

variable {fields : List Field} {groups : List (List (String × Json))}

/-- No value is written under the other names of a field. -/
def Plain (fields : List Field) (groups : List (List (String × Json))) : Prop :=
  ∀ field ∈ fields, ∀ other ∈ field.others, written groups other = none

/-- A name under which something is written names its own field, or none. -/
theorem fieldName?_of_written (plain : Plain fields groups) {key : String} {value : Json}
    (held : written groups key = some value) {name : String}
    (named : fieldName? fields key = some name) : name = key := by
  obtain ⟨field, found, rfl⟩ := Option.map_eq_some_iff.1 named
  have names := List.find?_some found
  rcases Bool.or_eq_true_iff.1 names with same | other
  · exact eq_of_beq same
  · rw [plain field (List.mem_of_find?_eq_some found) key (List.contains_iff_mem.1 other)] at held
    cases held

/-- The first name of a field names some field. -/
theorem isSome_fieldName? {field : Field} (member : field ∈ fields) :
    (fieldName? fields field.name).isSome = true := by
  unfold fieldName?
  rw [Option.isSome_map, List.find?_isSome]
  exact ⟨field, member, by simp⟩

/-- The known members of a written record are those that name a field. -/
theorem knownMembers_written (plain : Plain fields groups) :
    knownMembers fields (Table.ofList groups.flatten).entries =
      ((Table.ofList groups.flatten).filter fun key _ =>
        (fieldName? fields key).isSome).entries := by
  show _ = (Table.ofList groups.flatten).entries.filter fun member =>
    (fieldName? fields member.1).isSome
  unfold knownMembers
  rw [← List.filterMap_eq_filter]
  refine List.filterMap_congr fun member held => ?_
  cases named : fieldName? fields member.1 with
  | none => simp [Option.guard, named]
  | some name =>
      have same := fieldName?_of_written plain (Table.mem_entries_iff.1 held) named
      simp [named, same]

/-- **A written record is read field by field**: every field is given what is written under
its name. -/
theorem view?_record (plain : Plain fields groups) :
    ∃ view, view? fields (record groups) = some view ∧
      ∀ field ∈ fields, view.get? field.name = written groups field.name := by
  let known := (Table.ofList groups.flatten).filter fun key _ => (fieldName? fields key).isSome
  refine ⟨⟨known.entries⟩, ?_, fun field member => ?_⟩
  · have unique : (known.entries.map Prod.fst).Nodup := known.nodup_keys
    rw [record_eq]
    unfold view?
    dsimp only
    rw [knownMembers_written plain, if_pos unique]
  · show known.find? field.name = written groups field.name
    rw [Table.find?_filter, isSome_fieldName? member]
    cases held : (Table.ofList groups.flatten).find? field.name <;> simp [written, held]

/-! ### Groups in the order of the fields -/

/-- All members of a group have one name. -/
def About (name : String) (group : List (String × Json)) : Prop :=
  ∀ member ∈ group, member.1 = name

@[simp] theorem about_always (name : String) (value : Json) : About name (always name value) := by
  simp [About, always]

@[simp] theorem about_whenSome {α : Type} (name : String) (encode : α → Json)
    (value : Option α) : About name (whenSome name encode value) := by
  cases value <;> simp [About, whenSome]

@[simp] theorem about_whenFilled {α : Type} (name : String) (encode : α → Json)
    (values : List α) : About name (whenFilled name encode values) := by
  unfold whenFilled
  split <;> simp [About]

/-- One group for each field, in the order of the fields. -/
def Aligned : List Field → List (List (String × Json)) → Prop
  | field :: fields, group :: groups => About field.name group ∧ Aligned fields groups
  | [], [] => True
  | _, _ => False

/-- No two fields share their first name, and no other name is a first one. -/
def Distinct (fields : List Field) : Prop :=
  (fields.map Field.name).Nodup ∧
    ∀ field ∈ fields, ∀ other ∈ field.others, other ∉ fields.map Field.name

instance (fields : List Field) : Decidable (Distinct fields) :=
  inferInstanceAs (Decidable (_ ∧ _))

/-- A view gives every field what its group has written. -/
def View.Gives (view : View) : List Field → List (List (String × Json)) → Prop
  | field :: fields, group :: groups =>
      view.get? field.name = (Table.ofList group).find? field.name ∧ view.Gives fields groups
  | _, _ => True

theorem About.avoids {probe name : String} {group : List (String × Json)}
    (about : About name group) (other : name ≠ probe) : Avoids probe [group] := by
  intro listed member inside held same
  rw [List.mem_singleton.1 member] at held
  exact other ((about inside held).symm.trans same)

theorem find?_of_about {name : String} {group : List (String × Json)} (about : About name group)
    {probe : String} (other : probe ≠ name) : (Table.ofList group).find? probe = none := by
  have nothing := written_of_avoids (about.avoids other.symm)
  rwa [written_cons, written_nil, Option.none_or] at nothing

/-- Groups that follow the fields write under the names of the fields only. -/
theorem Aligned.avoids {probe : String} (aligned : Aligned fields groups)
    (elsewhere : ∀ field ∈ fields, probe ≠ field.name) : Avoids probe groups := by
  induction fields generalizing groups with
  | nil =>
      cases groups with
      | nil => exact fun _ none => by cases none
      | cons group groups => exact aligned.elim
  | cons field fields ih =>
      cases groups with
      | nil => exact aligned.elim
      | cons group groups =>
          have rest := ih aligned.2 fun later member =>
            elsewhere later (List.mem_cons_of_mem _ member)
          intro listed member inside held same
          rcases List.mem_cons.1 member with rfl | later
          · exact elsewhere field List.mem_cons_self (same.symm.trans (aligned.1 inside held))
          · exact rest listed later inside held same

theorem plain_of_aligned (distinct : Distinct fields) (aligned : Aligned fields groups) :
    Plain fields groups := by
  intro field member other listed
  refine written_of_avoids (aligned.avoids fun named among same => ?_)
  exact distinct.2 field member other listed (List.mem_map.2 ⟨named, among, same.symm⟩)

theorem gives_of_aligned (names : (fields.map Field.name).Nodup)
    (aligned : Aligned fields groups) {view : View}
    (found : ∀ field ∈ fields, view.get? field.name = written groups field.name) :
    view.Gives fields groups := by
  induction fields generalizing groups with
  | nil => trivial
  | cons field fields ih =>
      cases groups with
      | nil => trivial
      | cons group groups =>
          have apart : ∀ later ∈ fields, field.name ≠ later.name := fun later member same =>
            (List.nodup_cons.1 names).1 (List.mem_map.2 ⟨later, member, same.symm⟩)
          refine ⟨?_, ih (List.nodup_cons.1 names).2 aligned.2 fun later member => ?_⟩
          · rw [found field List.mem_cons_self, written_cons,
              written_of_avoids (aligned.2.avoids apart), Option.none_or]
          · rw [found later (List.mem_cons_of_mem _ member), written_cons,
              find?_of_about aligned.1 (apart later member).symm, Option.or_none]

/-! ### The tag of a record -/

@[simp] theorem avoids_nil (probe : String) : Avoids probe [] := nofun

@[simp] theorem avoids_cons (probe : String) (first second : List (String × Json)) :
    Avoids probe (first :: second :: groups) ↔
      Avoids probe [first] ∧ Avoids probe (second :: groups) := by
  simp [Avoids]

@[simp] theorem avoids_always {probe name : String} (value : Json) (other : name ≠ probe) :
    Avoids probe [always name value] := (about_always name value).avoids other

@[simp] theorem avoids_whenSome {α : Type} {probe name : String} (encode : α → Json)
    (value : Option α) (other : name ≠ probe) : Avoids probe [whenSome name encode value] :=
  (about_whenSome name encode value).avoids other

@[simp] theorem avoids_whenFilled {α : Type} {probe name : String} (encode : α → Json)
    (values : List α) (other : name ≠ probe) : Avoids probe [whenFilled name encode values] :=
  (about_whenFilled name encode values).avoids other

/-- The tag of a written record is found, and the other members are left. -/
theorem splitTag?_record {tag : String} (avoids : Avoids tag groups) (value : Json) :
    splitTag? tag (record (always tag value :: groups)) = some (value, record groups) := by
  let all := Table.ofList (always tag value :: groups).flatten
  have found : ∀ key, all.find? key = if key = tag then some value else written groups key := by
    intro key
    show written (always tag value :: groups) key = _
    rw [written_cons]
    by_cases here : key = tag
    · subst here
      rw [written_of_avoids avoids, if_pos rfl, Option.none_or]
      exact Table.find?_insert_self _ key value
    · rw [if_neg here, find?_of_about (about_always tag value) here, Option.or_none]
  have tagged : all.filter (fun key _ => key == tag) = Table.empty.insert tag value := by
    refine Table.ext_find? fun key => ?_
    rw [Table.find?_filter, found, Table.find?_insert]
    by_cases here : key = tag
    · simp [here]
    · cases written groups key <;> simp [here]
  have untagged : all.erase tag = Table.ofList groups.flatten := by
    refine Table.ext_find? fun key => ?_
    rw [Table.find?_erase, found]
    by_cases here : key = tag
    · subst here
      rw [if_pos rfl]
      exact (written_of_avoids avoids).symm
    · rw [if_neg here, if_neg here]
      rfl
  have one : all.entries.filter (fun member => member.1 == tag) = [(tag, value)] :=
    congrArg Table.entries tagged
  have rest : all.entries.filter (fun member => member.1 != tag) =
      (Table.ofList groups.flatten).entries := congrArg Table.entries untagged
  rw [record_eq, record_eq]
  unfold splitTag?
  dsimp only
  rw [one, rest]

/-- The members of a written record are looked up as they were written. -/
theorem member?_record (key : String) : (record groups).member? key = written groups key := by
  rw [record_eq, Json.member?_object, ← Table.find?_ofList, Table.ofList_entries]
  rfl

theorem emptyContent_record : emptyContent (record groups) = some () := rfl

end View

/-! ## Exact ways of reading and writing -/

/-- What is read is read again from what it is written as.  Only `null` is written as
`null`. -/
structure Faithful {α : Type} (decode : Json → Option α) (encode : α → Json) : Prop where
  again : ∀ {value a}, decode value = some a → decode (encode a) = some a
  present : ∀ {value a}, decode value = some a → value ≠ .null → encode a ≠ .null

/-- The values that can be read are the proper ones, and each of them is read from what it is
written as. -/
structure Exact {α : Type} (decode : Json → Option α) (encode : α → Json) (proper : α → Prop) :
    Prop where
  reads : ∀ {a}, proper a → decode (encode a) = some a
  proper : ∀ {value a}, decode value = some a → proper a

section Lists

variable {α β : Type} {read : β → Option α}

/-- Everything in a list that was read was read from something. -/
theorem exists_of_mapM {given : List β} {values : List α} (all : given.mapM read = some values)
    {value : α} (member : value ∈ values) : ∃ source ∈ given, read source = some value := by
  induction given generalizing values with
  | nil =>
      cases all
      cases member
  | cons first rest ih =>
      rw [List.mapM_cons] at all
      obtain ⟨head, readFirst, all⟩ := Option.bind_eq_some_iff.1 all
      obtain ⟨tail, readRest, same⟩ := Option.bind_eq_some_iff.1 all
      cases same
      rcases List.mem_cons.1 member with rfl | later
      · exact ⟨first, List.mem_cons_self, readFirst⟩
      · obtain ⟨source, given, found⟩ := ih readRest later
        exact ⟨source, List.mem_cons_of_mem _ given, found⟩

/-- A list is read again where its elements are. -/
theorem mapM_map_of_forall {write : α → β} {values : List α}
    (again : ∀ value ∈ values, read (write value) = some value) :
    (values.map write).mapM read = some values := by
  induction values with
  | nil => rfl
  | cons first rest ih =>
      rw [List.map_cons, List.mapM_cons, again first List.mem_cons_self,
        ih fun value member => again value (List.mem_cons_of_mem _ member)]
      rfl

end Lists

section Values

variable {α : Type} {decode : Json → Option α} {encode : α → Json} {proper : α → Prop}

/-- Where `null` cannot be read, nothing proper is written as `null`. -/
theorem Exact.encode_ne_null (exact : Exact decode encode proper) (refused : decode .null = none)
    {a : α} (fine : proper a) : encode a ≠ .null := by
  intro null
  have read := exact.reads fine
  rw [null, refused] at read
  cases read

theorem Exact.faithful (exact : Exact decode encode proper) (refused : decode .null = none) :
    Faithful decode encode :=
  ⟨fun read => exact.reads (exact.proper read),
    fun read _ => exact.encode_ne_null refused (exact.proper read)⟩

/-- Where every value is read from what it is written as, every value is proper. -/
theorem Exact.of_always (reads : ∀ a, decode (encode a) = some a) :
    Exact decode encode fun _ => True :=
  ⟨fun _ => reads _, fun _ => trivial⟩

theorem exact_string : Exact Json.string? Json.string fun _ => True := .of_always fun _ => rfl

theorem exact_bool : Exact Json.bool? Json.bool fun _ => True := .of_always fun _ => rfl

theorem exact_word (origin : Origin) {find : String → Option α} {name : α → String}
    (found : ∀ a, find (name a) = some a) :
    Exact (word origin find) (fun a => .string (name a)) fun _ => True :=
  .of_always found

/-- Free values are read in normal form. -/
theorem exact_freeValue : Exact freeValue id Json.IsNormal where
  reads := by
    intro value normal
    exact congrArg some normal
  proper := by
    rintro value _ ⟨⟩
    exact value.normal_normal

theorem exact_integerIn (least most : Int) :
    Exact (integerIn least most) Json.ofInt fun integer => least ≤ integer ∧ integer ≤ most where
  reads := by
    intro integer inside
    exact if_pos inside
  proper := by
    intro value integer read
    obtain ⟨given, -, kept⟩ := Option.bind_eq_some_iff.1 read
    obtain ⟨inside, same⟩ := Option.ite_none_right_eq_some.1 kept
    cases same
    exact inside

theorem exact_naturalUpTo (most : Nat) :
    Exact (naturalUpTo most) Json.ofNat fun natural => natural ≤ most where
  reads := by
    intro natural bounded
    have inside : (0 : Int) ≤ natural ∧ (natural : Int) ≤ most :=
      ⟨Int.natCast_nonneg natural, Int.ofNat_le.2 bounded⟩
    have read := (exact_integerIn 0 most).reads inside
    exact congrArg (Option.map Int.toNat) read
  proper := by
    intro value natural read
    obtain ⟨integer, inside, rfl⟩ := Option.map_eq_some_iff.1 read
    exact Int.toNat_le.2 ((exact_integerIn 0 most).proper inside).2

/-- Lists are read exactly where their elements are. -/
theorem Exact.list (exact : Exact decode encode proper) :
    Exact (listOf decode) (fun values => .array (values.map encode))
      fun values => ∀ a ∈ values, proper a where
  reads := by
    intro values all
    exact mapM_map_of_forall fun a member => exact.reads (all a member)
  proper := by
    intro value values read a member
    obtain ⟨elements, -, each⟩ := Option.bind_eq_some_iff.1 read
    obtain ⟨element, -, found⟩ := exists_of_mapM each member
    exact exact.proper found

/-- Tables are read exactly where their values are. -/
theorem Exact.table (exact : Exact decode encode proper) :
    Exact (tableOf decode) (encodeTable encode)
      fun table => ∀ entry ∈ table.entries, proper entry.2 where
  reads := by
    intro table all
    have rewritten : (table.entries.map fun entry : String × α =>
        (entry.1, encode entry.2)).mapM (fun member => do
          return (member.1, ← decode member.2)) = some table.entries := by
      refine mapM_map_of_forall fun entry member => ?_
      dsimp only
      rw [exact.reads (all entry member)]
      rfl
    refine (congrArg (Option.bind · fun entries => some (Table.ofList entries))
      rewritten).trans ?_
    exact congrArg some (Table.ofList_entries table)
  proper := by
    intro value table read entry member
    cases value with
    | object members =>
        obtain ⟨entries, each, same⟩ := Option.bind_eq_some_iff.1 read
        cases same
        have last := (Table.find?_ofList entries entry.1).symm.trans
          (Table.mem_entries_iff.1 member)
        have listed := List.mem_reverse.1 (mem_of_valueAt? last)
        obtain ⟨source, -, found⟩ := exists_of_mapM each listed
        obtain ⟨a, decoded, same⟩ := Option.bind_eq_some_iff.1 found
        rw [← congrArg Prod.snd (Option.some.inj same)]
        exact exact.proper decoded
    | _ => cases read

/-- Maps are read exactly where their values are: a reading walks what it has read in the order
of the keys. -/
theorem Exact.map (exact : Exact decode encode proper) :
    Exact (mapOf decode) (encodeMap encode)
      fun map => KeyOrdered map.entries ∧ ∀ entry ∈ map.entries, proper entry.2 where
  reads := by
    rintro map ⟨ordered, all⟩
    obtain ⟨table, rfl⟩ : ∃ table, map = WalkedMap.ofTable table := ⟨⟨map.entries, ordered⟩, rfl⟩
    unfold mapOf encodeMap
    rw [WalkedMap.toTable_ofTable, exact.table.reads all]
    rfl
  proper := by
    intro value map read
    obtain ⟨table, found, rfl⟩ := Option.map_eq_some_iff.1 read
    exact ⟨table.ordered, exact.table.proper found⟩

end Values

/-! ## Fields that are read -/

section Fields

variable {α : Type} {decode : Json → Option α} {encode : α → Json} {proper : α → Prop}
  {view : View} {name : String}

theorem find?_always (name : String) (value : Json) :
    (Table.ofList (always name value)).find? name = some value :=
  Table.find?_insert_self _ name value

/-! ### From what is written -/

theorem Exact.required (exact : Exact decode encode proper) {a : α} (fine : proper a)
    (given : view.get? name = (Table.ofList (always name (encode a))).find? name) :
    view.required name decode = some a := by
  unfold View.required
  rw [given, find?_always]
  exact exact.reads fine

theorem Exact.orElse (exact : Exact decode encode proper) {default a : α} (fine : proper a)
    (given : view.get? name = (Table.ofList (always name (encode a))).find? name) :
    view.orElse name default decode = some a := by
  unfold View.orElse
  rw [given, find?_always]
  exact exact.reads fine

/-- A list that is left out when it is empty. -/
theorem Exact.filled (exact : Exact decode encode proper) {values : List α}
    (fine : ∀ a ∈ values, proper a)
    (given : view.get? name = (Table.ofList (whenFilled name encode values)).find? name) :
    view.orElse name [] (listOf decode) = some values := by
  cases values with
  | nil =>
      unfold View.orElse
      rw [given]
      rfl
  | cons first rest => exact exact.list.orElse fine given

theorem Exact.optional_of_present (exact : Exact decode encode proper) {value : Option α}
    (fine : ∀ a ∈ value, proper a ∧ encode a ≠ .null)
    (given : view.get? name = (Table.ofList (whenSome name encode value)).find? name) :
    view.optional name decode = some value := by
  unfold View.optional
  cases value with
  | none =>
      rw [given]
      rfl
  | some a =>
      obtain ⟨fine, present⟩ := fine a rfl
      have given : view.get? name = some (encode a) := given.trans (find?_always name (encode a))
      rw [given]
      split
      · rename_i nothing
        cases nothing
      · rename_i null
        exact absurd (Option.some.inj null) present
      · rename_i same
        cases Option.some.inj same
        rw [exact.reads fine]
        rfl

theorem Exact.optional (exact : Exact decode encode proper) (refused : decode .null = none)
    {value : Option α} (fine : ∀ a ∈ value, proper a)
    (given : view.get? name = (Table.ofList (whenSome name encode value)).find? name) :
    view.optional name decode = some value :=
  exact.optional_of_present
    (fun a held => ⟨fine a held, exact.encode_ne_null refused (fine a held)⟩) given

theorem optional_string {value : Option String}
    (given : view.get? name = (Table.ofList (whenSome name Json.string value)).find? name) :
    view.optional name Json.string? = some value :=
  exact_string.optional rfl (fun _ _ => trivial) given

/-! ### What is read -/

theorem Exact.proper_of_required (exact : Exact decode encode proper) {a : α}
    (got : view.required name decode = some a) : proper a := by
  obtain ⟨value, -, decoded⟩ := Option.bind_eq_some_iff.1 got
  exact exact.proper decoded

theorem Exact.proper_of_orElse (exact : Exact decode encode proper) {default a : α}
    (fine : proper default) (got : view.orElse name default decode = some a) : proper a := by
  unfold View.orElse at got
  cases given : view.get? name with
  | none =>
      rw [given] at got
      cases got
      exact fine
  | some value =>
      rw [given] at got
      exact exact.proper got

theorem Exact.proper_of_filled (exact : Exact decode encode proper) {values : List α}
    (got : view.orElse name [] (listOf decode) = some values) : ∀ a ∈ values, proper a :=
  exact.list.proper_of_orElse (fun _ none => by cases none) got

/-- What an optional field has is read from something else than `null`. -/
theorem exists_of_optional {value : Option α} (got : view.optional name decode = some value)
    {a : α} (held : a ∈ value) : ∃ source, source ≠ .null ∧ decode source = some a := by
  cases held
  unfold View.optional at got
  split at got
  · cases got
  · cases got
  · rename_i source filled _
    obtain ⟨b, decoded, same⟩ := Option.map_eq_some_iff.1 got
    cases same
    exact ⟨source, filled, decoded⟩

theorem Exact.proper_of_optional (exact : Exact decode encode proper) {value : Option α}
    (got : view.optional name decode = some value) : ∀ a ∈ value, proper a := by
  intro a held
  obtain ⟨source, -, decoded⟩ := exists_of_optional got held
  exact exact.proper decoded

/-- A free value that may be missing is in normal form and not `null`. -/
theorem filled_of_optional {value : Option Json}
    (got : view.optional name freeValue = some value) :
    ∀ free ∈ value, free.IsNormal ∧ free ≠ .null := by
  intro free held
  obtain ⟨source, filled, ⟨⟩⟩ := exists_of_optional got held
  exact ⟨source.normal_normal, fun null => filled (Json.normal_eq_null_iff.1 null)⟩

end Fields

/-! ## Records -/

section Records

variable {α : Type} {fields : List Field} {body : View → Option α}
  {groups : α → List (List (String × Json))} {proper : α → Prop}

/-- A record is read exactly, if a proper one is read wherever every field is given what its
group has written, and nothing else is ever read. -/
theorem Exact.record (distinct : Distinct fields) (aligned : ∀ a, Aligned fields (groups a))
    (reads : ∀ {a : α} {view : View}, proper a → view.Gives fields (groups a) →
      body view = some a)
    (decoded : ∀ {view : View} {a : α}, body view = some a → proper a) :
    Exact (fun value => (view? fields value).bind body) (fun a => Wire.record (groups a))
      proper where
  reads := by
    intro a fine
    obtain ⟨view, viewed, found⟩ := view?_record (plain_of_aligned distinct (aligned a))
    rw [viewed]
    exact reads fine (gives_of_aligned distinct.1 (aligned a) found)
  proper := by
    intro value a read
    obtain ⟨view, -, got⟩ := Option.bind_eq_some_iff.1 read
    exact decoded got

end Records

end SessionSync.Wire
