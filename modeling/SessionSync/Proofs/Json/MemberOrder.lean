import Mathlib.Data.List.Forall2
import Mathlib.Data.List.Nodup
import SessionSync.Proofs.Json.Normal
import SessionSync.Proofs.Json.Unambiguous
import SessionSync.Proofs.Table

/-!
# The order of members

The members of an object may stand in any order, at every depth.  What this means is said
twice here.  Two values are `Alike` if they have the same shape and the same leaves, where an
object is known by the values under its keys alone; a document that repeats a key has the
last value under it.  Two values are `Reordered` if the members of every object of one are a
permutation of those of the other.  For values that repeat no key it is the same
(`alike_iff_reordered`).

Values are alike exactly if they have one normal form (`alike_iff_normal`), so a signature
determines the name of the tool and, up to the order of members, its input
(`toolSignature_eq_iff_reordered`).  Numbers count as they are kept: an integer is no
double, and the two zeros of the doubles are two numbers.
-/

set_option autoImplicit false

namespace SessionSync

namespace Json

/-! ## Values by their parts -/

/-- To show something of every value, show it of an array for whose elements it holds, and
of an object for whose members it holds. -/
@[elab_as_elim]
theorem induction_parts {motive : Json → Prop} (null : motive .null)
    (bool : ∀ value, motive (.bool value)) (number : ∀ value, motive (.number value))
    (string : ∀ value, motive (.string value))
    (array : ∀ elements, (∀ element ∈ elements, motive element) → motive (.array elements))
    (object : ∀ members, (∀ member ∈ members, motive member.2) → motive (.object members))
    (value : Json) : motive value := by
  cases value with
  | null => exact null
  | bool value => exact bool value
  | number value => exact number value
  | string value => exact string value
  | array elements =>
      refine array elements fun element member => ?_
      have smaller : sizeOf element < sizeOf (Json.array elements) :=
        Nat.lt_trans (List.sizeOf_lt_of_mem member) (by simp)
      exact induction_parts null bool number string array object element
  | object members =>
      refine object members fun member held => ?_
      have smaller : sizeOf member.2 < sizeOf (Json.object members) := by
        have inside := List.sizeOf_lt_of_mem held
        rw [← Prod.mk.eta (p := member), Prod.mk.sizeOf_spec] at inside
        rw [Json.object.sizeOf_spec]
        omega
      exact induction_parts null bool number string array object member.2
termination_by sizeOf value
decreasing_by
  · exact smaller
  · exact smaller

/-! ## Alike -/

/-- Equal but for the order of object members, at every depth.  Of repeated members the last
counts. -/
inductive Alike : Json → Json → Prop
  | same (value : Json) : Alike value value
  | array {left right : List Json} (elements : List.Forall₂ Alike left right) :
      Alike (.array left) (.array right)
  | object {left right : List (String × Json)}
      (members : ∀ key, Option.Rel Alike ((object left).member? key) ((object right).member? key)) :
      Alike (.object left) (.object right)

/-- No object, at any depth, has two members with one key. -/
inductive KeysDistinct : Json → Prop
  | null : KeysDistinct .null
  | bool (value : Bool) : KeysDistinct (.bool value)
  | number (value : Number) : KeysDistinct (.number value)
  | string (value : String) : KeysDistinct (.string value)
  | array {elements : List Json} (each : ∀ element ∈ elements, KeysDistinct element) :
      KeysDistinct (.array elements)
  | object {members : List (String × Json)} (keys : (members.map Prod.fst).Nodup)
      (each : ∀ member ∈ members, KeysDistinct member.2) : KeysDistinct (.object members)

attribute [simp] KeysDistinct.null KeysDistinct.bool KeysDistinct.number KeysDistinct.string

@[simp] theorem keysDistinct_array {elements : List Json} :
    (Json.array elements).KeysDistinct ↔ ∀ element ∈ elements, element.KeysDistinct :=
  ⟨fun distinct => by cases distinct; assumption, .array⟩

@[simp] theorem keysDistinct_object {members : List (String × Json)} :
    (Json.object members).KeysDistinct ↔
      (members.map Prod.fst).Nodup ∧ ∀ member ∈ members, member.2.KeysDistinct :=
  ⟨fun distinct => by cases distinct; exact ⟨by assumption, by assumption⟩,
    fun ⟨keys, each⟩ => .object keys each⟩

/-- The members of every object, at every depth, moved to other places. -/
inductive Reordered : Json → Json → Prop
  | same (value : Json) : Reordered value value
  | array {left right : List Json} (elements : List.Forall₂ Reordered left right) :
      Reordered (.array left) (.array right)
  | object {left moved right : List (String × Json)} (order : left.Perm moved)
      (keys : moved.map Prod.fst = right.map Prod.fst)
      (values : List.Forall₂ Reordered (moved.map Prod.snd) (right.map Prod.snd)) :
      Reordered (.object left) (.object right)

/-! ## Looking members up -/

theorem normalElements_eq_map (elements : List Json) :
    normalElements elements = elements.map normal := by
  induction elements with
  | nil => rfl
  | cons element rest ih => rw [normalElements, ih, List.map_cons]

/-- Of the members that are written, and those that stand already, the last one of each key
is found, in normal form. -/
theorem valueAt?_normalMembers (members written : List (String × Json)) (key : String) :
    valueAt? key (normalMembers written members) =
      ((valueAt? key members.reverse).map normal).or (valueAt? key written) := by
  induction members generalizing written with
  | nil => rfl
  | cons member rest ih =>
      obtain ⟨other, value⟩ := member
      rw [normalMembers, ih, valueAt?_insertEntry, List.reverse_cons, valueAt?_append, valueAt?]
      by_cases here : key = other
      · rw [if_pos here, if_pos here]
        cases valueAt? key rest.reverse <;> rfl
      · rw [if_neg here, if_neg here]
        cases valueAt? key rest.reverse <;> rfl

/-- The members of a normal form, by their keys. -/
theorem valueAt?_normalMembers_nil (members : List (String × Json)) (key : String) :
    valueAt? key (normalMembers [] members) = ((object members).member? key).map normal := by
  rw [valueAt?_normalMembers, member?_object]
  exact Option.or_none

/-- Two objects have one normal form if and only if the values under each key have. -/
theorem normal_object_eq_iff (left right : List (String × Json)) :
    (object left).normal = (object right).normal ↔
      ∀ key, ((object left).member? key).map normal = ((object right).member? key).map normal := by
  have ordered : ∀ members, KeyOrdered (normalMembers [] members) := fun members =>
    (inOrder_normalMembers members ⟨List.Pairwise.nil, by simp⟩).ordered
  simp only [normal, Json.object.injEq, ← valueAt?_normalMembers_nil]
  exact ⟨fun same key => by rw [same], entries_ext (ordered left) (ordered right)⟩

theorem mem_of_member? {members : List (String × Json)} {key : String} {value : Json}
    (found : (object members).member? key = some value) : (key, value) ∈ members := by
  rw [member?_object] at found
  exact List.mem_reverse.1 (mem_of_valueAt? found)

/-- Two relations that agree on the elements of two lists relate them alike. -/
theorem forall₂_iff_of_mem {α β : Type} {R S : α → β → Prop} {left : List α} {right : List β}
    (agree : ∀ a ∈ left, ∀ b ∈ right, R a b ↔ S a b) :
    List.Forall₂ R left right ↔ List.Forall₂ S left right := by
  have pairs : ∀ {a : α} {b : β}, (a, b) ∈ left.zip right → (R a b ↔ S a b) := fun paired =>
    agree _ (List.of_mem_zip paired).1 _ (List.of_mem_zip paired).2
  rw [List.forall₂_iff_zip, List.forall₂_iff_zip]
  exact ⟨fun ⟨long, each⟩ => ⟨long, fun paired => (pairs paired).1 (each paired)⟩,
    fun ⟨long, each⟩ => ⟨long, fun paired => (pairs paired).2 (each paired)⟩⟩

/-! ## Alike is to have one normal form -/

/-- **Two values are alike if and only if they have the same normal form.** -/
theorem alike_iff_normal {left right : Json} : left.Alike right ↔ left.normal = right.normal := by
  induction left using induction_parts generalizing right with
  | null =>
      refine ⟨fun alike => by cases alike; rfl, fun same => ?_⟩
      rw [normal_eq_null_iff.1 same.symm]
      exact .same _
  | bool value =>
      refine ⟨fun alike => by cases alike; rfl, fun same => ?_⟩
      cases right <;> simp only [normal, reduceCtorEq, Json.bool.injEq] at same
      rw [same]
      exact .same _
  | number value =>
      refine ⟨fun alike => by cases alike; rfl, fun same => ?_⟩
      cases right <;> simp only [normal, reduceCtorEq, Json.number.injEq] at same
      rw [same]
      exact .same _
  | string value =>
      refine ⟨fun alike => by cases alike; rfl, fun same => ?_⟩
      cases right <;> simp only [normal, reduceCtorEq, Json.string.injEq] at same
      rw [same]
      exact .same _
  | array elements ih =>
      have lists : ∀ others : List Json, List.Forall₂ Alike elements others ↔
          elements.map normal = others.map normal := by
        intro others
        rw [← List.forall₂_eq_eq_eq, List.forall₂_map_left_iff, List.forall₂_map_right_iff]
        exact forall₂_iff_of_mem fun element held _ _ => ih element held
      refine ⟨fun alike => ?_, fun same => ?_⟩
      · cases alike with
        | same => rfl
        | array each =>
            rw [normal, normal, normalElements_eq_map, normalElements_eq_map, (lists _).1 each]
      · cases right <;> simp only [normal, reduceCtorEq, Json.array.injEq] at same
        rw [normalElements_eq_map, normalElements_eq_map] at same
        exact .array ((lists _).2 same)
  | object members ih =>
      have under : ∀ (others : List (String × Json)) (key : String),
          Option.Rel Alike ((object members).member? key) ((object others).member? key) ↔
            ((object members).member? key).map normal =
              ((object others).member? key).map normal := by
        intro others key
        cases held : (object members).member? key with
        | none =>
            cases (object others).member? key with
            | none => simp
            | some other => simp
        | some value =>
            cases (object others).member? key with
            | none => simp
            | some other => simp [ih (key, value) (mem_of_member? held)]
      refine ⟨fun alike => ?_, fun same => ?_⟩
      · cases alike with
        | same => rfl
        | object each => exact (normal_object_eq_iff _ _).2 fun key => (under _ key).1 (each key)
      · cases right with
        | object others =>
            exact .object fun key => (under _ key).2 ((normal_object_eq_iff _ _).1 same key)
        | _ => simp only [normal, reduceCtorEq] at same

/-! ## Alike is to be reordered -/

/-- Where no key is repeated, every member is found. -/
theorem member?_eq_some_iff {members : List (String × Json)}
    (distinct : (members.map Prod.fst).Nodup) {key : String} {value : Json} :
    (object members).member? key = some value ↔ (key, value) ∈ members := by
  refine ⟨mem_of_member?, fun held => ?_⟩
  cases found : (object members).member? key with
  | none =>
      rw [member?_object] at found
      exact absurd (List.mem_reverse.2 held) (not_mem_of_valueAt?_eq_none found value)
  | some other =>
      have same := List.inj_on_of_nodup_map distinct (mem_of_member? found) held rfl
      rw [(Prod.mk.inj same).2]

/-- Where no key is repeated, the order of the members plays no part. -/
theorem member?_of_perm {left right : List (String × Json)}
    (distinct : (left.map Prod.fst).Nodup) (order : left.Perm right) (key : String) :
    (object left).member? key = (object right).member? key := by
  apply Option.ext
  intro value
  rw [member?_eq_some_iff distinct, member?_eq_some_iff ((order.map Prod.fst).nodup_iff.1 distinct),
    order.mem_iff]

/-- Members with the same keys whose values correspond to each other one by one do so under
every key. -/
theorem rel_member? {R : Json → Json → Prop} {left right : List (String × Json)}
    (keys : left.map Prod.fst = right.map Prod.fst)
    (values : List.Forall₂ R (left.map Prod.snd) (right.map Prod.snd)) (key : String) :
    Option.Rel R ((object left).member? key) ((object right).member? key) := by
  have forwards : ∀ {left right : List (String × Json)},
      List.Forall₂ (fun a b => a.1 = b.1 ∧ R a.2 b.2) left right →
        Option.Rel R (valueAt? key left) (valueAt? key right) := by
    intro left right each
    induction each with
    | nil => exact .none
    | @cons a b as bs both _ ih =>
        rw [← Prod.mk.eta (p := a), ← Prod.mk.eta (p := b), valueAt?, valueAt?, ← both.1]
        split
        · exact .some both.2
        · exact ih
  rw [← List.forall₂_eq_eq_eq, List.forall₂_map_left_iff, List.forall₂_map_right_iff] at keys
  rw [List.forall₂_map_left_iff, List.forall₂_map_right_iff] at values
  rw [member?_object, member?_object]
  exact forwards (List.forall₂_reverse_iff.2 (keys.mp (fun _ _ same rel => ⟨same, rel⟩) values))

/-- The members of one object in the order of another one. -/
def arranged (left right : List (String × Json)) : List (String × Json) :=
  right.map fun member => (member.1, ((object left).member? member.1).getD .null)

theorem keys_arranged (left right : List (String × Json)) :
    (arranged left right).map Prod.fst = right.map Prod.fst := by
  rw [arranged, List.map_map]
  rfl

theorem perm_arranged {left right : List (String × Json)}
    (distinct : (left.map Prod.fst).Nodup) (distinct' : (right.map Prod.fst).Nodup)
    (alike : ∀ key, Option.Rel Alike ((object left).member? key) ((object right).member? key)) :
    left.Perm (arranged left right) := by
  refine (List.perm_ext_iff_of_nodup (List.Nodup.of_map _ distinct)
    (List.Nodup.of_map Prod.fst (keys_arranged left right ▸ distinct'))).2 ?_
  rintro ⟨key, value⟩
  have found := alike key
  rw [← member?_eq_some_iff distinct, arranged, List.mem_map]
  constructor
  · intro held
    rw [held] at found
    cases other : (object right).member? key with
    | none =>
        rw [other] at found
        cases found
    | some image =>
        exact ⟨(key, image), mem_of_member? other, by rw [held]; rfl⟩
  · rintro ⟨member, held, same⟩
    obtain ⟨rfl, rfl⟩ := Prod.mk.inj same
    rw [(member?_eq_some_iff distinct').2 held] at found
    cases other : (object left).member? member.1 with
    | none =>
        rw [other] at found
        cases found
    | some value => rfl

/-- Each member in its new place is alike to the one that it was moved to. -/
theorem alike_arranged {left right : List (String × Json)}
    (distinct' : (right.map Prod.fst).Nodup)
    (alike : ∀ key, Option.Rel Alike ((object left).member? key) ((object right).member? key)) :
    List.Forall₂ Alike ((arranged left right).map Prod.snd) (right.map Prod.snd) := by
  rw [arranged, List.map_map, List.forall₂_map_left_iff, List.forall₂_map_right_iff,
    List.forall₂_same]
  intro member held
  have found := alike member.1
  rw [(member?_eq_some_iff distinct').2 held] at found
  show Alike (((object left).member? member.1).getD .null) member.2
  cases other : (object left).member? member.1 with
  | none =>
      rw [other] at found
      cases found
  | some value =>
      rw [other] at found
      cases found with
      | some alike => exact alike

/-- **For values that repeat no key, to be alike is to have the members in another order**, at
every depth. -/
theorem alike_iff_reordered {left right : Json} (distinct : left.KeysDistinct)
    (distinct' : right.KeysDistinct) : left.Alike right ↔ left.Reordered right := by
  induction left using induction_parts generalizing right with
  | null | bool _ | number _ | string _ =>
      refine ⟨fun alike => ?_, fun reordered => ?_⟩
      · cases alike
        exact .same _
      · cases reordered
        exact .same _
  | array elements ih =>
      have each : ∀ others : List Json, (Json.array others).KeysDistinct →
          (List.Forall₂ Alike elements others ↔ List.Forall₂ Reordered elements others) :=
        fun others distinct' => forall₂_iff_of_mem fun element held other held' =>
          ih element held (keysDistinct_array.1 distinct element held)
            (keysDistinct_array.1 distinct' other held')
      refine ⟨fun alike => ?_, fun reordered => ?_⟩
      · cases alike with
        | same => exact .same _
        | array alike => exact .array ((each _ distinct').1 alike)
      · cases reordered with
        | same => exact .same _
        | array reordered => exact .array ((each _ distinct').2 reordered)
  | object members ih =>
      obtain ⟨keys, each⟩ := keysDistinct_object.1 distinct
      have values : ∀ {moved others : List (String × Json)}, members.Perm moved →
          (Json.object others).KeysDistinct →
            (List.Forall₂ Alike (moved.map Prod.snd) (others.map Prod.snd) ↔
              List.Forall₂ Reordered (moved.map Prod.snd) (others.map Prod.snd)) := by
        intro moved others order distinct'
        refine forall₂_iff_of_mem fun value held other held' => ?_
        obtain ⟨member, inMoved, rfl⟩ := List.mem_map.1 held
        obtain ⟨member', inOthers, rfl⟩ := List.mem_map.1 held'
        have before := order.mem_iff.2 inMoved
        exact ih member before (each member before) ((keysDistinct_object.1 distinct').2 _ inOthers)
      refine ⟨fun alike => ?_, fun reordered => ?_⟩
      · cases alike with
        | same => exact .same _
        | object alike =>
            have keys' := (keysDistinct_object.1 distinct').1
            have order := perm_arranged keys keys' alike
            exact .object order (keys_arranged _ _)
              ((values order distinct').1 (alike_arranged keys' alike))
      · cases reordered with
        | same => exact .same _
        | object order sameKeys reordered =>
            have keys' := (keysDistinct_object.1 distinct').1
            refine .object fun key => ?_
            rw [member?_of_perm keys order]
            exact rel_member? sameKeys ((values order distinct').2 reordered) key

end Json

/-- **A signature determines the name and the input.**  Whatever the names hold, two tools
have one signature exactly if they have one name and their inputs are alike; and where no
object of the inputs repeats a key, alike inputs are those whose members stand in another
order, at every depth. -/
theorem toolSignature_eq_iff_reordered (name name' : String) (input input' : Json) :
    (toolSignature name input = toolSignature name' input' ↔
        name = name' ∧ input.Alike input') ∧
      (input.KeysDistinct → input'.KeysDistinct →
        (toolSignature name input = toolSignature name' input' ↔
          name = name' ∧ input.Reordered input')) := by
  have alike : toolSignature name input = toolSignature name' input' ↔
      name = name' ∧ input.Alike input' := by
    rw [toolSignature_eq_iff_normal, Json.alike_iff_normal]
  refine ⟨alike, fun distinct distinct' => ?_⟩
  rw [alike, Json.alike_iff_reordered distinct distinct']

/-- An input with an object inside another one. -/
def nestedInput : Json :=
  .object [("to", .null), ("from", .object [("line", .bool true), ("file", .array [.null])])]

/-- The same input with the members of both objects in the other order. -/
def turnedInput : Json :=
  .object [("from", .object [("file", .array [.null]), ("line", .bool true)]), ("to", .null)]

/-- A name may hold the marks of a text: the signatures are the same for the two inputs, and
two signatures that differ in the place of one quotation mark only are not. -/
theorem toolSignature_eq_iff_reordered_of_nested :
    nestedInput.KeysDistinct ∧ turnedInput.KeysDistinct ∧
      toolSignature "Edit:\x7b" nestedInput = toolSignature "Edit:\x7b" turnedInput ∧
      nestedInput.Reordered turnedInput ∧
      toolSignature "a:\"b" .null ≠ toolSignature "a" (.string "b:null") := by
  have distinct : nestedInput.KeysDistinct := by simp [nestedInput]
  have distinct' : turnedInput.KeysDistinct := by simp [turnedInput]
  have same : toolSignature "Edit:\x7b" nestedInput = toolSignature "Edit:\x7b" turnedInput := by
    decide +kernel
  have reordered := ((toolSignature_eq_iff_reordered _ _ _ _).2 distinct distinct').1 same
  refine ⟨distinct, distinct', same, reordered.2, fun collide => ?_⟩
  have names := ((toolSignature_eq_iff_reordered _ _ _ _).1.1 collide).1
  exact absurd names (by decide)

end SessionSync
