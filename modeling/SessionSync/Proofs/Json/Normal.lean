import SessionSync.Json.Basic

/-!
# Normal form

A value in normal form stays as it is when it is brought into normal form again
(`Json.normal_normal`): its members stand in the order of their keys, so they are written one
behind the other.
-/

set_option autoImplicit false

namespace SessionSync

/-- An entry whose key comes behind all others is written behind them. -/
theorem insertEntry_of_last {α : Type} {key : String} (value : α) :
    ∀ {entries : List (String × α)}, (∀ entry ∈ entries, entry.1 < key) →
      insertEntry key value entries = entries ++ [(key, value)]
  | [], _ => rfl
  | (other, held) :: rest, last => by
      have before : other < key := last _ List.mem_cons_self
      have later : ¬ key < other := String.lt_asymm before
      have different : key ≠ other := fun same => String.lt_irrefl key (same ▸ before)
      simp only [insertEntry, if_neg later, if_neg different, List.cons_append]
      rw [insertEntry_of_last value fun entry member => last entry (List.mem_cons_of_mem _ member)]

namespace Json

/-- Members in normal form, in the order of their keys. -/
structure InOrder (members : List (String × Json)) : Prop where
  ordered : KeyOrdered members
  values : ∀ member ∈ members, member.2.normal = member.2

theorem InOrder.insert {members : List (String × Json)} (inOrder : InOrder members)
    (key : String) {value : Json} (normal : value.normal = value) :
    InOrder (insertEntry key value members) := by
  refine ⟨keyOrdered_insertEntry key value inOrder.ordered, fun member written => ?_⟩
  rcases mem_insertEntry written with rfl | held
  · exact normal
  · exact inOrder.values member held

/-- Members in order are written one behind the other. -/
theorem normalMembers_of_inOrder :
    ∀ {written members : List (String × Json)}, InOrder (written ++ members) →
      normalMembers written members = written ++ members
  | written, [], _ => by simp [normalMembers]
  | written, (key, value) :: rest, inOrder => by
      have last : ∀ entry ∈ written, entry.1 < key := fun entry held =>
        (List.pairwise_append.1 inOrder.ordered).2.2 entry held _ List.mem_cons_self
      have normal : value.normal = value := inOrder.values (key, value) (by simp)
      rw [normalMembers, normal, insertEntry_of_last value last,
        normalMembers_of_inOrder (by simpa using inOrder)]
      simp

mutual

/-- **Normal form is stable.** -/
theorem normal_normal : ∀ value : Json, value.normal.normal = value.normal
  | .null | .bool _ | .number _ | .string _ => by simp [normal]
  | .array elements => by rw [normal, normal, normalElements_normalElements elements]
  | .object members => by
      have inOrder := inOrder_normalMembers members ⟨List.Pairwise.nil, by simp⟩
      rw [normal, normal, normalMembers_of_inOrder (by simpa using inOrder), List.nil_append]

theorem normalElements_normalElements :
    ∀ elements : List Json, normalElements (normalElements elements) = normalElements elements
  | [] => rfl
  | element :: rest => by
      rw [normalElements, normalElements, normal_normal element,
        normalElements_normalElements rest]

/-- Members are brought into order one by one. -/
theorem inOrder_normalMembers : ∀ (members : List (String × Json))
    {written : List (String × Json)}, InOrder written → InOrder (normalMembers written members)
  | [], _, inOrder => inOrder
  | (key, value) :: rest, _, inOrder =>
      inOrder_normalMembers rest (inOrder.insert key (normal_normal value))

end

/-- Of repeated members the last is looked up. -/
theorem member?_object (members : List (String × Json)) (key : String) :
    (Json.object members).member? key = valueAt? key members.reverse := by
  have found : ∀ entries : List (String × Json),
      (entries.find? fun member => member.1 == key).map Prod.snd = valueAt? key entries := by
    intro entries
    induction entries with
    | nil => rfl
    | cons member rest ih =>
        by_cases here : member.1 = key
        · simp [valueAt?, here]
        · simp [valueAt?, here, Ne.symm here, ih]
  exact found members.reverse

/-- A value that normal form leaves as it is. -/
def IsNormal (value : Json) : Prop := value.normal = value

theorem isNormal_null : IsNormal .null := rfl

theorem normal_eq_null_iff {value : Json} : value.normal = .null ↔ value = .null := by
  cases value <;> simp [normal]

end Json

end SessionSync
