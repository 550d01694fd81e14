import SessionSync.Number.Decimal
import SessionSync.Table

/-!
# JSON values

A value keeps the kind of its numbers: an integer that fits 64 bits stays an
integer, everything else is a double.  An object is a list of members, so a
document can be held as it was written, with its order and its repetitions;
`Json.normal` gives the value it stands for, in which every object has its keys
in ascending order and a repeated key keeps its last value.
-/

set_option autoImplicit false

namespace SessionSync

/-- A JSON number. -/
inductive Number where
  | integer (value : Int)
  | double (value : Double)
  deriving DecidableEq, Repr

/-- A JSON value as written: the members of an object keep their order. -/
inductive Json where
  | null
  | bool (value : Bool)
  | number (value : Number)
  | string (value : String)
  | array (elements : List Json)
  | object (members : List (String × Json))
  deriving Repr, Inhabited

namespace Json

/-! ## Equality is decidable -/

mutual

/-- Decide whether two values are written alike. -/
def decideEq : (left right : Json) → Decidable (left = right)
  | .null, .null => isTrue rfl
  | .bool a, .bool b =>
      if same : a = b then isTrue (same ▸ rfl) else isFalse (by intro h; cases h; exact same rfl)
  | .number a, .number b =>
      if same : a = b then isTrue (same ▸ rfl) else isFalse (by intro h; cases h; exact same rfl)
  | .string a, .string b =>
      if same : a = b then isTrue (same ▸ rfl) else isFalse (by intro h; cases h; exact same rfl)
  | .array a, .array b =>
      match decideEqElements a b with
      | isTrue same => isTrue (same ▸ rfl)
      | isFalse different => isFalse (by intro h; cases h; exact different rfl)
  | .object a, .object b =>
      match decideEqMembers a b with
      | isTrue same => isTrue (same ▸ rfl)
      | isFalse different => isFalse (by intro h; cases h; exact different rfl)
  | .null, .bool _ | .null, .number _ | .null, .string _ | .null, .array _ | .null, .object _
  | .bool _, .null | .bool _, .number _ | .bool _, .string _ | .bool _, .array _
  | .bool _, .object _
  | .number _, .null | .number _, .bool _ | .number _, .string _ | .number _, .array _
  | .number _, .object _
  | .string _, .null | .string _, .bool _ | .string _, .number _ | .string _, .array _
  | .string _, .object _
  | .array _, .null | .array _, .bool _ | .array _, .number _ | .array _, .string _
  | .array _, .object _
  | .object _, .null | .object _, .bool _ | .object _, .number _ | .object _, .string _
  | .object _, .array _ => isFalse (by intro h; cases h)

/-- Decide equality of the elements of two arrays. -/
def decideEqElements : (left right : List Json) → Decidable (left = right)
  | [], [] => isTrue rfl
  | [], _ :: _ => isFalse (by intro h; cases h)
  | _ :: _, [] => isFalse (by intro h; cases h)
  | a :: as, b :: bs =>
      match decideEq a b, decideEqElements as bs with
      | isTrue head, isTrue tail => isTrue (by subst head; subst tail; rfl)
      | isFalse head, _ => isFalse (by intro h; cases h; exact head rfl)
      | _, isFalse tail => isFalse (by intro h; cases h; exact tail rfl)

/-- Decide equality of the members of two objects. -/
def decideEqMembers : (left right : List (String × Json)) → Decidable (left = right)
  | [], [] => isTrue rfl
  | [], _ :: _ => isFalse (by intro h; cases h)
  | _ :: _, [] => isFalse (by intro h; cases h)
  | (k, a) :: as, (l, b) :: bs =>
      if keys : k = l then
        match decideEq a b, decideEqMembers as bs with
        | isTrue head, isTrue tail => isTrue (by subst keys; subst head; subst tail; rfl)
        | isFalse head, _ => isFalse (by intro h; cases h; exact head rfl)
        | _, isFalse tail => isFalse (by intro h; cases h; exact tail rfl)
      else isFalse (by intro h; cases h; exact keys rfl)

end

instance : DecidableEq Json := decideEq

/-! ## The value a document stands for -/

mutual

/-- Keys in ascending order at every depth; a repeated key keeps its last
value. -/
def normal : Json → Json
  | .array elements => .array (normalElements elements)
  | .object members => .object (normalMembers [] members)
  | .null => .null
  | .bool value => .bool value
  | .number value => .number value
  | .string value => .string value

/-- Every element in normal form. -/
def normalElements : List Json → List Json
  | [] => []
  | element :: rest => element.normal :: normalElements rest

/-- Write members, in normal form, into entries that are already in order. -/
def normalMembers (written : List (String × Json)) : List (String × Json) → List (String × Json)
  | [] => written
  | (key, value) :: rest => normalMembers (insertEntry key value.normal written) rest

end

mutual

/-- The value with both zeros of the doubles written as the positive one. -/
def unsignedZeros : Json → Json
  | .array elements => .array (unsignedZerosElements elements)
  | .object members => .object (unsignedZerosMembers members)
  | .number (.double value) => .number (.double (if value.isZero then Double.zero false else value))
  | .number (.integer value) => .number (.integer value)
  | .null => .null
  | .bool value => .bool value
  | .string value => .string value

/-- Every element with unsigned zeros. -/
def unsignedZerosElements : List Json → List Json
  | [] => []
  | element :: rest => element.unsignedZeros :: unsignedZerosElements rest

/-- Every member's value with unsigned zeros. -/
def unsignedZerosMembers : List (String × Json) → List (String × Json)
  | [] => []
  | (key, value) :: rest => (key, value.unsignedZeros) :: unsignedZerosMembers rest

end

/-- Whether two values are the same when numbers are compared as numbers: the
two zeros of the doubles count as one. -/
def same (left right : Json) : Bool := left.unsignedZeros == right.unsignedZeros

theorem same_refl (value : Json) : value.same value = true := by simp [same]

/-! ## Access -/

/-- The value of an object's member; the last of repeated members counts. -/
def member? (value : Json) (key : String) : Option Json :=
  match value with
  | .object members => (members.reverse.find? fun member => member.1 == key).map Prod.snd
  | _ => none

/-- The text of a string value. -/
def string? : Json → Option String
  | .string value => some value
  | _ => none

/-- The truth value of a boolean. -/
def bool? : Json → Option Bool
  | .bool value => some value
  | _ => none

/-- The value of an integer; a double is none, whole or not. -/
def integer? : Json → Option Int
  | .number (.integer value) => some value
  | _ => none

/-- The elements of an array. -/
def elements? : Json → Option (List Json)
  | .array elements => some elements
  | _ => none

/-- A natural number as a value. -/
def ofNat (value : Nat) : Json := .number (.integer value)

/-- An integer as a value. -/
def ofInt (value : Int) : Json := .number (.integer value)

/-- An object from its members, keys brought into order. -/
def ofMembers (members : List (String × Json)) : Json :=
  .object (members.foldl (fun written member => insertEntry member.1 member.2 written) [])

/-- The value, or `null` where there is none. -/
def ofOption {α : Type} (encode : α → Json) : Option α → Json
  | some value => encode value
  | none => .null

end Json

end SessionSync
