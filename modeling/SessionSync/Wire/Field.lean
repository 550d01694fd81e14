import SessionSync.Json.Reader

/-!
# Reading records

The rules by which JSON values become records, stated once for all records.

A record is an object whose members are its fields, or an array of its fields
in the order of their declaration.  In an object, members that are no field are
passed over, a field may have further names, and a field that is given twice,
under one name or under two, is refused.  In an array the last fields may be
missing and nothing may follow the last field.

A tagged record is an object with one member for its tag, or an array that
starts with the tag.  A plain word may be written as a text or as the key of an
object with nothing in it.
-/

set_option autoImplicit false

namespace SessionSync.Wire

/-- How a value reaches its decoder.  The contents of a tagged record are taken
apart before they are decoded, and two rules are wider there: a tag may be
given by its number, and an empty object stands for nothing. -/
inductive Origin where
  | document
  | envelope
  deriving DecidableEq, Repr

/-- A field's name and the other names it may be given under. -/
structure Field where
  name : String
  others : List String := []
  deriving DecidableEq, Repr

/-- The field that a member's key names, by its first name. -/
def fieldName? (fields : List Field) (key : String) : Option String :=
  (fields.find? fun field => field.name == key || field.others.contains key).map Field.name

/-- The fields a value gives, each at most once, under their first names. -/
structure View where
  given : List (String × Json)

/-- The members of an object that are fields. -/
def knownMembers (fields : List Field) (members : List (String × Json)) : List (String × Json) :=
  members.filterMap fun member => (fieldName? fields member.1).map fun name => (name, member.2)

/-- The fields of a record, from an object or from an array. -/
def view? (fields : List Field) : Json → Option View
  | .object members =>
      let known := knownMembers fields members
      if (known.map Prod.fst).Nodup then some ⟨known⟩ else none
  | .array elements =>
      if elements.length ≤ fields.length then some ⟨(fields.map Field.name).zip elements⟩ else none
  | _ => none

namespace View

/-- The value given for a field. -/
def get? (view : View) (name : String) : Option Json := valueAt? name view.given

/-- A field that has to be given. -/
def required {α : Type} (view : View) (name : String) (decode : Json → Option α) : Option α :=
  (view.get? name).bind decode

/-- A field with a value for when it is not given. -/
def orElse {α : Type} (view : View) (name : String) (default : α) (decode : Json → Option α) :
    Option α :=
  match view.get? name with
  | some value => decode value
  | none => some default

/-- A field that may be missing or `null`. -/
def optional {α : Type} (view : View) (name : String) (decode : Json → Option α) :
    Option (Option α) :=
  match view.get? name with
  | none | some .null => some none
  | some value => (decode value).map some

end View

/-- The names of fields in their order, then their other names, each with the
shape in which the field is wanted: whole, or a shape of its own. -/
def fieldShapes (fields : List Field) (inner : List (String × Json.Shape)) :
    List (String × Json.Shape) :=
  let shape := fun (field : Field) =>
    ((inner.find? fun entry => entry.1 == field.name).map Prod.snd).getD .whole
  fields.map (fun field => (field.name, shape field)) ++
    fields.flatMap fun field => field.others.map fun other => (other, shape field)

/-- What a reader wants of a record: its fields, and nothing of other members. -/
def shapeOf (fields : List Field) (inner : List (String × Json.Shape)) : Json.Shape :=
  .record (fieldShapes fields inner) .nothing

/-- What a reader wants of a record that keeps the members without a field: its
fields, and the other members whole. -/
def openShapeOf (fields : List Field) (inner : List (String × Json.Shape)) : Json.Shape :=
  .record (fieldShapes fields inner) .whole

/-! ## Field values -/

/-- A free value, in normal form. -/
def freeValue (value : Json) : Option Json := some value.normal

/-- An integer in a range. -/
def integerIn (least most : Int) (value : Json) : Option Int := do
  let integer ← value.integer?
  if least ≤ integer ∧ integer ≤ most then some integer else none

/-- A natural number up to a bound. -/
def naturalUpTo (most : Nat) (value : Json) : Option Nat :=
  (integerIn 0 most value).map Int.toNat

/-- Every element of an array. -/
def listOf {α : Type} (decode : Json → Option α) (value : Json) : Option (List α) := do
  (← value.elements?).mapM decode

/-- Every member of an object; a repeated key keeps its last value. -/
def tableOf {α : Type} (decode : Json → Option α) : Json → Option (Table α)
  | .object members => do
      let entries ← members.mapM fun member => do return (member.1, ← decode member.2)
      return Table.ofList entries
  | _ => none

/-- Every member of an object, as a map; a repeated key keeps its last value.
The text gives such a map no order.  This reading walks it from its least key
on, and what is stated of maps is stated for every order. -/
def mapOf {α : Type} (decode : Json → Option α) (value : Json) : Option (WalkedMap α) :=
  (tableOf decode value).map WalkedMap.ofTable

/-- A word, written as a text or as the key of an object that holds nothing
else. -/
def word {α : Type} (origin : Origin) (find : String → Option α) : Json → Option α
  | .string name => find name
  | .object [(name, .null)] => find name
  | .object [(name, .object [])] => if origin = .envelope then find name else none
  | _ => none

/-! ## Tagged records -/

/-- The tag of a tagged record and what is left without it. -/
def splitTag? (tag : String) : Json → Option (Json × Json)
  | .object members =>
      match members.filter fun member => member.1 == tag with
      | [(_, value)] => some (value, .object (members.filter fun member => member.1 != tag))
      | _ => none
  | .array (value :: rest) => some (value, .array rest)
  | _ => none

/-- What a tag says. -/
inductive Tag where
  /-- One of the known names. -/
  | known (name : String)
  /-- Any other name, or a number beyond the known names. -/
  | unknown
  deriving DecidableEq, Repr

/-- Read a tag against the known names. -/
def readTag? (origin : Origin) (names : List String) : Json → Option Tag
  | .string name => some (if names.contains name then .known name else .unknown)
  | .number (.integer (.ofNat index)) =>
      if origin = .envelope then
        some ((names[index]?.map Tag.known).getD .unknown)
      else none
  | _ => none

/-- A tagged record that has no fields: an object may hold anything, an array
nothing more. -/
def emptyContent : Json → Option Unit
  | .object _ => some ()
  | .array [] => some ()
  | _ => none

/-! ## Writing records -/

/-- A member that is always written. -/
def always (name : String) (value : Json) : List (String × Json) := [(name, value)]

/-- A member that is left out when there is no value. -/
def whenSome {α : Type} (name : String) (encode : α → Json) : Option α → List (String × Json)
  | some value => [(name, encode value)]
  | none => []

/-- A member that is left out when the list is empty. -/
def whenFilled {α : Type} (name : String) (encode : α → Json) (values : List α) :
    List (String × Json) :=
  if values.isEmpty then [] else [(name, .array (values.map encode))]

/-- A table as an object. -/
def encodeTable {α : Type} (encode : α → Json) (table : Table α) : Json :=
  .object (table.mapValues fun _ value => encode value).entries

/-- A map as an object, in whatever order it is walked. -/
def encodeMap {α : Type} (encode : α → Json) (map : WalkedMap α) : Json :=
  encodeTable encode map.toTable

/-- The object of some groups of members. -/
def record (groups : List (List (String × Json))) : Json := Json.ofMembers groups.flatten

end SessionSync.Wire
