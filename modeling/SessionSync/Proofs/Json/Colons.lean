import Mathlib.Tactic.SplitIfs
import SessionSync.Proofs.Json.Text

/-!
# Where the colons of a compact text stand

A compact text can be read from its front with a small state: whether the last character
was an escaping backslash, whether the place is inside a string, and how many brackets are
open.  A whole value leaves this state as it was, and a colon between strings only stands
inside a bracket (`reads_chars`).

So no compact text is what remains of another one behind a colon (`chars_ne_append_colon`):
behind a colon inside a string the rest would end inside a string, and behind one between
strings it would leave a bracket open.  A signature is a
name, a colon and a compact text, and names may hold colons, too; but only one of its
colons has a compact text behind it, so a signature determines both parts
(`toolSignature_eq_iff`).
-/

set_option autoImplicit false

namespace SessionSync

namespace Json

/-! ## Reading a text from its front -/

/-- A place in a text: behind an escaping backslash, inside a string, and inside how many
brackets. -/
structure Place where
  escaped : Bool
  inString : Bool
  depth : Nat

namespace Place

/-- The place behind the next character.  A colon outside of strings and brackets leads
nowhere. -/
def next (place : Place) (char : Char) : Option Place :=
  if char = ':' ∧ place.inString = false ∧ place.depth = 0 then none
  else if place.escaped then some { place with escaped := false }
  else if char = '\\' then some { place with escaped := true }
  else if char = '"' then some { place with inString := !place.inString }
  else if place.inString then some place
  else if char = '[' ∨ char = '\x7b' then some { place with depth := place.depth + 1 }
  else if char = ']' ∨ char = '\x7d' then some { place with depth := place.depth - 1 }
  else some place

/-- The place behind a text. -/
def read (place : Place) (text : List Char) : Option Place := text.foldlM next place

theorem read_cons (place : Place) (char : Char) (rest : List Char) :
    place.read (char :: rest) = (place.next char).bind fun place => place.read rest :=
  List.foldlM_cons

theorem read_append (place : Place) (front back : List Char) :
    place.read (front ++ back) = (place.read front).bind fun place => place.read back :=
  List.foldlM_append

theorem read_append_of {place middle : Place} {front : List Char}
    (first : place.read front = some middle) (back : List Char) :
    place.read (front ++ back) = middle.read back := by
  rw [read_append, first]
  rfl

theorem read_cons_of {place middle : Place} {char : Char} (first : place.next char = some middle)
    (rest : List Char) : place.read (char :: rest) = middle.read rest := by
  rw [read_cons, first]
  rfl

/-- Whether a place is escaped or in a string does not depend on the brackets. -/
theorem next_eq_some {place after : Place} {char : Char} (leads : place.next char = some after) :
    after.escaped = (!place.escaped && char == '\\') ∧
      after.inString = (place.inString ^^ (!place.escaped && char == '"')) := by
  unfold next at leads
  split_ifs at leads <;> cases leads <;> simp_all

/-- Behind a colon. -/
theorem next_colon {place after : Place} (leads : place.next ':' = some after) :
    after.escaped = false ∧ (after.inString = false → after.depth ≠ 0) := by
  refine ⟨by simpa using (next_eq_some leads).1, fun outside top => ?_⟩
  have same : after.inString = place.inString := by simpa using (next_eq_some leads).2
  unfold next at leads
  split_ifs at leads with blocked <;> cases leads <;> simp_all

/-- Two readings of one text of which one is inside a string and the other is not go on
so. -/
theorem inString_read {text : List Char} {inside outside inside' outside' : Place}
    (first : inside.read text = some inside') (second : outside.read text = some outside')
    (escapes : inside.escaped = outside.escaped) (opposed : inside.inString = !outside.inString) :
    inside'.inString = !outside'.inString := by
  induction text generalizing inside outside with
  | nil =>
      cases first
      cases second
      exact opposed
  | cons char rest ih =>
      rw [read_cons] at first second
      obtain ⟨one, oneLeads, oneRest⟩ := Option.bind_eq_some_iff.1 first
      obtain ⟨two, twoLeads, twoRest⟩ := Option.bind_eq_some_iff.1 second
      obtain ⟨oneEscaped, oneString⟩ := next_eq_some oneLeads
      obtain ⟨twoEscaped, twoString⟩ := next_eq_some twoLeads
      refine ih oneRest twoRest ?_ ?_
      · rw [oneEscaped, twoEscaped, escapes]
      · rw [oneString, twoString, escapes, opposed, Bool.not_xor]

end Place

/-! ## Texts that are read without a trace -/

/-- A text that, read between strings with enough brackets open, leads back to its own
place. -/
def Reads (least : Nat) (text : List Char) : Prop :=
  ∀ depth, least ≤ depth →
    Place.read ⟨false, false, depth⟩ text = some ⟨false, false, depth⟩

namespace Reads

variable {least : Nat} {front back text : List Char}

theorem append (first : Reads least front) (second : Reads least back) :
    Reads least (front ++ back) := fun depth enough =>
  (Place.read_append_of (first depth enough) back).trans (second depth enough)

theorem weaken (reads : Reads 0 text) (least : Nat) : Reads least text := fun depth _ =>
  reads depth (Nat.zero_le depth)

theorem cons {char : Char} (stays : ∀ depth, least ≤ depth →
    Place.next ⟨false, false, depth⟩ char = some ⟨false, false, depth⟩)
    (rest : Reads least text) : Reads least (char :: text) := fun depth enough =>
  (Place.read_cons_of (stays depth enough) text).trans (rest depth enough)

/-- A colon is read inside a bracket. -/
theorem cons_colon (rest : Reads 1 text) : Reads 1 (':' :: text) := by
  refine cons (fun depth enough => ?_) rest
  have inside : depth ≠ 0 := Nat.ne_of_gt enough
  simp [Place.next, inside]

theorem cons_comma (rest : Reads least text) : Reads least (',' :: text) :=
  cons (fun depth _ => by simp [Place.next]) rest

/-- Brackets around a text leave one less to be open. -/
theorem bracketed {opening closing : Char} (opens : opening = '[' ∨ opening = '\x7b')
    (closes : closing = ']' ∨ closing = '\x7d') (inner : Reads 1 text) :
    Reads 0 (opening :: text ++ [closing]) := by
  intro depth _
  have first : Place.next ⟨false, false, depth⟩ opening = some ⟨false, false, depth + 1⟩ := by
    rcases opens with rfl | rfl <;> simp [Place.next]
  have last : Place.next ⟨false, false, depth + 1⟩ closing = some ⟨false, false, depth⟩ := by
    rcases closes with rfl | rfl <;> simp [Place.next]
  rw [List.cons_append, Place.read_cons_of first,
    Place.read_append_of (inner (depth + 1) (Nat.le_add_left 1 depth)), Place.read_cons_of last]
  rfl

end Reads

theorem reads_nil (least : Nat) : Reads least [] := fun _ _ => rfl

theorem reads_of_numeric {text : List Char} (numeric : Numeric text) : Reads 0 text := by
  induction text with
  | nil => exact reads_nil 0
  | cons char rest ih =>
      refine Reads.cons (fun depth _ => ?_) (ih fun other member =>
        numeric other (List.mem_cons_of_mem _ member))
      have plain : ∀ mark ∈ ['\\', '"', '[', '\x7b', ']', '\x7d', ':'], char ≠ mark := by
        rintro mark marks rfl
        rcases numeric char List.mem_cons_self with digit | sign
        · revert digit
          simp only [List.mem_cons, List.not_mem_nil, or_false] at marks
          rcases marks with rfl | rfl | rfl | rfl | rfl | rfl | rfl <;> decide
        · simp only [List.mem_cons, List.not_mem_nil, or_false] at marks sign
          rcases marks with rfl | rfl | rfl | rfl | rfl | rfl | rfl <;> revert sign <;> decide
      simp only [List.mem_cons, List.not_mem_nil, or_false, forall_eq_or_imp, forall_eq] at plain
      simp [Place.next, plain]

/-! ## Strings -/

/-- A hexadecimal digit is neither of the two characters that a string treats apart. -/
theorem hexDigit_plain (value : Nat) (small : value < 16) :
    hexDigit value ≠ '\\' ∧ hexDigit value ≠ '"' := by
  have all : ∀ value : Fin 16, hexDigit value.1 ≠ '\\' ∧ hexDigit value.1 ≠ '"' := by decide
  exact all ⟨value, small⟩

/-- Inside a string, the characters that stand for one character lead back to their own
place. -/
theorem read_escaped (char : Char) (depth : Nat) :
    Place.read ⟨false, true, depth⟩ (escaped char) = some ⟨false, true, depth⟩ := by
  have plain : ∀ {char : Char}, char ≠ '\\' → char ≠ '"' →
      Place.next ⟨false, true, depth⟩ char = some ⟨false, true, depth⟩ := by
    intro char noEscape noQuote
    simp [Place.next, noEscape, noQuote]
  have pair : ∀ char : Char,
      Place.read ⟨false, true, depth⟩ ['\\', char] = some ⟨false, true, depth⟩ := by
    intro char
    simp [Place.read, Place.next]
  unfold escaped
  split
  · exact pair _
  · exact pair _
  · exact pair _
  · exact pair _
  · exact pair _
  · exact pair _
  · exact pair _
  · rename_i noQuote noEscape _ _ _ _ _
    split
    · rename_i control
      have high := hexDigit_plain (char.toNat / 16) (by omega)
      have low := hexDigit_plain (char.toNat % 16) (Nat.mod_lt _ (by decide))
      have front := pair 'u'
      refine (Place.read_append_of front _).trans ?_
      rw [Place.read_cons_of (plain (by decide) (by decide)),
        Place.read_cons_of (plain (by decide) (by decide)),
        Place.read_cons_of (plain high.1 high.2), Place.read_cons_of (plain low.1 low.2)]
      rfl
    · rw [Place.read_cons_of (plain noEscape noQuote)]
      rfl

theorem reads_quoted (text : String) : Reads 0 (quoted text) := by
  intro depth _
  have body : ∀ chars : List Char, Place.read ⟨false, true, depth⟩ (chars.flatMap escaped) =
      some ⟨false, true, depth⟩ := by
    intro chars
    induction chars with
    | nil => rfl
    | cons char rest ih =>
        rw [List.flatMap_cons, Place.read_append_of (read_escaped char depth), ih]
  have opens : Place.next ⟨false, false, depth⟩ '"' = some ⟨false, true, depth⟩ := rfl
  unfold quoted
  rw [List.cons_append, Place.read_cons_of opens, Place.read_append_of (body text.toList)]
  rfl

/-! ## Values -/

mutual

/-- **A whole value is read without a trace**, wherever it stands between strings. -/
theorem reads_chars : ∀ value : Json, Reads 0 value.chars
  | .null => fun _ _ => by simp [chars, Place.read, Place.next]
  | .bool true => fun _ _ => by simp [chars, Place.read, Place.next]
  | .bool false => fun _ _ => by simp [chars, Place.read, Place.next]
  | .number value => reads_of_numeric (numeric_numberText value)
  | .string value => reads_quoted value
  | .array elements => (reads_elementChars elements).weaken 1 |>.bracketed (.inl rfl) (.inl rfl)
  | .object members => (reads_memberChars members).bracketed (.inr rfl) (.inr rfl)

theorem reads_elementChars : ∀ elements : List Json, Reads 0 (elementChars elements)
  | [] => reads_nil 0
  | [element] => reads_chars element
  | element :: next :: rest =>
      (reads_chars element).append (reads_elementChars (next :: rest)).cons_comma

/-- The colons of members stand inside the brackets of their object. -/
theorem reads_memberChars : ∀ members : List (String × Json), Reads 1 (memberChars members)
  | [] => reads_nil 1
  | [(key, value)] =>
      ((reads_quoted key).weaken 1).append ((reads_chars value).weaken 1).cons_colon
  | (key, value) :: next :: rest =>
      (((reads_quoted key).weaken 1).append ((reads_chars value).weaken 1).cons_colon).append
        (reads_memberChars (next :: rest)).cons_comma

end

/-- **Behind a colon of a compact text no other one begins** that would end with it. -/
theorem chars_ne_append_colon (front : List Char) (value other : Json) :
    other.chars ≠ front ++ ':' :: value.chars := by
  intro same
  have whole := reads_chars other 0 (Nat.le_refl 0)
  rw [same, Place.read_append] at whole
  obtain ⟨before, -, rest⟩ := Option.bind_eq_some_iff.1 whole
  rw [Place.read_cons] at rest
  obtain ⟨⟨escaped, inString, depth⟩, colon, back⟩ := Option.bind_eq_some_iff.1 rest
  obtain ⟨unescaped, inside⟩ := Place.next_colon colon
  dsimp only at unescaped inside
  subst unescaped
  cases inString with
  | false =>
      -- The rest leaves a bracket open that the whole text does not.
      rw [reads_chars value depth (Nat.zero_le depth)] at back
      cases back
      exact inside rfl rfl
  | true =>
      -- The rest ends inside a string, as it began.
      have outside := reads_chars value 0 (Nat.le_refl 0)
      cases Place.inString_read back outside rfl rfl

end Json

/-! ## Signatures -/

/-- **A signature determines the name and the text of the input.** -/
theorem toolSignature_eq_iff {name name' : String} {input input' : Json} :
    toolSignature name input = toolSignature name' input' ↔
      name = name' ∧ input.canonical = input'.canonical := by
  refine ⟨fun same => ?_, fun ⟨names, inputs⟩ => by rw [toolSignature, toolSignature, names, inputs]⟩
  have written : name.toList ++ ':' :: input.normal.chars =
      name'.toList ++ ':' :: input'.normal.chars := by
    have lists := congrArg String.toList same
    simpa [toolSignature, Json.canonical, Json.compact] using lists
  have unequal : ∀ {longer shorter between : List Char} {value other : Json},
      longer = shorter ++ between → ':' :: other.chars = between ++ ':' :: value.chars →
        longer = shorter ∧ other.chars = value.chars := by
    intro longer shorter between value other split rest
    cases between with
    | nil =>
        rw [List.append_nil] at split
        exact ⟨split, List.cons.inj rest |>.2⟩
    | cons first between =>
        rw [List.cons_append] at rest
        exact absurd (List.cons.inj rest).2 (Json.chars_ne_append_colon _ _ _)
  rcases List.append_eq_append_iff.1 written with ⟨between, names, rest⟩ | ⟨between, names, rest⟩
  · obtain ⟨names, texts⟩ := unequal names rest
    exact ⟨String.toList_injective names.symm, congrArg String.ofList texts⟩
  · obtain ⟨names, texts⟩ := unequal names rest
    exact ⟨String.toList_injective names, congrArg String.ofList texts.symm⟩

/-- **The nameless tool.**  Only the tool use without a name and without an input has
the signature that a result gives to a call that it creates. -/
theorem eq_of_toolSignature_nameless {name : String} {input : Json}
    (same : toolSignature name input = toolSignature "" .null) : name = "" ∧ input = .null := by
  obtain ⟨named, written⟩ := toolSignature_eq_iff.1 same
  exact ⟨named, Json.eq_null_of_canonical (written.trans (by decide +kernel))⟩

end SessionSync
