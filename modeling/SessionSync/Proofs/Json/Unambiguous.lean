import SessionSync.Proofs.Json.Colons
import SessionSync.Proofs.Json.NumberText

/-!
# A compact text determines its value

The text of a value shows in its first character of what kind the value is, and it shows where
it ends: a string ends with the first quotation mark that is not escaped, an array or an object
with its own bracket, and a number before the first character that no number holds.  So two
values whose texts stand in front of what may follow a value are equal if the whole texts are
(`Json.chars_inj`).

Two values with one canonical text therefore differ in nothing but the order of object members
and in members that are repeated (`Json.canonical_eq_iff`), and the signatures of two tool uses
are the same only if their names and, apart from that, their inputs are
(`toolSignature_eq_iff_normal`).
-/

set_option autoImplicit false

namespace SessionSync

namespace Json

/-! ## What may follow a value -/

/-- A text that no number goes on with. -/
def Closes (text : List Char) : Prop :=
  ∀ char ∈ text.head?, char.isDigit = false ∧ char ∉ ['-', '+', '.', 'e']

theorem closes_nil : Closes [] := fun _ none => by cases none

theorem closes_cons {mark : Char} (noDigit : mark.isDigit = false)
    (noMark : mark ∉ ['-', '+', '.', 'e']) (rest : List Char) : Closes (mark :: rest) := by
  intro char head
  obtain rfl := Option.some_inj.1 head
  exact ⟨noDigit, noMark⟩

/-- Numbers end where the text closes. -/
theorem numeric_append_inj :
    ∀ {front front' back back' : List Char}, Numeric front → Numeric front' → Closes back →
      Closes back' → front ++ back = front' ++ back' → front = front' ∧ back = back'
  | [], [], _, _, _, _, _, _, same => ⟨rfl, same⟩
  | [], char :: front', back, _, _, numeric, closes, _, same => by
      obtain ⟨noDigit, noMark⟩ := closes char (congrArg List.head? same)
      rcases numeric char List.mem_cons_self with digit | mark
      · rw [digit] at noDigit
        cases noDigit
      · exact absurd mark noMark
  | char :: front, [], _, back', numeric, _, _, closes, same => by
      obtain ⟨noDigit, noMark⟩ := closes char (congrArg List.head? same.symm)
      rcases numeric char List.mem_cons_self with digit | mark
      · rw [digit] at noDigit
        cases noDigit
      · exact absurd mark noMark
  | char :: front, char' :: front', _, _, numeric, numeric', closes, closes', same => by
      obtain ⟨heads, tails⟩ := List.cons.inj same
      obtain ⟨fronts, backs⟩ := numeric_append_inj
        (fun other member => numeric other (List.mem_cons_of_mem _ member))
        (fun other member => numeric' other (List.mem_cons_of_mem _ member)) closes closes' tails
      exact ⟨by rw [heads, fronts], backs⟩

/-! ## Strings -/

/-- The character that stands behind a backslash for itself or for a control. -/
def unmarked : Char → Char
  | 'n' => '\n'
  | 'r' => '\r'
  | 't' => '\t'
  | 'b' => '\x08'
  | 'f' => '\x0c'
  | mark => mark

/-- The three ways to write a character of a string. -/
theorem escaped_cases (char : Char) :
    (escaped char = [char] ∧ char ≠ '\\' ∧ char ≠ '"') ∨
      (∃ mark, escaped char = ['\\', mark] ∧ mark ≠ 'u' ∧ unmarked mark = char) ∨
      (char.toNat < 0x20 ∧ escaped char =
        ['\\', 'u', '0', '0', hexDigit (char.toNat / 16), hexDigit (char.toNat % 16)]) := by
  unfold escaped
  split
  · exact Or.inr (Or.inl ⟨'"', rfl, by decide, rfl⟩)
  · exact Or.inr (Or.inl ⟨'\\', rfl, by decide, rfl⟩)
  · exact Or.inr (Or.inl ⟨'n', rfl, by decide, rfl⟩)
  · exact Or.inr (Or.inl ⟨'r', rfl, by decide, rfl⟩)
  · exact Or.inr (Or.inl ⟨'t', rfl, by decide, rfl⟩)
  · exact Or.inr (Or.inl ⟨'b', rfl, by decide, rfl⟩)
  · exact Or.inr (Or.inl ⟨'f', rfl, by decide, rfl⟩)
  · rename_i noQuote noEscape _ _ _ _ _
    split
    · rename_i control
      exact Or.inr (Or.inr ⟨control, rfl⟩)
    · exact Or.inl ⟨rfl, noEscape, noQuote⟩

theorem hexDigit_inj {left right : Nat} (small : left < 16) (small' : right < 16)
    (same : hexDigit left = hexDigit right) : left = right := by
  have all : ∀ left right : Fin 16, hexDigit left = hexDigit right → left = right := by decide
  exact Fin.mk.inj (all ⟨left, small⟩ ⟨right, small'⟩ same)

/-- One character of a string is read without looking further. -/
theorem escaped_append_inj {char char' : Char} {back back' : List Char}
    (same : escaped char ++ back = escaped char' ++ back') : char = char' ∧ back = back' := by
  rcases escaped_cases char with ⟨plain, noEscape, -⟩ | ⟨mark, short, noCode, means⟩ |
      ⟨control, code⟩ <;>
    rcases escaped_cases char' with ⟨plain', noEscape', -⟩ | ⟨mark', short', noCode', means'⟩ |
      ⟨control', code'⟩
  · simpa [plain, plain'] using same
  · simp [plain, short', noEscape] at same
  · simp [plain, code', noEscape] at same
  · simp [short, plain', noEscape'.symm] at same
  · simp only [short, short', List.cons_append, List.nil_append, List.cons.injEq, true_and]
      at same
    exact ⟨by rw [← means, ← means', same.1], same.2⟩
  · simp [short, code', noCode] at same
  · simp [code, plain', noEscape'.symm] at same
  · simp [code, short', noCode'.symm] at same
  · simp only [code, code', List.cons_append, List.nil_append, List.cons.injEq, true_and] at same
    obtain ⟨highs, lows, backs⟩ := same
    have high := hexDigit_inj (by omega) (by omega) highs
    have low := hexDigit_inj (Nat.mod_lt _ (by decide)) (Nat.mod_lt _ (by decide)) lows
    exact ⟨Char.toNat_inj.1 (by omega), backs⟩

/-- No character of a string is written with a quotation mark in front. -/
theorem escaped_ne_quote (char : Char) (back back' : List Char) :
    escaped char ++ back ≠ '"' :: back' := by
  rcases escaped_cases char with ⟨plain, -, noQuote⟩ | ⟨mark, short, -⟩ | ⟨-, code⟩
  · simp [plain, noQuote]
  · simp [short]
  · simp [code]

theorem escapedChars_append_inj : ∀ {chars chars' back back' : List Char},
    chars.flatMap escaped ++ '"' :: back = chars'.flatMap escaped ++ '"' :: back' →
      chars = chars' ∧ back = back'
  | [], [], _, _, same => ⟨rfl, (List.cons.inj same).2⟩
  | [], char :: chars', _, _, same => by
      rw [List.flatMap_cons, List.append_assoc] at same
      exact absurd same.symm (escaped_ne_quote char _ _)
  | char :: chars, [], _, _, same => by
      rw [List.flatMap_cons, List.append_assoc] at same
      exact absurd same (escaped_ne_quote char _ _)
  | char :: chars, char' :: chars', _, _, same => by
      rw [List.flatMap_cons, List.flatMap_cons, List.append_assoc, List.append_assoc] at same
      obtain ⟨heads, tails⟩ := escaped_append_inj same
      obtain ⟨others, backs⟩ := escapedChars_append_inj tails
      exact ⟨by rw [heads, others], backs⟩

/-- A string ends with its own quotation mark. -/
theorem quoted_append_inj {left right : String} {back back' : List Char}
    (same : quoted left ++ back = quoted right ++ back') : left = right ∧ back = back' := by
  simp only [quoted, List.cons_append, List.append_assoc, List.nil_append] at same
  obtain ⟨chars, backs⟩ := escapedChars_append_inj (List.cons.inj same).2
  exact ⟨String.toList_injective chars, backs⟩

/-! ## Values -/

/-- The kinds of values, with a number for each. -/
def kind : Json → Nat
  | .null => 0
  | .bool true => 1
  | .bool false => 2
  | .number _ => 3
  | .string _ => 4
  | .array _ => 5
  | .object _ => 6

/-- The kind of the values that begin with a character. -/
def kindOf (char : Char) : Nat :=
  if char.isDigit = true ∨ char = '-' then 3
  else if char = 'n' then 0
  else if char = 't' then 1
  else if char = 'f' then 2
  else if char = '"' then 4
  else if char = '[' then 5
  else if char = '\x7b' then 6
  else 7

/-- The first character shows the kind. -/
theorem head_chars (value : Json) :
    ∃ char rest, value.chars = char :: rest ∧ kindOf char = value.kind := by
  cases value with
  | null => exact ⟨'n', _, rfl, rfl⟩
  | bool value => cases value <;> exact ⟨_, _, rfl, rfl⟩
  | number value =>
      obtain ⟨char, rest, shape, begins⟩ := exists_head_numberText value
      exact ⟨char, rest, shape, if_pos begins⟩
  | string value => exact ⟨'"', _, rfl, rfl⟩
  | array elements => exact ⟨'[', _, rfl, rfl⟩
  | object members => exact ⟨'\x7b', _, rfl, rfl⟩

theorem kind_eq_of_chars {left right : Json} {back back' : List Char}
    (same : left.chars ++ back = right.chars ++ back') : left.kind = right.kind := by
  obtain ⟨char, rest, shape, shows⟩ := head_chars left
  obtain ⟨char', rest', shape', shows'⟩ := head_chars right
  rw [shape, shape'] at same
  rw [← shows, ← shows', (List.cons.inj same).1]

/-- No value begins with a closing bracket. -/
theorem chars_append_ne {value : Json} {mark : Char} (unknown : kindOf mark = 7)
    (back back' : List Char) : value.chars ++ back ≠ mark :: back' := by
  obtain ⟨char, rest, shape, shows⟩ := head_chars value
  intro same
  rw [shape] at same
  rw [(List.cons.inj same).1] at shows
  have small : value.kind ≠ 7 := by
    unfold kind
    split <;> decide
  exact small (shows.symm.trans unknown)

/-- What stands behind an element of an array, up to the bracket and what follows it. -/
def behindElement (rest : List Json) (back : List Char) : List Char :=
  match rest with
  | [] => ']' :: back
  | next :: more => ',' :: (elementChars (next :: more) ++ ']' :: back)

theorem elementChars_cons (element : Json) (rest : List Json) (back : List Char) :
    elementChars (element :: rest) ++ ']' :: back = element.chars ++ behindElement rest back := by
  cases rest <;> simp [elementChars, behindElement]

theorem closes_behindElement (rest : List Json) (back : List Char) :
    Closes (behindElement rest back) := by
  cases rest with
  | nil => exact closes_cons rfl (by decide) _
  | cons next more => exact closes_cons rfl (by decide) _

/-- What stands behind a member of an object, up to the brace and what follows it. -/
def behindMember (rest : List (String × Json)) (back : List Char) : List Char :=
  match rest with
  | [] => '\x7d' :: back
  | next :: more => ',' :: (memberChars (next :: more) ++ '\x7d' :: back)

theorem memberChars_cons (key : String) (value : Json) (rest : List (String × Json))
    (back : List Char) :
    memberChars ((key, value) :: rest) ++ '\x7d' :: back =
      quoted key ++ ':' :: (value.chars ++ behindMember rest back) := by
  cases rest <;> simp [memberChars, behindMember]

theorem closes_behindMember (rest : List (String × Json)) (back : List Char) :
    Closes (behindMember rest back) := by
  cases rest with
  | nil => exact closes_cons rfl (by decide) _
  | cons next more => exact closes_cons rfl (by decide) _

theorem quoted_append_ne {text : String} {mark : Char} (noQuote : mark ≠ '"')
    (back back' : List Char) : quoted text ++ back ≠ mark :: back' := fun same =>
  noQuote (List.cons.inj same).1.symm

mutual

/-- **A value's text shows the value and where it ends.** -/
theorem chars_inj : ∀ (left right : Json) {back back' : List Char}, Closes back → Closes back' →
    left.chars ++ back = right.chars ++ back' → left = right ∧ back = back'
  | .null, right, back, back', _, _, same => by
      have kinds := kind_eq_of_chars same
      cases right with
      | null => exact ⟨rfl, List.append_cancel_left same⟩
      | bool value => cases value <;> cases kinds
      | _ => cases kinds
  | .bool value, right, back, back', _, _, same => by
      have kinds := kind_eq_of_chars same
      cases right with
      | bool value' =>
          cases value <;> cases value'
          · exact ⟨rfl, List.append_cancel_left same⟩
          · cases kinds
          · cases kinds
          · exact ⟨rfl, List.append_cancel_left same⟩
      | _ => cases value <;> cases kinds
  | .number value, right, back, back', closes, closes', same => by
      have kinds := kind_eq_of_chars same
      cases right with
      | number value' =>
          obtain ⟨texts, backs⟩ := numeric_append_inj (numeric_numberText value)
            (numeric_numberText value') closes closes' same
          exact ⟨by rw [numberText_injective texts], backs⟩
      | bool value => cases value <;> cases kinds
      | _ => cases kinds
  | .string value, right, back, back', _, _, same => by
      have kinds := kind_eq_of_chars same
      cases right with
      | string value' =>
          obtain ⟨texts, backs⟩ := quoted_append_inj same
          exact ⟨by rw [texts], backs⟩
      | bool value => cases value <;> cases kinds
      | _ => cases kinds
  | .array elements, right, back, back', _, _, same => by
      have kinds := kind_eq_of_chars same
      cases right with
      | array elements' =>
          simp only [chars, List.cons_append, List.append_assoc, List.nil_append] at same
          obtain ⟨lists, backs⟩ := elementChars_inj elements elements' (List.cons.inj same).2
          exact ⟨by rw [lists], backs⟩
      | bool value => cases value <;> cases kinds
      | _ => cases kinds
  | .object members, right, back, back', _, _, same => by
      have kinds := kind_eq_of_chars same
      cases right with
      | object members' =>
          simp only [chars, List.cons_append, List.append_assoc, List.nil_append] at same
          obtain ⟨lists, backs⟩ := memberChars_inj members members' (List.cons.inj same).2
          exact ⟨by rw [lists], backs⟩
      | bool value => cases value <;> cases kinds
      | _ => cases kinds

theorem elementChars_inj : ∀ (left right : List Json) {back back' : List Char},
    elementChars left ++ ']' :: back = elementChars right ++ ']' :: back' →
      left = right ∧ back = back'
  | [], [], _, _, same => ⟨rfl, (List.cons.inj same).2⟩
  | [], element :: rest, _, _, same => by
      rw [elementChars_cons] at same
      exact absurd same.symm (chars_append_ne rfl _ _)
  | element :: rest, [], _, _, same => by
      rw [elementChars_cons] at same
      exact absurd same (chars_append_ne rfl _ _)
  | element :: rest, element' :: rest', back, back', same => by
      rw [elementChars_cons, elementChars_cons] at same
      obtain ⟨heads, tails⟩ := chars_inj element element' (closes_behindElement rest back)
        (closes_behindElement rest' back') same
      cases rest with
      | nil =>
          cases rest' with
          | nil => exact ⟨by rw [heads], (List.cons.inj tails).2⟩
          | cons next' more' => cases tails
      | cons next more =>
          cases rest' with
          | nil => cases tails
          | cons next' more' =>
              obtain ⟨others, backs⟩ :=
                elementChars_inj (next :: more) (next' :: more') (List.cons.inj tails).2
              exact ⟨by rw [heads, others], backs⟩

theorem memberChars_inj : ∀ (left right : List (String × Json)) {back back' : List Char},
    memberChars left ++ '\x7d' :: back = memberChars right ++ '\x7d' :: back' →
      left = right ∧ back = back'
  | [], [], _, _, same => ⟨rfl, (List.cons.inj same).2⟩
  | [], (key, value) :: rest, _, _, same => by
      rw [memberChars_cons] at same
      exact absurd same.symm (quoted_append_ne (by decide) _ _)
  | (key, value) :: rest, [], _, _, same => by
      rw [memberChars_cons] at same
      exact absurd same (quoted_append_ne (by decide) _ _)
  | (key, value) :: rest, (key', value') :: rest', back, back', same => by
      rw [memberChars_cons, memberChars_cons] at same
      obtain ⟨keys, values⟩ := quoted_append_inj same
      obtain ⟨heads, tails⟩ := chars_inj value value' (closes_behindMember rest back)
        (closes_behindMember rest' back') (List.cons.inj values).2
      cases rest with
      | nil =>
          cases rest' with
          | nil => exact ⟨by rw [keys, heads], (List.cons.inj tails).2⟩
          | cons next' more' => cases tails
      | cons next more =>
          cases rest' with
          | nil => cases tails
          | cons next' more' =>
              obtain ⟨others, backs⟩ :=
                memberChars_inj (next :: more) (next' :: more') (List.cons.inj tails).2
              exact ⟨by rw [keys, heads, others], backs⟩

end

/-- **The compact text determines the value.** -/
theorem chars_injective {left right : Json} (same : left.chars = right.chars) : left = right :=
  (chars_inj left right closes_nil closes_nil (by rw [same])).1

/-- Two values have one canonical text if and only if they are the same apart from the order of
object members. -/
theorem canonical_eq_iff {left right : Json} :
    left.canonical = right.canonical ↔ left.normal = right.normal :=
  ⟨fun same => chars_injective (String.ofList_injective same), fun same => by
    rw [canonical, canonical, same]⟩

end Json

/-- **A signature determines the name and, apart from the order of object members, the input.** -/
theorem toolSignature_eq_iff_normal {name name' : String} {input input' : Json} :
    toolSignature name input = toolSignature name' input' ↔
      name = name' ∧ input.normal = input'.normal := by
  rw [toolSignature_eq_iff, Json.canonical_eq_iff]

end SessionSync
