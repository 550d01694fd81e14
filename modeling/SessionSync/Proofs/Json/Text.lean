import SessionSync.Tool.Signature

/-!
# Which values a compact text can be of

A number is written with digits, signs, the point and the mark of the exponent only
(`numeric_numberText`), and every other kind of value begins with a character of its
own.  So `null` is the only value whose text is that word (`eq_null_of_canonical`).
-/

set_option autoImplicit false

namespace SessionSync

namespace Json

/-! ## Numbers -/

/-- A text of digits, signs, points and exponent marks. -/
def Numeric (text : List Char) : Prop :=
  ∀ char ∈ text, char.isDigit = true ∨ char ∈ ['-', '+', '.', 'e']

theorem numeric_digits (value : Nat) : Numeric (Nat.toDigits 10 value) := fun _ member =>
  Or.inl (Nat.isDigit_of_mem_toDigits (by decide) (by decide) member)

namespace Numeric

variable {left right text : List Char}

theorem append (first : Numeric left) (second : Numeric right) : Numeric (left ++ right) := by
  intro char member
  rcases List.mem_append.1 member with member | member
  · exact first char member
  · exact second char member

/-- A sign, a point or an exponent mark in front. -/
theorem cons_mark {mark : Char} (marks : mark ∈ ['-', '+', '.', 'e']) (rest : Numeric text) :
    Numeric (mark :: text) := by
  intro char member
  rcases List.mem_cons.1 member with rfl | member
  · exact Or.inr marks
  · exact rest char member

theorem of_sublist (whole : Numeric right) (part : left.Sublist right) : Numeric left :=
  fun char member => whole char (part.subset member)

end Numeric

theorem numeric_zeros (count : Nat) : Numeric (List.replicate count '0') := fun _ member =>
  Or.inl ((List.eq_of_mem_replicate member) ▸ by decide)

theorem numeric_exponentText (exponent : Int) :
    Numeric (DoubleLayout.exponentText exponent) := by
  unfold DoubleLayout.exponentText
  split
  · exact (numeric_digits _).cons_mark (by decide)
  · exact (numeric_digits _).cons_mark (by decide)

theorem numeric_decimalText (layout : DoubleLayout) (value : Decimal) :
    Numeric (layout.decimalText value) := by
  unfold DoubleLayout.decimalText
  extract_lets digits point mark
  have written : Numeric digits := numeric_digits value.digits
  have marked : Numeric mark := (numeric_exponentText _).cons_mark (by decide)
  split
  · split
    · exact (numeric_zeros 1).append (((numeric_zeros _).append written).cons_mark (by decide))
    · split
      · exact (written.append (numeric_zeros _)).append
          ((numeric_zeros 1).cons_mark (by decide))
      · exact (written.of_sublist (List.take_sublist _ _)).append
          ((written.of_sublist (List.drop_sublist _ _)).cons_mark (by decide))
  · clear_value mark point digits
    cases digits with
    | nil => exact marked
    | cons digit rest =>
        have first : Numeric [digit] := written.of_sublist (List.sublist_append_left [digit] rest)
        have others : Numeric rest := written.of_sublist (List.sublist_append_right [digit] rest)
        cases rest with
        | nil => exact first.append marked
        | cons second rest => exact first.append ((others.append marked).cons_mark (by decide))

/-- **A number's text holds number characters only.** -/
theorem numeric_numberText (value : Number) : Numeric (numberText value) := by
  cases value with
  | integer value =>
      show Numeric (integerText value)
      unfold integerText
      split
      · exact (numeric_digits _).cons_mark (by decide)
      · exact numeric_digits _
  | double value =>
      show Numeric (doubleLayout.text value)
      unfold DoubleLayout.text
      extract_lets magnitude
      have written : Numeric magnitude := by
        unfold magnitude
        split
        · exact (numeric_zeros 1).append ((numeric_zeros 1).cons_mark (by decide))
        · exact numeric_decimalText _ _
      split
      · exact written.cons_mark (by decide)
      · exact written

/-! ## The word for no value -/

/-- Only `null` is written as that word. -/
theorem eq_null_of_chars {value : Json} (written : value.chars = ['n', 'u', 'l', 'l']) :
    value = .null := by
  cases value with
  | null => rfl
  | bool value => cases value <;> simp [chars] at written
  | number value =>
      have digits : numberText value = ['n', 'u', 'l', 'l'] := written
      have member : 'n' ∈ numberText value := digits ▸ List.mem_cons_self
      exact absurd (numeric_numberText value 'n' member) (by decide)
  | string value => simp [chars, quoted] at written
  | array elements => simp [chars] at written
  | object members => simp [chars] at written

theorem eq_null_of_canonical {value : Json} (written : value.canonical = "null") :
    value = .null := by
  have chars : value.normal.chars = ['n', 'u', 'l', 'l'] := String.ofList_injective written
  have normal := eq_null_of_chars chars
  cases value with
  | null => rfl
  | bool value => cases normal
  | number value => cases normal
  | string value => cases normal
  | array elements => cases normal
  | object members => cases normal

end Json

end SessionSync
