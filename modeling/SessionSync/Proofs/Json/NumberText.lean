import SessionSync.Json.Printer
import SessionSync.Proofs.Number.Shortest

/-!
# The text of a number determines it

A decimal is written in one of two shapes: with a point between digits, or with an exponent
(`DoubleLayout.Written`).  Only the second one has an exponent mark, so the text shows its
shape, and from either shape the number can be read off (`DoubleLayout.value_of_decimalText`).
A double is determined by its sign and the number that is written for it, and an integer has
neither a point nor a mark.  So no two numbers are written alike (`Json.numberText_injective`).
-/

set_option autoImplicit false

namespace SessionSync

/-! ## Digits and marks -/

/-- A text of digits. -/
def Digits (text : List Char) : Prop := ∀ char ∈ text, char.isDigit = true

theorem digits_toDigits (value : Nat) : Digits (Nat.toDigits 10 value) := fun _ member =>
  Nat.isDigit_of_mem_toDigits (by decide) (by decide) member

theorem digits_zeros (count : Nat) : Digits (List.replicate count '0') := fun _ member =>
  List.eq_of_mem_replicate member ▸ rfl

theorem Digits.append {left right : List Char} (first : Digits left) (second : Digits right) :
    Digits (left ++ right) := by
  intro char member
  rcases List.mem_append.1 member with member | member
  · exact first char member
  · exact second char member

/-- Digits are no marks. -/
theorem Digits.not_mem {text : List Char} (digits : Digits text) {mark : Char}
    (marks : mark.isDigit = false) : mark ∉ text := fun member => by
  rw [digits mark member] at marks
  cases marks

theorem toDigits_injective {left right : Nat}
    (same : Nat.toDigits 10 left = Nat.toDigits 10 right) : left = right := by
  have read := congrArg (fun digits => Nat.ofDigitChars 10 digits 0) same
  simpa using read

/-- Texts that agree up to a mark that neither has before agree before and behind it. -/
theorem append_mark_inj {mark : Char} :
    ∀ {front front' back back' : List Char}, mark ∉ front → mark ∉ front' →
      front ++ mark :: back = front' ++ mark :: back' → front = front' ∧ back = back'
  | [], [], _, _, _, _, same => ⟨rfl, (List.cons.inj same).2⟩
  | [], char :: front', _, _, _, free, same =>
      absurd ((List.cons.inj same).1 ▸ List.mem_cons_self) free
  | char :: front, [], _, _, free, _, same =>
      absurd ((List.cons.inj same).1 ▸ List.mem_cons_self) free
  | char :: front, char' :: front', _, _, free, free', same => by
      obtain ⟨heads, tails⟩ := List.cons.inj same
      obtain ⟨fronts, backs⟩ := append_mark_inj (fun member => free (List.mem_cons_of_mem _ member))
        (fun member => free' (List.mem_cons_of_mem _ member)) tails
      exact ⟨by rw [heads, fronts], backs⟩

namespace DoubleLayout

/-! ## The shapes of a decimal -/

theorem exponentText_injective {left right : Int}
    (same : exponentText left = exponentText right) : left = right := by
  unfold exponentText at same
  obtain ⟨signs, digits⟩ := List.cons.inj same
  have magnitudes := toDigits_injective digits
  split at signs <;> split at signs <;> first | omega | (cases signs)

/-- A text without its points. -/
def pointless (text : List Char) : List Char := text.filter fun char => char != '.'

/-- How a text writes a decimal: digits around a point, or digits and a power of ten. -/
inductive Written (value : Decimal) (text : List Char) : Prop
  | positional (whole fraction : List Char) (shape : text = whole ++ '.' :: fraction)
      (first : whole ≠ []) (wholeDigits : Digits whole) (fractionDigits : Digits fraction)
      (reads : value.value = Nat.ofDigitChars 10 (whole ++ fraction) 0 / 10 ^ fraction.length)
  | scientific (digit : Char) (rest : List Char) (exponent : Int)
      (shape : text = digit :: (rest ++ 'e' :: exponentText exponent))
      (first : digit.isDigit = true) (free : 'e' ∉ rest)
      (reads : value = ⟨Nat.ofDigitChars 10 (pointless (digit :: rest)) 0,
        exponent + 1 - (pointless (digit :: rest)).length⟩)

theorem value_of_negative_exponent {decimal : Decimal} {places : Nat}
    (exponent : decimal.exponent = -places) : decimal.value = decimal.digits / 10 ^ places := by
  rw [Decimal.value, exponent, zpow_neg, zpow_natCast, div_eq_mul_inv]

theorem written_decimalText (layout : DoubleLayout) (value : Decimal) :
    Written value (layout.decimalText value) := by
  have written := digits_toDigits value.digits
  have read : Nat.ofDigitChars 10 (Nat.toDigits 10 value.digits) 0 = value.digits :=
    Nat.ofDigitChars_ten_toDigits
  have nonempty : 0 < (Nat.toDigits 10 value.digits).length := Nat.length_toDigits_pos
  unfold decimalText
  extract_lets digits point mark
  have place : point = digits.length + value.exponent := rfl
  change Digits digits at written
  change Nat.ofDigitChars 10 digits 0 = value.digits at read
  change 0 < digits.length at nonempty
  clear_value digits
  split
  · split
    · refine .positional ['0'] (List.replicate point.natAbs '0' ++ digits) rfl (by simp)
        (digits_zeros 1) ((digits_zeros _).append written) ?_
      have zeros : Nat.ofDigitChars 10 (['0'] ++ (List.replicate point.natAbs '0' ++ digits)) 0 =
          value.digits := by
        simp [Nat.ofDigitChars_cons, Nat.ofDigitChars_append, read]
      rw [zeros]
      refine value_of_negative_exponent ?_
      rw [List.length_append, List.length_replicate]
      omega
    · split
      · refine .positional (digits ++ List.replicate (point.toNat - digits.length) '0') ['0'] rfl
          (by simp [List.ne_nil_of_length_pos nonempty]) (written.append (digits_zeros _))
          (digits_zeros 1) ?_
        rename_i above long
        have places : value.exponent = ((point.toNat - digits.length : Nat) : Int) := by omega
        have tens : Nat.ofDigitChars 10
            (digits ++ List.replicate (point.toNat - digits.length) '0' ++ ['0']) 0 =
              10 * (10 ^ (point.toNat - digits.length) * value.digits) := by
          simp [Nat.ofDigitChars_cons, Nat.ofDigitChars_append, read]
        rw [tens, Decimal.value, places, zpow_natCast]
        push_cast
        simp only [List.length_singleton, pow_one]
        ring
      · rename_i inside short
        refine .positional (digits.take point.toNat) (digits.drop point.toNat) rfl ?_
          (fun char member => written char (List.mem_of_mem_take member))
          (fun char member => written char (List.mem_of_mem_drop member)) ?_
        · rw [ne_eq, List.take_eq_nil_iff, not_or]
          exact ⟨by omega, List.ne_nil_of_length_pos nonempty⟩
        · rw [List.take_append_drop, read]
          refine value_of_negative_exponent ?_
          rw [List.length_drop]
          omega
  · obtain ⟨digit, rest, rfl⟩ := List.exists_cons_of_length_pos nonempty
    have plain : pointless (digit :: rest) = digit :: rest :=
      List.filter_eq_self.2 fun char member => by
        have digit := written char member
        rw [bne_iff_ne]
        rintro rfl
        cases digit
    have shown : value = ⟨Nat.ofDigitChars 10 (digit :: rest) 0,
        point - 1 + 1 - (digit :: rest).length⟩ := by
      rw [read, place]
      cases value
      simp
    cases rest with
    | nil =>
        refine .scientific digit [] (point - 1) rfl (written digit List.mem_cons_self)
          List.not_mem_nil ?_
        rwa [plain]
    | cons second rest =>
        have pointed : pointless (digit :: '.' :: second :: rest) = digit :: second :: rest := by
          refine Eq.trans ?_ plain
          simp [pointless, List.filter_cons]
        refine .scientific digit ('.' :: second :: rest) (point - 1) rfl
          (written digit List.mem_cons_self) ?_ ?_
        · rw [List.mem_cons, not_or]
          exact ⟨by decide, Digits.not_mem (fun char member => written char
            (List.mem_cons_of_mem _ member)) rfl⟩
        · rwa [pointed]

/-- Digits around a point hold no exponent mark. -/
theorem unmarked {whole fraction : List Char} (wholeDigits : Digits whole)
    (fractionDigits : Digits fraction) : 'e' ∉ whole ++ '.' :: fraction := by
  rw [List.mem_append, List.mem_cons, not_or, not_or]
  exact ⟨wholeDigits.not_mem rfl, by decide, fractionDigits.not_mem rfl⟩

/-- **What is written alike is one number.** -/
theorem value_of_decimalText {layout : DoubleLayout} {left right : Decimal}
    (same : layout.decimalText left = layout.decimalText right) : left.value = right.value := by
  have first := written_decimalText layout left
  have second := written_decimalText layout right
  rw [same] at first
  generalize layout.decimalText right = text at first second
  cases first with
  | positional whole fraction shape first wholeDigits fractionDigits reads =>
      cases second with
      | positional whole' fraction' shape' _ wholeDigits' _ reads' =>
          obtain ⟨rfl, rfl⟩ := append_mark_inj (wholeDigits.not_mem rfl) (wholeDigits'.not_mem rfl)
            (shape.symm.trans shape')
          rw [reads, reads']
      | scientific digit rest exponent shape' _ _ _ =>
          exact absurd (shape ▸ shape' ▸ by simp) (unmarked wholeDigits fractionDigits)
  | scientific digit rest exponent shape first free reads =>
      cases second with
      | positional whole fraction shape' _ wholeDigits fractionDigits _ =>
          exact absurd (shape' ▸ shape ▸ by simp) (unmarked wholeDigits fractionDigits)
      | scientific digit' rest' exponent' shape' _ free' reads' =>
          obtain ⟨rfl, tails⟩ := List.cons.inj (shape.symm.trans shape')
          obtain ⟨rfl, exponents⟩ := append_mark_inj free free' tails
          rw [reads, reads', exponentText_injective exponents]

/-- A decimal's text begins with a digit. -/
theorem exists_digit_decimalText (layout : DoubleLayout) (value : Decimal) :
    ∃ digit rest, layout.decimalText value = digit :: rest ∧ digit.isDigit = true := by
  cases written_decimalText layout value with
  | positional whole fraction shape first wholeDigits _ _ =>
      obtain ⟨digit, rest, rfl⟩ := List.exists_cons_of_ne_nil first
      exact ⟨digit, _, shape, wholeDigits digit List.mem_cons_self⟩
  | scientific digit rest exponent shape first _ _ => exact ⟨digit, _, shape, first⟩

/-- A decimal's text has a point or an exponent mark. -/
theorem exists_mark_decimalText (layout : DoubleLayout) (value : Decimal) :
    ∃ mark ∈ layout.decimalText value, mark ≠ '-' ∧ mark.isDigit = false := by
  cases written_decimalText layout value with
  | positional whole fraction shape _ _ _ _ => exact ⟨'.', by simp [shape], by decide, rfl⟩
  | scientific digit rest exponent shape _ _ _ => exact ⟨'e', by simp [shape], by decide, rfl⟩

end DoubleLayout

/-! ## Signs -/

/-- A magnitude with its sign. -/
def signed (negative : Bool) (magnitude : List Char) : List Char :=
  if negative then '-' :: magnitude else magnitude

/-- A sign is seen in front of magnitudes that begin with a digit. -/
theorem signed_inj {negative negative' : Bool} {magnitude magnitude' : List Char}
    (first : ∃ digit rest, magnitude = digit :: rest ∧ digit.isDigit = true)
    (second : ∃ digit rest, magnitude' = digit :: rest ∧ digit.isDigit = true)
    (same : signed negative magnitude = signed negative' magnitude') :
    negative = negative' ∧ magnitude = magnitude' := by
  obtain ⟨digit, rest, rfl, digits⟩ := first
  obtain ⟨digit', rest', rfl, digits'⟩ := second
  cases negative <;> cases negative'
  · exact ⟨rfl, same⟩
  · rw [(List.cons.inj same).1] at digits
    cases digits
  · rw [← (List.cons.inj same).1] at digits'
    cases digits'
  · exact ⟨rfl, (List.cons.inj same).2⟩

namespace Json

theorem integerText_eq (value : Int) :
    integerText value = signed (decide (value < 0)) (Nat.toDigits 10 value.natAbs) := by
  unfold integerText signed
  simp only [decide_eq_true_eq]

theorem text_doubleLayout (value : Double) :
    doubleLayout.text value = signed value.negative (doubleLayout.decimalText value.magnitude) := by
  have zero : doubleLayout.decimalText ⟨0, 0⟩ = ['0', '.', '0'] := by decide
  unfold DoubleLayout.text signed Double.magnitude
  cases value.isZero <;> simp [zero]

theorem exists_digit_toDigits (value : Nat) :
    ∃ digit rest, Nat.toDigits 10 value = digit :: rest ∧ digit.isDigit = true := by
  obtain ⟨digit, rest, shape⟩ := List.exists_cons_of_length_pos (Nat.length_toDigits_pos)
  exact ⟨digit, rest, shape, digits_toDigits value digit (shape ▸ List.mem_cons_self)⟩

/-- A number's text begins with a digit or a minus. -/
theorem exists_head_numberText (value : Number) :
    ∃ char rest, numberText value = char :: rest ∧ (char.isDigit = true ∨ char = '-') := by
  have front : ∀ negative {magnitude}, (∃ digit rest, magnitude = digit :: rest ∧
      digit.isDigit = true) → ∃ char rest, signed negative magnitude = char :: rest ∧
        (char.isDigit = true ∨ char = '-') := by
    rintro (_ | _) magnitude ⟨digit, rest, rfl, digits⟩
    · exact ⟨digit, rest, rfl, Or.inl digits⟩
    · exact ⟨'-', _, rfl, Or.inr rfl⟩
  cases value with
  | integer value =>
      rw [numberText, integerText_eq]
      exact front _ (exists_digit_toDigits _)
  | double value =>
      rw [numberText, text_doubleLayout]
      exact front _ (doubleLayout.exists_digit_decimalText _)

/-- An integer is written with digits and a minus only, and a double never is. -/
theorem integerText_ne_text (value : Int) (double : Double) :
    integerText value ≠ doubleLayout.text double := by
  intro same
  rw [integerText_eq, text_doubleLayout] at same
  obtain ⟨mark, member, noMinus, noDigit⟩ :=
    doubleLayout.exists_mark_decimalText double.magnitude
  have marked : mark ∈ signed double.negative (doubleLayout.decimalText double.magnitude) := by
    unfold signed
    split
    · exact List.mem_cons_of_mem _ member
    · exact member
  rw [← same] at marked
  unfold signed at marked
  split at marked
  · rcases List.mem_cons.1 marked with minus | member
    · exact noMinus minus
    · exact (digits_toDigits _).not_mem noDigit member
  · exact (digits_toDigits _).not_mem noDigit marked

/-- **No two numbers are written alike.** -/
theorem numberText_injective {left right : Number} (same : numberText left = numberText right) :
    left = right := by
  cases left with
  | integer left =>
      cases right with
      | integer right =>
          simp only [numberText, integerText_eq] at same
          obtain ⟨signs, digits⟩ :=
            signed_inj (exists_digit_toDigits _) (exists_digit_toDigits _) same
          have magnitudes := toDigits_injective digits
          have signs := decide_eq_decide.1 signs
          rw [show left = right by omega]
      | double right => exact absurd same (integerText_ne_text left right)
  | double left =>
      cases right with
      | integer right => exact absurd same.symm (integerText_ne_text right left)
      | double right =>
          simp only [numberText, text_doubleLayout] at same
          obtain ⟨signs, magnitudes⟩ := signed_inj (doubleLayout.exists_digit_decimalText _)
            (doubleLayout.exists_digit_decimalText _) same
          rw [Double.eq_of_value_magnitude signs (DoubleLayout.value_of_decimalText magnitudes)]

end Json

end SessionSync
