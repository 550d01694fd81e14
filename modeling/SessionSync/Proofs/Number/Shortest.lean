import Mathlib.Algebra.Order.Field.Power
import Mathlib.Data.Rat.Cast.Order
import Mathlib.Tactic.FieldSimp
import Mathlib.Tactic.Ring
import SessionSync.Number.Decimal

/-!
# The shortest decimal of a double

The decimal that is written for a double lies in the interval that rounds to it
(`Double.roundsBack_shortest`), and the intervals of two doubles are disjoint
(`Double.eq_of_roundsBack`): where two intervals meet, an end belongs to the one with the even
significand only.  So two doubles with one shortest decimal are one double
(`Double.eq_of_value_shortest`).

Magnitudes are counted in units of `10 ^ (-1074)`, as the printer counts them.
-/

set_option autoImplicit false

namespace SessionSync

/-! ## The number that a decimal writes -/

namespace Decimal

/-- The number that a decimal writes. -/
def value (decimal : Decimal) : ℚ := decimal.digits * 10 ^ decimal.exponent

/-- Trailing zeros say nothing. -/
theorem value_strip (decimal : Decimal) : decimal.strip.value = decimal.value := by
  have go : ∀ fuel decimal, (strip.go fuel decimal).value = decimal.value := by
    intro fuel
    induction fuel with
    | zero => exact fun _ => rfl
    | succ fuel ih =>
        intro decimal
        unfold strip.go
        split
        · rename_i trailing
          have whole : decimal.digits = decimal.digits / 10 * 10 :=
            (Nat.div_mul_cancel (Nat.dvd_of_mod_eq_zero trailing.2)).symm
          rw [ih, value, value, zpow_add_one₀ (by norm_num)]
          conv_rhs => rw [whole]
          push_cast
          ring
        · rfl
  exact go _ decimal

/-- The unit in which magnitudes are counted, `10 ^ (-1074)`. -/
def unit : ℚ := 10 ^ (-(Double.unitBits : Int))

theorem unit_ne_zero : unit ≠ 0 := zpow_ne_zero _ (by norm_num)

/-- A decimal on a grid, counted in units. -/
theorem value_onGrid (digits place : Nat) :
    value ⟨digits, (place : Int) - Double.unitBits⟩ = (digits * tenTo place : Nat) * unit := by
  have grid : ((tenTo place : Nat) : ℚ) = 10 ^ place := Nat.cast_pow 10 place
  rw [value, sub_eq_add_neg, zpow_add₀ (by norm_num), zpow_natCast, Nat.cast_mul, grid,
    ← mul_assoc, unit]

end Decimal

namespace Double

/-! ## The intervals are disjoint -/

section Intervals

variable {left right value : Double} {magnitude : Nat}

/-- The ends of an interval, in quarters of the gap above the value. -/
theorem bounds_of_roundsBack (rounds : value.roundsBack magnitude = true) :
    value.roundingBounds.1 ≤ 4 * magnitude ∧ 4 * magnitude ≤ value.roundingBounds.2 ∧
      (value.significand % 2 = 1 →
        value.roundingBounds.1 < 4 * magnitude ∧ 4 * magnitude < value.roundingBounds.2) := by
  unfold roundsBack at rounds
  dsimp only at rounds
  split at rounds
  · rename_i even
    simp only [Bool.and_eq_true, decide_eq_true_eq] at rounds
    exact ⟨rounds.1, rounds.2, fun odd => by omega⟩
  · simp only [Bool.and_eq_true, decide_eq_true_eq] at rounds
    exact ⟨rounds.1.le, rounds.2.le, fun _ => rounds⟩

/-- The gap above a value, in units of `10 ^ (-1074)`. -/
def gap (value : Double) : Nat := twoTo value.exponent * fiveTo unitBits

theorem gap_pos (value : Double) : 0 < value.gap := by
  have five : ∀ exponent, 0 < fiveTo exponent := fun _ => Nat.pow_pos (by decide)
  exact Nat.mul_pos (Nat.pow_pos (by decide)) (five unitBits)

theorem upper_eq (value : Double) :
    value.roundingBounds.2 = (4 * value.significand + 2) * value.gap := rfl

/-- The interval reaches down half a gap, and a quarter of it below a power of two. -/
theorem lower_eq (value : Double) :
    value.roundingBounds.1 =
      (4 * value.significand -
        if value.significand = twoTo 52 ∧ 0 < value.exponent then 1 else 2) * value.gap := rfl

theorem two_gap_le (steeper : left.exponent < right.exponent) : 2 * left.gap ≤ right.gap := by
  have power : twoTo left.exponent * 2 ≤ twoTo right.exponent :=
    Nat.pow_le_pow_right Nat.zero_lt_two (Nat.succ_le_of_lt steeper)
  calc 2 * left.gap = twoTo left.exponent * 2 * fiveTo unitBits := by
        rw [gap, ← Nat.mul_assoc, Nat.mul_comm 2]
    _ ≤ right.gap := Nat.mul_le_mul_right _ power

/-- Nothing rounds to two doubles with the same gap. -/
theorem not_roundsBack_of_lt (same : left.exponent = right.exponent)
    (less : left.significand < right.significand) (first : left.roundsBack magnitude = true)
    (second : right.roundsBack magnitude = true) : False := by
  obtain ⟨-, upper, strictUpper⟩ := bounds_of_roundsBack first
  obtain ⟨lower, -, strictLower⟩ := bounds_of_roundsBack second
  have gaps : right.gap = left.gap := by rw [gap, gap, same]
  rw [upper_eq] at upper strictUpper
  rw [lower_eq, gaps] at lower strictLower
  have meets := Nat.le_of_mul_le_mul_right (lower.trans upper) left.gap_pos
  have next : right.significand = left.significand + 1 := by
    split at meets <;> omega
  -- The intervals touch, and one of two neighbours is odd.
  have touch : (4 * right.significand -
      if right.significand = twoTo 52 ∧ 0 < right.exponent then 1 else 2) =
        4 * left.significand + 2 := by
    split at meets
    · omega
    · rename_i wide
      rw [if_neg wide]
      omega
  rw [touch] at lower strictLower
  rcases Nat.mod_two_eq_zero_or_one left.significand with even | odd
  · exact absurd (strictLower (by omega)).1 (Nat.not_lt.2 upper)
  · exact absurd (strictUpper odd).2 (Nat.not_lt.2 lower)

/-- Nothing rounds to two doubles with different gaps. -/
theorem not_roundsBack_of_steeper (steeper : left.exponent < right.exponent)
    (first : left.roundsBack magnitude = true) (second : right.roundsBack magnitude = true) :
    False := by
  obtain ⟨-, upper, strictUpper⟩ := bounds_of_roundsBack first
  obtain ⟨lower, -, -⟩ := bounds_of_roundsBack second
  have small : left.significand < 2 ^ 53 := left.normal.1
  have large : 2 ^ 52 ≤ right.significand :=
    right.normal.2.2.resolve_left (Nat.ne_of_gt (Nat.zero_lt_of_lt steeper))
  have gaps := two_gap_le steeper
  have positive := left.gap_pos
  have high : right.exponent ≠ 0 := Nat.ne_of_gt (Nat.zero_lt_of_lt steeper)
  rw [upper_eq] at upper strictUpper
  -- The upper interval begins where the lower one may end at most.
  have begins : (2 ^ 55 - 2) * left.gap ≤ right.roundingBounds.1 := by
    rw [lower_eq]
    calc (2 ^ 55 - 2) * left.gap = (2 ^ 54 - 1) * (2 * left.gap) := by ring
      _ ≤ (2 ^ 54 - 1) * right.gap := Nat.mul_le_mul_left _ gaps
      _ ≤ _ := by
        refine Nat.mul_le_mul_right _ ?_
        split
        · omega
        · rename_i wide
          have different : right.significand ≠ 2 ^ 52 := fun same =>
            wide ⟨same, Nat.pos_of_ne_zero high⟩
          omega
  rcases Nat.lt_or_ge left.significand (2 ^ 53 - 1) with less | most
  · have ends : (4 * left.significand + 2) * left.gap ≤ (2 ^ 55 - 6) * left.gap :=
      Nat.mul_le_mul_right _ (by omega)
    omega
  · have last : left.significand = 2 ^ 53 - 1 := by omega
    obtain ⟨-, strict⟩ := strictUpper (by rw [last]; decide)
    have ends : (4 * left.significand + 2) * left.gap = (2 ^ 55 - 2) * left.gap := by
      rw [last]
      norm_num
    omega

/-- **The intervals of two doubles are disjoint.** -/
theorem eq_of_roundsBack (sign : left.negative = right.negative)
    (first : left.roundsBack magnitude = true) (second : right.roundsBack magnitude = true) :
    left = right := by
  have exponent : left.exponent = right.exponent := by
    rcases Nat.lt_trichotomy left.exponent right.exponent with less | same | more
    · exact (not_roundsBack_of_steeper less first second).elim
    · exact same
    · exact (not_roundsBack_of_steeper more second first).elim
  have significand : left.significand = right.significand := by
    rcases Nat.lt_trichotomy left.significand right.significand with less | same | more
    · exact (not_roundsBack_of_lt exponent less first second).elim
    · exact same
    · exact (not_roundsBack_of_lt exponent.symm more second first).elim
  cases left
  cases right
  simp_all

end Intervals

/-! ## The shortest decimal -/

section Shortest

variable {value : Double}

/-- The exact value rounds to the double. -/
theorem roundsBack_decimalUnits (nonzero : value.isZero = false) :
    value.roundsBack value.decimalUnits = true := by
  have positive : 0 < value.significand :=
    Nat.pos_of_ne_zero fun zero => by simp [isZero, zero] at nonzero
  have exact : 4 * value.decimalUnits = 4 * value.significand * value.gap := by
    rw [decimalUnits, units, gap, Nat.mul_assoc, Nat.mul_assoc]
  have below : value.roundingBounds.1 < 4 * value.decimalUnits := by
    rw [exact, lower_eq]
    refine Nat.mul_lt_mul_of_pos_right ?_ value.gap_pos
    split <;> omega
  have above : 4 * value.decimalUnits < value.roundingBounds.2 := by
    rw [exact, upper_eq]
    exact Nat.mul_lt_mul_of_pos_right (by omega) value.gap_pos
  unfold roundsBack
  dsimp only
  split
  · simp [below.le, above.le]
  · simp [below, above]

/-- Nothing that rounds to a double that is no zero is zero. -/
theorem pos_of_roundsBack (nonzero : value.isZero = false) {magnitude : Nat}
    (rounds : value.roundsBack magnitude = true) : 0 < magnitude := by
  have positive : 0 < value.significand :=
    Nat.pos_of_ne_zero fun zero => by simp [isZero, zero] at nonzero
  have lower := (bounds_of_roundsBack rounds).1
  have above : 0 < value.roundingBounds.1 := by
    rw [lower_eq]
    refine Nat.mul_pos ?_ value.gap_pos
    split <;> omega
  omega

theorem roundsBack_of_onGrid {place : Nat} {decimal : Decimal}
    (found : value.onGrid place = some decimal) :
    ∃ digits, decimal = ⟨digits, (place : Int) - unitBits⟩ ∧
      value.roundsBack (digits * tenTo place) = true := by
  unfold onGrid at found
  extract_lets grid below twice lowFits highFits lowIsNearer choice at found
  split at found
  · rename_i low
    refine ⟨below, (Option.some_inj.1 found).symm, ?_⟩
    have fits : lowFits = true := (Bool.and_eq_true_iff.1 low).1
    exact (Bool.and_eq_true_iff.1 fits).2
  · split at found
    · rename_i high
      exact ⟨below + 1, (Option.some_inj.1 found).symm, high⟩
    · cases found

/-- **The shortest decimal rounds back.** -/
theorem roundsBack_shortest (nonzero : value.isZero = false) :
    ∃ magnitude : Nat, value.roundsBack magnitude = true ∧
      value.shortest.value = magnitude * Decimal.unit := by
  unfold shortest
  extract_lets length exact grids
  rw [Decimal.value_strip]
  cases found : grids.findSome? value.onGrid with
  | none => exact ⟨value.decimalUnits, roundsBack_decimalUnits nonzero, rfl⟩
  | some decimal =>
      obtain ⟨place, -, onGrid⟩ := List.exists_of_findSome?_eq_some found
      obtain ⟨digits, rfl, rounds⟩ := roundsBack_of_onGrid onGrid
      exact ⟨_, rounds, Decimal.value_onGrid digits place⟩

/-- The decimal of a magnitude: zero for a zero, and the shortest one otherwise. -/
def magnitude (value : Double) : Decimal := if value.isZero then ⟨0, 0⟩ else value.shortest

theorem value_shortest_ne_zero (nonzero : value.isZero = false) : value.shortest.value ≠ 0 := by
  obtain ⟨magnitude, rounds, written⟩ := roundsBack_shortest nonzero
  rw [written]
  exact mul_ne_zero (Nat.cast_ne_zero.2 (pos_of_roundsBack nonzero rounds).ne')
    Decimal.unit_ne_zero

/-- Doubles that are no zeros are determined by sign and shortest decimal. -/
theorem eq_of_value_shortest {left right : Double} (sign : left.negative = right.negative)
    (first : left.isZero = false) (second : right.isZero = false)
    (same : left.shortest.value = right.shortest.value) : left = right := by
  obtain ⟨one, rounds, written⟩ := roundsBack_shortest first
  obtain ⟨two, rounds', written'⟩ := roundsBack_shortest second
  rw [written, written'] at same
  obtain rfl : one = two := Nat.cast_injective (mul_right_cancel₀ Decimal.unit_ne_zero same)
  exact eq_of_roundsBack sign rounds rounds'

theorem eq_of_isZero {left right : Double} (sign : left.negative = right.negative)
    (first : left.isZero = true) (second : right.isZero = true) : left = right := by
  have fields : ∀ {value : Double}, value.isZero = true →
      value.significand = 0 ∧ value.exponent = 0 := by
    intro value zero
    have significand : value.significand = 0 := by simpa [isZero] using zero
    refine ⟨significand, value.normal.2.2.resolve_right ?_⟩
    rw [significand]
    decide
  obtain ⟨significand, exponent⟩ := fields first
  obtain ⟨significand', exponent'⟩ := fields second
  cases left
  cases right
  simp_all

/-- **A double is determined by its sign and its decimal.** -/
theorem eq_of_value_magnitude {left right : Double} (sign : left.negative = right.negative)
    (same : left.magnitude.value = right.magnitude.value) : left = right := by
  have zero : (⟨0, 0⟩ : Decimal).value = 0 := by simp [Decimal.value]
  unfold magnitude at same
  cases first : left.isZero <;> cases second : right.isZero <;>
    simp only [first, second, Bool.false_eq_true, if_true, if_false, zero] at same
  · exact eq_of_value_shortest sign first second same
  · exact absurd same (value_shortest_ne_zero first)
  · exact absurd same.symm (value_shortest_ne_zero second)
  · exact eq_of_isZero sign first second

end Shortest

end Double

end SessionSync
