import SessionSync.Number.Power

/-!
# Finite binary64 numbers

A double is kept as what it means: a sign, a significand and a power of two,
so rounding is a statement about natural numbers and never touches machine
arithmetic.  The value is `±significand * 2 ^ exponent / 2 ^ 1074`, and the
proof field says that the representation is the normal one, so two doubles are
equal exactly when their fields are.

Every operation goes through one rounding function, `Double.ofRatio`: the
nearest double to a quotient, an exact tie going to the even significand, and
`none` where the quotient is too large for a finite double.  Zero keeps its
sign.
-/

set_option autoImplicit false

namespace SessionSync

/-- The power of two that divides every double: values are counted in units of
`2 ^ (-1074)`. -/
def Double.unitBits : Nat := 1074

/-- A finite binary64 number: `±significand * 2 ^ exponent` units of
`2 ^ (-1074)`, in normal form. -/
structure Double where
  negative : Bool
  significand : Nat
  exponent : Nat
  normal : significand < twoTo 53 ∧ exponent ≤ 2045 ∧ (exponent = 0 ∨ twoTo 52 ≤ significand)
  deriving DecidableEq, Repr

namespace Double

/-- Zero with the given sign. -/
def zero (negative : Bool) : Double :=
  { negative, significand := 0, exponent := 0, normal := by decide }

instance : Inhabited Double := ⟨zero false⟩

/-- The double with these fields, when they are in normal form. -/
def ofFields? (negative : Bool) (significand exponent : Nat) : Option Double :=
  if normal : significand < twoTo 53 ∧ exponent ≤ 2045 ∧ (exponent = 0 ∨ twoTo 52 ≤ significand) then
    some { negative, significand, exponent, normal }
  else none

/-- The natural number nearest to `num / den`; an exact half goes to the even
neighbour. -/
def roundHalfEven (num den : Nat) : Nat :=
  let floor := num / den
  let twice := 2 * (num % den)
  if twice < den then floor
  else if den < twice then floor + 1
  else if floor % 2 = 0 then floor else floor + 1

/-- The double nearest to `±num / den`, ties to the even significand; `none`
where that exceeds the finite range. -/
def ofRatio (negative : Bool) (num den : Nat) : Option Double :=
  let units := num * twoTo unitBits
  let exponent := Nat.log2 (units / den) - 52
  let significand := roundHalfEven units (den * twoTo exponent)
  if significand < twoTo 53 then ofFields? negative significand exponent
  else ofFields? negative (significand / 2) (exponent + 1)

/-- The double nearest to an integer. -/
def ofInt (value : Int) : Option Double :=
  ofRatio (decide (value < 0)) value.natAbs 1

/-- The magnitude in units of `2 ^ (-1074)`. -/
def units (value : Double) : Nat := value.significand * twoTo value.exponent

/-- Whether the value is a zero of either sign. -/
def isZero (value : Double) : Bool := value.significand == 0

/-- The same magnitude with the other sign. -/
def neg (value : Double) : Double := { value with negative := !value.negative }

/-- The rounded product. -/
def mul (left right : Double) : Option Double :=
  ofRatio (left.negative != right.negative) (left.units * right.units)
    (twoTo unitBits * twoTo unitBits)

/-- The rounded quotient by a divisor that is not zero. -/
def div (left right : Double) : Option Double :=
  ofRatio (left.negative != right.negative) left.units right.units

/-- Numerical equality: the two zeros count as one number. -/
def sameNumber (left right : Double) : Bool :=
  (left.isZero && right.isZero) || left == right

/-- The nearest integer, an exact half going away from zero. -/
def roundAway (value : Double) : Int :=
  let magnitude : Nat := (2 * value.units + twoTo unitBits) / (2 * twoTo unitBits)
  if value.negative then -(magnitude : Int) else magnitude

/-- Whether the magnitude is below a natural number. -/
def magnitudeBelow (value : Double) (bound : Nat) : Bool :=
  decide (value.units < bound * twoTo unitBits)

end Double

end SessionSync
