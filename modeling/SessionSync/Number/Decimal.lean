import SessionSync.Number.Double

/-!
# Decimal texts and doubles

A decimal is `digits * 10 ^ exponent`.  This module goes both ways between
decimals and doubles:

* `Decimal.toDouble` rounds a decimal once, to the nearest double;
* `Double.shortest` gives the decimal with the fewest digits among those that
  round to a double, and of those the nearest one.

Both work with exact natural numbers.  A decimal whose power of ten is far
outside the range of doubles is settled without computing that power.
-/

set_option autoImplicit false

namespace SessionSync

/-- A non-negative decimal, `digits * 10 ^ exponent`. -/
structure Decimal where
  digits : Nat
  exponent : Int
  deriving DecidableEq, Repr, Inhabited

namespace Decimal

/-- The number of decimal digits; zero has one. -/
def digitCount (value : Nat) : Nat := (Nat.toDigits 10 value).length

/-- The nearest double, or `none` beyond the finite range.  A value of at least
`10 ^ 310` is too large, and one below `10 ^ (-330)` rounds to zero. -/
def toDouble (negative : Bool) (value : Decimal) : Option Double :=
  let magnitude := value.exponent + (digitCount value.digits : Int)
  if value.digits = 0 then some (Double.zero negative)
  else if 311 < magnitude then none
  else if magnitude < -330 then some (Double.zero negative)
  else Double.ofRatio negative (value.digits * tenTo value.exponent.toNat)
    (tenTo (-value.exponent).toNat)

/-- The same value without trailing zero digits. -/
def strip (value : Decimal) : Decimal :=
  go (digitCount value.digits) value
where
  /-- Drop at most `fuel` trailing zeros. -/
  go : Nat → Decimal → Decimal
    | 0, value => value
    | fuel + 1, value =>
        if value.digits ≠ 0 ∧ value.digits % 10 = 0 then
          go fuel ⟨value.digits / 10, value.exponent + 1⟩
        else value

end Decimal

namespace Double

/-- The double's magnitude in units of `10 ^ (-1074)`, which is a whole number
because `2 ^ (-1074)` is `5 ^ 1074` such units. -/
def decimalUnits (value : Double) : Nat := value.units * fiveTo unitBits

/-- The interval of reals that round to this double, its ends in quarters of
the gap above the value: the gap below a power of two is half as wide. -/
def roundingBounds (value : Double) : Nat × Nat :=
  let scale := twoTo value.exponent * fiveTo unitBits
  let narrow := value.significand = twoTo 52 ∧ 0 < value.exponent
  ((4 * value.significand - if narrow then 1 else 2) * scale, (4 * value.significand + 2) * scale)

/-- Whether a magnitude, in units of `10 ^ (-1074)`, rounds to this double.
The ends of the interval belong to it exactly when the significand is even. -/
def roundsBack (value : Double) (decimalMagnitude : Nat) : Bool :=
  let bounds := value.roundingBounds
  let quarters := 4 * decimalMagnitude
  if value.significand % 2 = 0 then bounds.1 ≤ quarters && quarters ≤ bounds.2
  else bounds.1 < quarters && quarters < bounds.2

/-- The decimal nearest to the value on the grid of `10 ^ place` units, if it
rounds back; of two equally near the one with the even last digit. -/
def onGrid (value : Double) (place : Nat) : Option Decimal :=
  let grid := tenTo place
  let below := value.decimalUnits / grid
  let twice := 2 * (value.decimalUnits % grid)
  let lowFits := decide (below ≠ 0) && value.roundsBack (below * grid)
  let highFits := value.roundsBack ((below + 1) * grid)
  let lowIsNearer := twice < grid || (twice == grid && below % 2 == 0)
  let choice : Nat → Decimal := fun digits => ⟨digits, (place : Int) - unitBits⟩
  if lowFits && (lowIsNearer || !highFits) then some (choice below)
  else if highFits then some (choice (below + 1))
  else none

/-- The fewest digits that read back, and of those the nearest: the grids are
tried from one digit up to seventeen, and the exact value stands behind them. -/
def shortest (value : Double) : Decimal :=
  let length := Decimal.digitCount value.decimalUnits
  let exact : Decimal := ⟨value.decimalUnits, -(unitBits : Int)⟩
  let grids := (List.range 17).map fun count => length - (count + 1)
  ((grids.findSome? value.onGrid).getD exact).strip

end Double

/-! ## Reading a plain decimal text -/

namespace Decimal

/-- A decimal digit's value. -/
def digitValue? (char : Char) : Option Nat :=
  if '0' ≤ char ∧ char ≤ '9' then some (char.toNat - '0'.toNat) else none

/-- The leading decimal digits of a text, and the rest. -/
def spanDigits (text : List Char) : List Char × List Char :=
  text.span fun char => (digitValue? char).isSome

/-- The number a digit sequence writes. -/
def ofDigits (digits : List Char) : Nat :=
  digits.foldl (fun total char => 10 * total + (digitValue? char).getD 0) 0

/-- An optional sign: whether it was a minus, and the rest. -/
def spanSign : List Char → Bool × List Char
  | '-' :: rest => (true, rest)
  | '+' :: rest => (false, rest)
  | text => (false, text)

/-- A signed exponent after its mark; at least one digit is needed. -/
def readExponent? (text : List Char) : Option Int :=
  let (negative, text) := spanSign text
  let (digits, rest) := spanDigits text
  if digits.isEmpty || !rest.isEmpty then none
  else some (if negative then -(ofDigits digits : Int) else ofDigits digits)

/-- What a text says when it is read as a number. -/
inductive Reading where
  /-- A decimal with its sign. -/
  | finite (negative : Bool) (value : Decimal)
  /-- A word for an infinity or for "not a number". -/
  | special
  deriving DecidableEq, Repr

/-- A whole text as a number: an optional sign, digits with an optional point
(at least one digit in all) and an optional exponent; or one of the words
`inf`, `infinity` and `nan` in any letter case. -/
def read? (text : String) : Option Reading := do
  let (negative, body) := spanSign text.toList
  if ["inf", "infinity", "nan"].contains ((String.ofList body).map Char.toLower) then
    return .special
  let (whole, rest) := spanDigits body
  let (fraction, rest) := match rest with
    | '.' :: rest => spanDigits rest
    | _ => ([], rest)
  if whole.isEmpty && fraction.isEmpty then failure
  let exponent ← match rest with
    | [] => some 0
    | 'e' :: rest | 'E' :: rest => readExponent? rest
    | _ => none
  return .finite negative ⟨ofDigits (whole ++ fraction), exponent - fraction.length⟩

end Decimal

end SessionSync
