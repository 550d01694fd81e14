import SessionSync.Json.Basic

/-!
# Compact JSON text

A value as text without any blank: members in the order in which they stand,
doubles with the fewest digits that read back, and of the characters of a
string only the quotation mark, the backslash and the controls below U+0020
escaped.

The printer works on lists of characters, so a statement about what it writes
is a statement about lists.
-/

set_option autoImplicit false

namespace SessionSync

/-! ## Numbers -/

/-- Where doubles are written positionally: the decimal point stands after more
than `least` and at most `most` places from the first digit. -/
structure DoubleLayout where
  least : Int
  most : Int

namespace DoubleLayout

/-- A signed exponent without padding. -/
def exponentText (exponent : Int) : List Char :=
  (if exponent < 0 then '-' else '+') :: Nat.toDigits 10 exponent.natAbs

/-- A decimal with a point: at least one digit on each side of it when it is
written positionally, and one digit before it otherwise. -/
def decimalText (layout : DoubleLayout) (value : Decimal) : List Char :=
  let digits := Nat.toDigits 10 value.digits
  let point : Int := digits.length + value.exponent
  if layout.least < point ∧ point ≤ layout.most then
    if point ≤ 0 then '0' :: '.' :: (List.replicate point.natAbs '0' ++ digits)
    else if digits.length ≤ point.toNat then
      digits ++ List.replicate (point.toNat - digits.length) '0' ++ ['.', '0']
    else digits.take point.toNat ++ '.' :: digits.drop point.toNat
  else
    let mark := 'e' :: exponentText (point - 1)
    match digits with
    | [] => mark
    | [digit] => digit :: mark
    | digit :: rest => digit :: '.' :: rest ++ mark

/-- A double's text; a zero keeps its sign. -/
def text (layout : DoubleLayout) (value : Double) : List Char :=
  let magnitude := if value.isZero then ['0', '.', '0'] else layout.decimalText value.shortest
  if value.negative then '-' :: magnitude else magnitude

end DoubleLayout

namespace Json

/-- JSON doubles are positional from `0.00001` up to, but not including,
`10 ^ 16`. -/
def doubleLayout : DoubleLayout := { least := -5, most := 16 }

/-- An integer's decimal digits after its sign. -/
def integerText (value : Int) : List Char :=
  if value < 0 then '-' :: Nat.toDigits 10 value.natAbs else Nat.toDigits 10 value.natAbs

/-- A number's text; a double always shows a point or an exponent. -/
def numberText : Number → List Char
  | .integer value => integerText value
  | .double value => doubleLayout.text value

/-! ## Strings -/

/-- A hexadecimal digit in lower case. -/
def hexDigit (value : Nat) : Char :=
  if value < 10 then Char.ofNat ('0'.toNat + value) else Char.ofNat ('a'.toNat + (value - 10))

/-- One character inside a string's quotation marks. -/
def escaped (char : Char) : List Char :=
  match char with
  | '"' => ['\\', '"']
  | '\\' => ['\\', '\\']
  | '\n' => ['\\', 'n']
  | '\r' => ['\\', 'r']
  | '\t' => ['\\', 't']
  | '\x08' => ['\\', 'b']
  | '\x0c' => ['\\', 'f']
  | char =>
      if char.toNat < 0x20 then
        ['\\', 'u', '0', '0', hexDigit (char.toNat / 16), hexDigit (char.toNat % 16)]
      else [char]

/-- A string between quotation marks. -/
def quoted (text : String) : List Char := '"' :: text.toList.flatMap escaped ++ ['"']

/-! ## Values -/

mutual

/-- The characters of a value's compact text. -/
def chars : Json → List Char
  | .null => ['n', 'u', 'l', 'l']
  | .bool true => ['t', 'r', 'u', 'e']
  | .bool false => ['f', 'a', 'l', 's', 'e']
  | .number value => numberText value
  | .string value => quoted value
  | .array elements => '[' :: elementChars elements ++ [']']
  | .object members => '\x7b' :: memberChars members ++ ['\x7d']

/-- The elements of an array, with commas between them. -/
def elementChars : List Json → List Char
  | [] => []
  | [element] => element.chars
  | element :: rest => element.chars ++ ',' :: elementChars rest

/-- The members of an object, with commas between them. -/
def memberChars : List (String × Json) → List Char
  | [] => []
  | [(key, value)] => quoted key ++ ':' :: value.chars
  | (key, value) :: rest => quoted key ++ ':' :: value.chars ++ ',' :: memberChars rest

end

/-- A value's compact text. -/
def compact (value : Json) : String := String.ofList value.chars

end Json

end SessionSync
