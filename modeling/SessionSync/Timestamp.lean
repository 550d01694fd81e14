import SessionSync.Calendar
import SessionSync.Json.Basic
import SessionSync.Text.Blank

/-!
# Timestamps

A timestamp is a number or a text, kept as it was received.  Everything is
compared in unix milliseconds:

* a number of a magnitude below `10 ^ 11` counts seconds, any other counts
  milliseconds, and the result is rounded to the nearest millisecond, a half
  going away from zero;
* a text that is a number, after its blanks at the ends are dropped, is read
  like that number;
* any other text is an instant with an offset, or a date and a time of day
  without one, which is then universal time.

A timestamp that cannot be read has no milliseconds and sorts as zero.
-/

set_option autoImplicit false

namespace SessionSync

/-- A timestamp as received. -/
inductive Timestamp where
  | number (value : Double)
  | text (value : String)
  deriving DecidableEq, Repr

namespace Timestamp

instance : Inhabited Timestamp := ⟨.number (Double.zero false)⟩

/-- The timestamp of a record that carries none. -/
def absent : Timestamp := .number (Double.zero false)

/-! ## Numbers -/

/-- The nearest 64-bit signed integer. -/
def clampWord (value : Int) : Int := max signedMin (min signedMax value)

/-- Numbers of a smaller magnitude count seconds, all others milliseconds.
`10 ^ 11` seconds is the year 5138; `10 ^ 11` milliseconds is March 1973. -/
def secondsCutoff : Nat := tenTo 11

/-- One thousand as a double. -/
def thousand : Double := { negative := false, significand := 1000 * twoTo 43, exponent := 1031,
                           normal := by decide }

/-- Milliseconds of a number. -/
def numberMillis (value : Double) : Option Int :=
  if value.magnitudeBelow secondsCutoff then
    (value.mul thousand).map fun product => clampWord product.roundAway
  else some (clampWord value.roundAway)

/-! ## Texts -/

/-- Between `least` and `most` leading digits, as a number. -/
def takeNumber (least most : Nat) (chars : List Char) : Option (Nat × List Char) :=
  let digits := (Decimal.spanDigits (chars.take most)).1
  if least ≤ digits.length then some (Decimal.ofDigits digits, chars.drop digits.length) else none

/-- A given character. -/
def takeMark (mark : Char) : List Char → Option (List Char)
  | char :: rest => if char = mark then some rest else none
  | [] => none

/-- The fraction of a second in nanoseconds: after a point there is at least
one digit, and digits beyond the ninth are passed over. -/
def takeFraction : List Char → Option (Nat × List Char)
  | '.' :: rest =>
      let (digits, rest) := Decimal.spanDigits rest
      if digits.isEmpty then none
      else
        let kept := digits.take 9
        some (Decimal.ofDigits kept * tenTo (9 - kept.length), rest)
  | chars => some (0, chars)

/-- An offset from universal time in seconds: `Z`, or a sign (also the
typographic minus) with hours and minutes, less than a day in all. -/
def takeOffset : List Char → Option (Int × List Char)
  | 'Z' :: rest | 'z' :: rest => some (0, rest)
  | mark :: rest => do
      let negative ← if mark = '+' then some false
        else if mark = '-' ∨ mark = '\u2212' then some true else none
      let (hours, rest) ← takeNumber 2 2 rest
      let rest ← takeMark ':' rest
      let (minutes, rest) ← takeNumber 2 2 rest
      if 23 < hours ∨ 59 < minutes then failure
      let seconds : Int := ((hours * 60 + minutes) * 60 : Nat)
      return (if negative then -seconds else seconds, rest)
  | [] => none

/-- The milliseconds of a date and a clock, where both exist. -/
def checkedMillis (date : Calendar.Date) (clock : Calendar.Clock) (offset : Int) : Option Int :=
  if date.valid && clock.valid then some (Calendar.unixMillis date clock offset) else none

/-- An instant in the fixed-width form with an offset: `2024-01-31T09:30:00Z`.
Between date and time stands `T`, `t` or one blank. -/
def instantMillis? (chars : List Char) : Option Int := do
  let (year, chars) ← takeNumber 4 4 chars
  let chars ← takeMark '-' chars
  let (month, chars) ← takeNumber 2 2 chars
  let chars ← takeMark '-' chars
  let (day, chars) ← takeNumber 2 2 chars
  let chars ← match chars with
    | 'T' :: rest | 't' :: rest | ' ' :: rest => some rest
    | _ => none
  let (hour, chars) ← takeNumber 2 2 chars
  let chars ← takeMark ':' chars
  let (minute, chars) ← takeNumber 2 2 chars
  let chars ← takeMark ':' chars
  let (second, chars) ← takeNumber 2 2 chars
  let (nanosecond, chars) ← takeFraction chars
  let (offset, chars) ← takeOffset chars
  if chars.isEmpty then checkedMillis ⟨year, month, day⟩ ⟨hour, minute, second, nanosecond⟩ offset
  else failure

/-- A text without its leading blanks. -/
def dropBlanks (chars : List Char) : List Char := chars.dropWhile Text.isBlank

/-- A year: four digits at most, or any number of digits after a sign. -/
def takeYear (chars : List Char) : Option (Int × List Char) :=
  match dropBlanks chars with
  | '-' :: rest => (takeNumber 1 rest.length rest).map fun (year, rest) => (-(year : Int), rest)
  | '+' :: rest => (takeNumber 1 rest.length rest).map fun (year, rest) => ((year : Int), rest)
  | chars => (takeNumber 1 4 chars).map fun (year, rest) => ((year : Int), rest)

/-- One or two digits; blanks may stand before them. -/
def takePair (chars : List Char) : Option (Nat × List Char) := takeNumber 1 2 (dropBlanks chars)

/-- A date and a time of day without an offset.  Numbers may be shorter than
their width.  What stands between date and time is given. -/
def localMillis? (separator : List Char → Option (List Char)) (chars : List Char) : Option Int := do
  let (year, chars) ← takeYear chars
  let chars ← takeMark '-' chars
  let (month, chars) ← takePair chars
  let chars ← takeMark '-' chars
  let (day, chars) ← takePair chars
  let chars ← separator chars
  let (hour, chars) ← takePair chars
  let chars ← takeMark ':' chars
  let (minute, chars) ← takePair chars
  let chars ← takeMark ':' chars
  let (second, chars) ← takePair chars
  let (nanosecond, chars) ← takeFraction chars
  if chars.isEmpty then checkedMillis ⟨year, month, day⟩ ⟨hour, minute, second, nanosecond⟩ 0
  else failure

/-- Milliseconds of a text. -/
def textMillis (text : String) : Option Int :=
  let trimmed := Text.trim text
  match Decimal.read? trimmed with
  | some .special => none
  | some (.finite negative value) => (value.toDouble negative).bind numberMillis
  | none =>
      let chars := trimmed.toList
      (instantMillis? chars).or
        ((localMillis? (takeMark 'T') chars).or (localMillis? (fun rest => some rest) chars))

/-! ## Milliseconds of a timestamp -/

/-- Unix milliseconds, where the timestamp can be read. -/
def millis? : Timestamp → Option Int
  | .number value => numberMillis value
  | .text value => textMillis value

/-- Unix milliseconds; a timestamp that cannot be read counts as zero. -/
def millis (timestamp : Timestamp) : Int := timestamp.millis?.getD 0

/-- The number nearest to a count of milliseconds. -/
def ofMillis (millis : Int) : Timestamp := .number ((Double.ofInt millis).getD (Double.zero false))

/-- A timestamp as a JSON value; a number is always a double. -/
def encode : Timestamp → Json
  | .number value => .number (.double value)
  | .text value => .string value

/-- A JSON number or string as a timestamp. -/
def decode? : Json → Option Timestamp
  | .number (.double value) => some (.number value)
  | .number (.integer value) => (Double.ofInt value).map .number
  | .string value => some (.text value)
  | _ => none

theorem decode?_encode (timestamp : Timestamp) : decode? timestamp.encode = some timestamp := by
  cases timestamp <;> rfl

end Timestamp

end SessionSync
