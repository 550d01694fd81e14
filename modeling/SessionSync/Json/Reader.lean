import SessionSync.Json.Basic

/-!
# Reading JSON text

A text is cut into tokens, and tokens are put together into a value.

Number text is read in two steps.  The leading digits that fit 64 bits are the
significand, and the point and the exponent say by which power of ten it has to
be scaled.  A plain integer that fits 64 bits stays an integer.  Everything
else becomes a double: the significand is rounded to a double and then scaled
with one more rounding (two for tiny numbers).  A double beyond the finite
range makes the text unreadable.

A reader that knows which members it wants (`Shape`) passes over the others:
a member that is passed over only has to be well formed, it may be nested to
any depth, hold numbers of any size and escapes of unpaired surrogates.
-/

set_option autoImplicit false

namespace SessionSync.Json

/-! ## Numbers -/

/-- A number as written. -/
structure Literal where
  negative : Bool
  whole : List Char
  fraction : List Char
  /-- The exponent; `none` where the number has no exponent mark. -/
  exponent : Option Int
  deriving DecidableEq, Repr

namespace Literal

/-- Append digits to a significand for as long as it fits 64 bits; the digits
that were left over come second. -/
def takeDigits (significand : Nat) : List Char → Nat × List Char
  | [] => (significand, [])
  | char :: rest =>
      let next := 10 * significand + (Decimal.digitValue? char).getD 0
      if next ≤ wordMax then takeDigits next rest else (significand, char :: rest)

/-- A power of ten as a double. -/
def powerOfTen (exponent : Nat) : Option Double := Decimal.toDouble false ⟨1, exponent⟩

/-- Scale a double by a power of ten, rounding once; below `10 ^ (-308)` the
scaling is done in two steps. -/
def scale (value : Double) (exponent : Int) : Option Double := do
  if value.isZero then return value
  if 308 < exponent then failure
  if 0 ≤ exponent then return (← value.mul (← powerOfTen exponent.toNat))
  if -308 ≤ exponent then return (← value.div (← powerOfTen exponent.natAbs))
  if exponent < -616 then return Double.zero false
  let smaller ← value.div (← powerOfTen 308)
  smaller.div (← powerOfTen (exponent.natAbs - 308))

/-- The double that a significand and a power of ten stand for. -/
def doubleOf (negative : Bool) (significand : Nat) (exponent : Int) : Option Double := do
  let value ← scale (← Double.ofInt significand) exponent
  return if negative then value.neg else value

/-- The number a literal stands for, `none` beyond the range of doubles. -/
def number? (literal : Literal) : Option Number := do
  let (significand, unread) := takeDigits 0 literal.whole
  match literal.fraction, literal.exponent, unread with
  | [], none, [] =>
      if literal.negative then
        if significand = 0 ∨ twoTo 63 < significand then
          return .double (← doubleOf true significand 0)
        else return .integer (-(significand : Int))
      else return .integer significand
  | fraction, exponent, unread =>
      let (significand, skipped) := takeDigits significand fraction
      let places : Int := (unread.length : Int) - ((fraction.length : Int) - skipped.length)
      return .double (← doubleOf literal.negative significand (places + exponent.getD 0))

end Literal

/-! ## Tokens -/

/-- A piece of JSON text. -/
inductive Token where
  | openArray | closeArray | openObject | closeObject | comma | colon
  | null
  | bool (value : Bool)
  | number (literal : Literal)
  /-- A string; `none` where it escapes an unpaired surrogate. -/
  | string (value : Option String)
  deriving DecidableEq, Repr

/-- The blanks between tokens. -/
def isGap (char : Char) : Bool := char == ' ' || char == '\n' || char == '\t' || char == '\r'

/-- The value of a hexadecimal digit. -/
def hexValue? (char : Char) : Option Nat :=
  if '0' ≤ char ∧ char ≤ '9' then some (char.toNat - '0'.toNat)
  else if 'a' ≤ char ∧ char ≤ 'f' then some (char.toNat - 'a'.toNat + 10)
  else if 'A' ≤ char ∧ char ≤ 'F' then some (char.toNat - 'A'.toNat + 10)
  else none

/-- The value of four hexadecimal digits. -/
def hexUnit? (a b c d : Char) : Option Nat := do
  return (((← hexValue? a) * 16 + (← hexValue? b)) * 16 + (← hexValue? c)) * 16 + (← hexValue? d)

/-- What a string holds before surrogates are paired: characters and 16-bit
units. -/
inductive Piece where
  | char (value : Char)
  | unit (value : Nat)
  deriving DecidableEq, Repr

/-- The pieces of a string up to its closing quotation mark, and the text after
it.  A control below U+0020 and an unknown escape are refused. -/
def stringPieces : List Char → Option (List Piece × List Char)
  | [] => none
  | '"' :: rest => some ([], rest)
  | '\\' :: 'u' :: a :: b :: c :: d :: rest => do
      let unit ← hexUnit? a b c d
      let (pieces, rest) ← stringPieces rest
      return (.unit unit :: pieces, rest)
  | '\\' :: mark :: rest => do
      let char ← match mark with
        | '"' => some '"'
        | '\\' => some '\\'
        | '/' => some '/'
        | 'b' => some '\x08'
        | 'f' => some '\x0c'
        | 'n' => some '\n'
        | 'r' => some '\r'
        | 't' => some '\t'
        | _ => none
      let (pieces, rest) ← stringPieces rest
      return (.char char :: pieces, rest)
  | char :: rest =>
      if char.toNat < 0x20 ∨ char = '\\' then none
      else do
        let (pieces, rest) ← stringPieces rest
        return (.char char :: pieces, rest)

/-- The characters of pieces: a leading surrogate has to be followed by a
trailing one, and no trailing one stands alone. -/
def pairSurrogates : List Piece → Option (List Char)
  | [] => some []
  | .char char :: rest => do return char :: (← pairSurrogates rest)
  | .unit unit :: rest =>
      if 0xD800 ≤ unit ∧ unit ≤ 0xDBFF then
        match rest with
        | .unit trail :: rest =>
            if 0xDC00 ≤ trail ∧ trail ≤ 0xDFFF then do
              let char := Char.ofNat (0x10000 + (unit - 0xD800) * 0x400 + (trail - 0xDC00))
              return char :: (← pairSurrogates rest)
            else none
        | _ => none
      else if 0xDC00 ≤ unit ∧ unit ≤ 0xDFFF then none
      else do return Char.ofNat unit :: (← pairSurrogates rest)

/-- A number after its sign: no leading zero before another digit, a digit on
each side of a point, and a digit in every exponent. -/
def literal? (negative : Bool) (text : List Char) : Option (Literal × List Char) := do
  let (whole, rest) := Decimal.spanDigits text
  match whole with
  | [] => failure
  | ['0'] => pure ()
  | '0' :: _ => failure
  | _ => pure ()
  let (fraction, rest) ← match rest with
    | '.' :: rest =>
        match Decimal.spanDigits rest with
        | ([], _) => none
        | found => some found
    | _ => some ([], rest)
  match rest with
  | 'e' :: rest | 'E' :: rest =>
      let (down, rest) := Decimal.spanSign rest
      match Decimal.spanDigits rest with
      | ([], _) => failure
      | (digits, rest) =>
          let size : Int := Decimal.ofDigits digits
          return (⟨negative, whole, fraction, some (if down then -size else size)⟩, rest)
  | _ => return (⟨negative, whole, fraction, none⟩, rest)

/-- The first token of a text that does not start with a gap. -/
def token? : List Char → Option (Token × List Char)
  | '[' :: rest => some (.openArray, rest)
  | ']' :: rest => some (.closeArray, rest)
  | '\x7b' :: rest => some (.openObject, rest)
  | '\x7d' :: rest => some (.closeObject, rest)
  | ',' :: rest => some (.comma, rest)
  | ':' :: rest => some (.colon, rest)
  | 'n' :: 'u' :: 'l' :: 'l' :: rest => some (.null, rest)
  | 't' :: 'r' :: 'u' :: 'e' :: rest => some (.bool true, rest)
  | 'f' :: 'a' :: 'l' :: 's' :: 'e' :: rest => some (.bool false, rest)
  | '"' :: rest => do
      let (pieces, rest) ← stringPieces rest
      return (.string ((pairSurrogates pieces).map String.ofList), rest)
  | '-' :: rest => do
      let (literal, rest) ← literal? true rest
      return (.number literal, rest)
  | text => do
      let (literal, rest) ← literal? false text
      return (.number literal, rest)

/-- The tokens of a text.  Each takes at least one character, so a text has at
most as many tokens as characters. -/
def tokens (text : List Char) : Option (List Token) :=
  go (text.length + 1) text
where
  /-- Read at most `fuel` tokens. -/
  go : Nat → List Char → Option (List Token)
    | 0, _ => none
    | fuel + 1, text =>
        match text.dropWhile isGap with
        | [] => some []
        | text => do
            let (token, rest) ← token? text
            return token :: (← go fuel rest)

/-! ## Values -/

/-- How much of a document a reader wants. -/
inductive Shape where
  /-- Everything. -/
  | whole
  /-- Nothing: the value only has to be well formed. -/
  | nothing
  /-- The named members of an object, or the elements of an array in the same
  order; all other members of the object in one shape. -/
  | record (members : List (String × Shape)) (others : Shape)
  /-- Every element of an array, in one shape. -/
  | each (element : Shape)
  /-- Every member of an object, in one shape. -/
  | table (value : Shape)

namespace Shape

/-- The shape in which a member of an object is wanted. -/
def member (shape : Shape) (key : String) : Shape :=
  match shape with
  | .record members others =>
      ((members.find? fun member => member.1 == key).map Prod.snd).getD others
  | .table value => value
  | .nothing => .nothing
  | .whole | .each _ => .whole

/-- The shape in which an element of an array is wanted. -/
def element (shape : Shape) (index : Nat) : Shape :=
  match shape with
  | .record members _ => (members[index]?.map Prod.snd).getD .whole
  | .each element => element
  | .nothing => .nothing
  | .whole | .table _ => .whole

/-- Whether the value is passed over. -/
def skips : Shape → Bool
  | .nothing => true
  | _ => false

end Shape

/-- Containers may be nested this deep in what a reader wants. -/
def depthLimit : Nat := 127

/-- Reading an array, an object or a value of either kind is one of three
tasks. -/
inductive Task where
  | value (shape : Shape)
  | elements (shape : Shape) (read : List Json)
  | members (shape : Shape) (read : List (String × Json))

/-- Put tokens together into a value, with `room` for further nesting.  Each
step takes a token or starts a container whose first token it looks at, so
twice as many steps as tokens suffice. -/
def assemble : Nat → Nat → Task → List Token → Option (Json × List Token)
  | 0, _, _, _ => none
  | fuel + 1, room, .value shape, tokens =>
      match tokens with
      | .null :: rest => some (.null, rest)
      | .bool value :: rest => some (.bool value, rest)
      | .string (some value) :: rest => some (.string value, rest)
      | .string none :: rest => if shape.skips then some (.null, rest) else none
      | .number literal :: rest =>
          if shape.skips then some (.null, rest)
          else literal.number?.map fun value => (.number value, rest)
      | .openArray :: .closeArray :: rest =>
          if room = 0 ∧ !shape.skips then none else some (.array [], rest)
      | .openArray :: rest =>
          if room = 0 ∧ !shape.skips then none
          else assemble fuel (room - 1) (.elements shape []) rest
      | .openObject :: .closeObject :: rest =>
          if room = 0 ∧ !shape.skips then none else some (.object [], rest)
      | .openObject :: rest =>
          if room = 0 ∧ !shape.skips then none
          else assemble fuel (room - 1) (.members shape []) rest
      | _ => none
  | fuel + 1, room, .elements shape read, tokens => do
      let (element, rest) ← assemble fuel room (.value (shape.element read.length)) tokens
      match rest with
      | .comma :: rest => assemble fuel room (.elements shape (element :: read)) rest
      | .closeArray :: rest => return (.array (element :: read).reverse, rest)
      | _ => none
  | fuel + 1, room, .members shape read, tokens => do
      let (key, rest) ← match tokens with
        | .string key :: .colon :: rest => some (key, rest)
        | _ => none
      if key.isNone && !shape.skips then failure
      let inner := shape.member (key.getD "")
      let (value, rest) ← assemble fuel room (.value inner) rest
      let read := if inner.skips then read else (key.getD "", value) :: read
      match rest with
      | .comma :: rest => assemble fuel room (.members shape read) rest
      | .closeObject :: rest => return (.object read.reverse, rest)
      | _ => none

/-- Read a whole text, wanting a given shape; objects keep their members as
written. -/
def readShape? (shape : Shape) (text : String) : Option Json := do
  let tokens ← tokens text.toList
  let (value, rest) ← assemble (2 * tokens.length + 1) depthLimit (.value shape) tokens
  if rest.isEmpty then return value else failure

/-- Read a whole text as it is written. -/
def readRaw? (text : String) : Option Json := readShape? .whole text

/-- Read a whole text as the value it stands for. -/
def read? (text : String) : Option Json := (readRaw? text).map Json.normal

end SessionSync.Json
