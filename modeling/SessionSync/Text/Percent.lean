/-!
# Percent encoding

Some bytes of a text's UTF-8 form stand for themselves; every other byte is
written as a percent sign and two hexadecimal digits in upper case.  In one
segment of a path ASCII letters, digits and `-`, `.`, `_`, `~` stand for
themselves.
-/

set_option autoImplicit false

namespace SessionSync.Text

/-- The bytes that stand for themselves. -/
def isUnreserved (byte : UInt8) : Bool :=
  let char := Char.ofNat byte.toNat
  (byte < 128) && (char.isAlphanum || char == '-' || char == '.' || char == '_' || char == '~')

/-- A hexadecimal digit in upper case. -/
def upperHexDigit (value : Nat) : Char :=
  if value < 10 then Char.ofNat ('0'.toNat + value) else Char.ofNat ('A'.toNat + (value - 10))

/-- One byte of a text, where `plain` bytes stand for themselves. -/
def percentByte (plain : UInt8 → Bool) (byte : UInt8) : List Char :=
  if plain byte then [Char.ofNat byte.toNat]
  else ['%', upperHexDigit (byte.toNat / 16), upperHexDigit (byte.toNat % 16)]

/-- A text in which only the plain bytes stand for themselves. -/
def percentEncodeWith (plain : UInt8 → Bool) (text : String) : String :=
  String.ofList (text.toUTF8.toList.flatMap (percentByte plain))

/-- A text as one segment of a path. -/
def percentEncode (text : String) : String := percentEncodeWith isUnreserved text

end SessionSync.Text
