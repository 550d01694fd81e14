import SessionSync.Config.Toml

/-!
# Reading TOML text

The text of a configuration file becomes lines, and the lines become a table.
Lines end with a line feed, which may have a carriage return before it; a
control character is allowed nowhere else than in these and as a tab.
-/

set_option autoImplicit false

namespace SessionSync.Toml

/-! ## Pieces -/

/-- A blank inside a line. -/
def isSpace (char : Char) : Bool := char == ' ' || char == '\t'

/-- Drop blanks inside a line. -/
def skipSpace (text : List Char) : List Char := text.dropWhile isSpace

/-- Whether a character may stand in a comment or in a literal string. -/
def isPlain (char : Char) : Bool := char == '\t' || (' ' ≤ char && char != '\x7f')

/-- The end of a line. -/
def lineEnd? : List Char → Option (List Char)
  | '\n' :: rest => some rest
  | '\r' :: '\n' :: rest => some rest
  | _ => none

/-- A comment, up to the end of its line. -/
def skipComment : List Char → List Char
  | '#' :: rest => rest.dropWhile isPlain
  | text => text

/-- Nothing but blanks and a comment up to the end of the line or of the text. -/
def restOfLine? (text : List Char) : Option (List Char) :=
  match skipComment (skipSpace text) with
  | [] => some []
  | text => lineEnd? text

/-- Blanks, comments and line ends between the parts of an array. -/
def skipGaps : Nat → List Char → List Char
  | 0, text => text
  | fuel + 1, text =>
      let text := skipSpace text
      match lineEnd? text with
      | some rest => skipGaps fuel rest
      | none =>
          match text with
          | '#' :: _ =>
              match lineEnd? (skipComment text) with
              | some rest => skipGaps fuel rest
              | none => text
          | _ => text

/-- The value of a digit in a base up to sixteen. -/
def digitIn? (base : Nat) (char : Char) : Option Nat :=
  let value :=
    if '0' ≤ char ∧ char ≤ '9' then char.toNat - '0'.toNat
    else if 'a' ≤ char ∧ char ≤ 'f' then char.toNat - 'a'.toNat + 10
    else if 'A' ≤ char ∧ char ≤ 'F' then char.toNat - 'A'.toNat + 10
    else 16
  if value < base then some value else none

/-- Digits in a base, with single underscores between them: their values and
the rest. -/
def digits (base : Nat) : List Char → List Nat × List Char
  | '_' :: char :: rest =>
      match digitIn? base char with
      | some value =>
          let (values, rest) := digits base rest
          (value :: values, rest)
      | none => ([], '_' :: char :: rest)
  | char :: rest =>
      match digitIn? base char with
      | some value =>
          let (values, rest) := digits base rest
          (value :: values, rest)
      | none => ([], char :: rest)
  | [] => ([], [])

/-- At least one digit, the first one without an underscore before it. -/
def digits? (base : Nat) (text : List Char) : Option (List Nat × List Char) :=
  match text with
  | '_' :: _ => none
  | text =>
      match digits base text with
      | ([], _) => none
      | found => some found

/-- The number that digits write. -/
def number (base : Nat) (values : List Nat) : Nat :=
  values.foldl (fun total value => base * total + value) 0

/-! ## Strings -/

/-- A character given by hexadecimal digits. -/
def escapedCode? (count : Nat) (text : List Char) : Option (Char × List Char) := do
  let code := text.take count
  let values ← code.mapM (digitIn? 16)
  if values.length < count then failure
  let value := number 16 values
  if h : value.isValidChar then return (Char.ofNatAux value h, text.drop count) else failure

/-- A character after a backslash. -/
def escaped? : List Char → Option (Char × List Char)
  | 'b' :: rest => some ('\x08', rest)
  | 't' :: rest => some ('\t', rest)
  | 'n' :: rest => some ('\n', rest)
  | 'f' :: rest => some ('\x0c', rest)
  | 'r' :: rest => some ('\r', rest)
  | '"' :: rest => some ('"', rest)
  | '\\' :: rest => some ('\\', rest)
  | 'u' :: rest => escapedCode? 4 rest
  | 'U' :: rest => escapedCode? 8 rest
  | _ => none

/-- A string on one line, up to its quotation mark. -/
def basicString : Nat → List Char → Option (List Char × List Char)
  | 0, _ => none
  | fuel + 1, text =>
      match text with
      | '"' :: rest => some ([], rest)
      | '\\' :: rest => do
          let (char, rest) ← escaped? rest
          let (chars, rest) ← basicString fuel rest
          return (char :: chars, rest)
      | char :: rest =>
          if isPlain char then do
            let (chars, rest) ← basicString fuel rest
            return (char :: chars, rest)
          else none
      | [] => none

/-- A literal string on one line, up to its apostrophe. -/
def literalString (text : List Char) : Option (List Char × List Char) :=
  match text.span fun char => isPlain char && char != '\'' with
  | (chars, '\'' :: rest) => some (chars, rest)
  | _ => none

/-- The end of a string of several lines: three marks, before which one or two
marks may belong to the string. -/
def closing? (mark : Char) (text : List Char) : Option (List Char × List Char) :=
  let marks := text.takeWhile fun char => char == mark
  if marks.length < 3 then none
  else
    let own := min (marks.length - 3) 2
    some (List.replicate own mark, text.drop (own + 3))

/-- A string of several lines after its opening; with escapes, a backslash at
the end of a line joins the lines. -/
def longString (mark : Char) (escapes : Bool) : Nat → List Char →
    Option (List Char × List Char)
  | 0, _ => none
  | fuel + 1, text =>
      match closing? mark text with
      | some found => some found
      | none =>
          match lineEnd? text with
          | some rest => do
              let (chars, rest) ← longString mark escapes fuel rest
              return ('\n' :: chars, rest)
          | none =>
              match text with
              | [] => none
              | char :: rest =>
                  if escapes && char == '\\' then
                    match lineEnd? (skipSpace rest) with
                    | some rest =>
                        let isBlank := fun char => isSpace char || char == '\n'
                        let rest := dropJoined isBlank fuel rest
                        longString mark escapes fuel rest
                    | none => do
                        let (char, rest) ← escaped? rest
                        let (chars, rest) ← longString mark escapes fuel rest
                        return (char :: chars, rest)
                  else if isPlain char then do
                    let (chars, rest) ← longString mark escapes fuel rest
                    return (char :: chars, rest)
                  else none
where
  /-- Drop blanks and line ends. -/
  dropJoined (isBlank : Char → Bool) : Nat → List Char → List Char
    | 0, text => text
    | fuel + 1, text =>
        match text with
        | '\r' :: '\n' :: rest => dropJoined isBlank fuel rest
        | char :: rest => if isBlank char then dropJoined isBlank fuel rest else text
        | [] => []

/-- A line end right after the opening of a string of several lines is not part
of it. -/
def dropFirstLineEnd (text : List Char) : List Char := (lineEnd? text).getD text

/-- A string in any of the four forms. -/
def string? (text : List Char) : Option (String × List Char) := do
  let fuel := text.length + 1
  let (chars, rest) ← match text with
    | '"' :: '"' :: '"' :: rest => longString '"' true fuel (dropFirstLineEnd rest)
    | '\'' :: '\'' :: '\'' :: rest => longString '\'' false fuel (dropFirstLineEnd rest)
    | '"' :: rest => basicString fuel rest
    | '\'' :: rest => literalString rest
    | _ => none
  return (String.ofList chars, rest)

/-! ## Keys -/

/-- A key without quotation marks. -/
def isBareKey (char : Char) : Bool := char.isAlphanum || char == '_' || char == '-'

/-- One key. -/
def key? (text : List Char) : Option (String × List Char) :=
  match text with
  | '"' :: rest => (basicString (rest.length + 1) rest).map fun (chars, rest) =>
      (String.ofList chars, rest)
  | '\'' :: rest => (literalString rest).map fun (chars, rest) => (String.ofList chars, rest)
  | text =>
      match text.span isBareKey with
      | ([], _) => none
      | (chars, rest) => some (String.ofList chars, rest)

/-- Arrays and inline tables may be nested this deep, and this many keys may
stand in one path. -/
def depthLimit : Nat := 79

/-- Keys with points between them, blanks around each: the path, the last key
and the rest. -/
def keys? : Nat → List Char → Option (List String × String × List Char)
  | 0, _ => none
  | fuel + 1, text => do
      let (key, rest) ← key? (skipSpace text)
      match skipSpace rest with
      | '.' :: rest => do
          let (path, last, rest) ← keys? fuel rest
          return (key :: path, last, rest)
      | rest => return ([], key, rest)

/-- A path of keys that is not too long. -/
def keyPath (fuel : Nat) (text : List Char) : Option (List String × String × List Char) := do
  let (path, last, rest) ← keys? fuel text
  if path.length < depthLimit then return (path, last, rest) else failure

/-! ## Numbers, dates and times -/

/-- An optional sign. -/
def sign : List Char → Bool × List Char
  | '-' :: rest => (true, rest)
  | '+' :: rest => (false, rest)
  | text => (false, text)

/-- Decimal digits of an integer: no zero before another digit. -/
def wholePart? (text : List Char) : Option (List Nat × List Char) :=
  match text with
  | '0' :: rest => some ([0], rest)
  | text => digits? 10 text

/-- A fraction after its point. -/
def fractionPart? : List Char → Option (List Nat × List Char)
  | '.' :: rest => digits? 10 rest
  | _ => none

/-- An exponent after its mark. -/
def exponentPart? : List Char → Option (Int × List Char)
  | 'e' :: rest | 'E' :: rest => do
      let (negative, rest) := sign rest
      let (values, rest) ← digits? 10 rest
      let size : Int := number 10 values
      return (if negative then -size else size, rest)
  | _ => none

/-- A float: an integer part with a fraction, an exponent or both.  One above
the range of doubles is refused. -/
def float? (text : List Char) : Option (Toml × List Char) := do
  let (negative, rest) := sign text
  let (whole, rest) ← wholePart? rest
  let (fraction, rest) ← match fractionPart? rest with
    | some found => some found
    | none => if (exponentPart? rest).isSome then some ([], rest) else none
  let (exponent, rest) := (exponentPart? rest).getD (0, rest)
  let value : Decimal := ⟨number 10 (whole ++ fraction), exponent - fraction.length⟩
  if (value.toDouble negative).isNone && !negative then failure
  return (.float, rest)

/-- An infinity or "not a number". -/
def specialFloat? (text : List Char) : Option (Toml × List Char) :=
  match (sign text).2 with
  | 'i' :: 'n' :: 'f' :: rest | 'n' :: 'a' :: 'n' :: rest => some (.float, rest)
  | _ => none

/-- An integer that fits 64 bits with a sign. -/
def integer? (text : List Char) : Option (Toml × List Char) := do
  let fit := fun (value : Int) (rest : List Char) =>
    if signedMin ≤ value ∧ value ≤ signedMax then some (Toml.integer value, rest) else none
  let based := fun (base : Nat) (rest : List Char) => do
    let (values, rest) ← digits? base rest
    fit (number base values) rest
  match text with
  | '0' :: 'x' :: rest => based 16 rest
  | '0' :: 'o' :: rest => based 8 rest
  | '0' :: 'b' :: rest => based 2 rest
  | text => do
      let (negative, rest) := sign text
      let (values, rest) ← wholePart? rest
      let size : Int := number 10 values
      fit (if negative then -size else size) rest

/-- A number of exactly `count` digits in a range. -/
def fixed? (count least most : Nat) (text : List Char) : Option (Nat × List Char) := do
  let values ← (text.take count).mapM (digitIn? 10)
  let value := number 10 values
  if values.length = count ∧ least ≤ value ∧ value ≤ most then
    some (value, text.drop count)
  else none

/-- A given character. -/
def mark? (mark : Char) : List Char → Option (List Char)
  | char :: rest => if char == mark then some rest else none
  | [] => none

/-- A date that exists. -/
def date? (text : List Char) : Option (List Char) := do
  let (year, rest) ← fixed? 4 0 9999 text
  let rest ← mark? '-' rest
  let (month, rest) ← fixed? 2 1 12 rest
  let rest ← mark? '-' rest
  let (day, rest) ← fixed? 2 1 31 rest
  if day ≤ Calendar.monthLength year month then return rest else failure

/-- A time of day. -/
def time? (text : List Char) : Option (List Char) := do
  let (_, rest) ← fixed? 2 0 23 text
  let rest ← mark? ':' rest
  let (_, rest) ← fixed? 2 0 59 rest
  let rest ← mark? ':' rest
  let (_, rest) ← fixed? 2 0 60 rest
  match rest with
  | '.' :: fraction =>
      match fraction.span Char.isDigit with
      | ([], _) => return rest
      | (_, rest) => return rest
  | rest => return rest

/-- An offset from universal time. -/
def offset? : List Char → Option (List Char)
  | 'Z' :: rest | 'z' :: rest => some rest
  | '+' :: rest | '-' :: rest => do
      let (_, rest) ← fixed? 2 0 23 rest
      let rest ← mark? ':' rest
      let (_, rest) ← fixed? 2 0 59 rest
      return rest
  | _ => none

/-- A date, a time, or both, the latter perhaps with an offset. -/
def datetime? (text : List Char) : Option (Toml × List Char) :=
  match date? text with
  | some rest =>
      let timed := match rest with
        | 'T' :: more | 't' :: more | ' ' :: more => time? more
        | _ => none
      match timed with
      | some more => some (.datetime, (offset? more).getD more)
      | none => some (.datetime, rest)
  | none => (time? text).map fun rest => (.datetime, rest)

/-! ## Values -/

/-- A value, the elements of an array, or the pairs of an inline table. -/
inductive Task where
  | value
  | elements (read : List Toml)
  | pairs (read : List (List String × String × Toml))

/-- A value that is no array and no inline table. -/
def scalar? (text : List Char) : Option (Toml × List Char) :=
  match text with
  | '"' :: _ | '\'' :: _ => (string? text).map fun (value, rest) => (.string value, rest)
  | 't' :: 'r' :: 'u' :: 'e' :: rest => some (.bool true, rest)
  | 'f' :: 'a' :: 'l' :: 's' :: 'e' :: rest => some (.bool false, rest)
  | text =>
      (datetime? text).or ((float? text).or ((specialFloat? text).or (integer? text)))

/-- Read a value, or go on with a container that is open. -/
def read? : Nat → Nat → Task → List Char → Option (Toml × List Char)
  | 0, _, _, _ => none
  | fuel + 1, room, .value, text =>
      match text with
      | '[' :: rest => if room = 0 then none else read? fuel (room - 1) (.elements []) rest
      | '\x7b' :: rest =>
          if room = 0 then none
          else
            match skipSpace rest with
            | '\x7d' :: rest => some (.inlineTable .opened [], rest)
            | rest => read? fuel (room - 1) (.pairs []) rest
      | text => scalar? text
  | fuel + 1, room, .elements read, text =>
      match skipGaps fuel text with
      | ']' :: rest => some (.array read.reverse, rest)
      | text => do
          let (element, rest) ← read? fuel room .value text
          match skipGaps fuel rest with
          | ',' :: rest => read? fuel room (.elements (element :: read)) rest
          | ']' :: rest => return (.array (element :: read).reverse, rest)
          | _ => none
  | fuel + 1, room, .pairs read, text => do
      let (path, key, rest) ← keyPath fuel text
      let rest ← mark? '=' rest
      let (value, rest) ← read? fuel room .value (skipSpace rest)
      let read := (path, key, value) :: read
      match skipSpace rest with
      | ',' :: rest => read? fuel room (.pairs read) (skipSpace rest)
      | '\x7d' :: rest => do return (← inlineOf read.reverse, rest)
      | _ => none

/-! ## Documents -/

/-- The line of a key and its value. -/
def assignment? (fuel : Nat) (text : List Char) : Option (Line × List Char) := do
  let (path, key, rest) ← keyPath fuel text
  let rest ← mark? '=' rest
  let (value, rest) ← read? fuel depthLimit .value (skipSpace rest)
  return (.assign path key value, ← restOfLine? rest)

/-- A header. -/
def header? (fuel : Nat) (text : List Char) : Option (Line × List Char) :=
  match text with
  | '[' :: '[' :: rest => do
      let (path, key, rest) ← keyPath fuel rest
      let rest ← mark? ']' rest
      let rest ← mark? ']' rest
      return (.listHeader path key, ← restOfLine? rest)
  | '[' :: rest => do
      let (path, key, rest) ← keyPath fuel rest
      let rest ← mark? ']' rest
      return (.header path key, ← restOfLine? rest)
  | _ => none

/-- The lines of a text. -/
def lines : Nat → List Char → Option (List Line)
  | 0, _ => none
  | fuel + 1, text =>
      match skipSpace text with
      | [] => some []
      | text =>
          match lineEnd? text with
          | some rest => lines fuel rest
          | none =>
              match text with
              | '#' :: _ => do lines fuel (← restOfLine? text)
              | '[' :: _ => do
                  let (line, rest) ← header? text.length text
                  return line :: (← lines fuel rest)
              | text => do
                  let (line, rest) ← assignment? (text.length + 1) text
                  return line :: (← lines fuel rest)

/-- The table of a whole text; a byte order mark may stand at its start. -/
def document? (text : String) : Option Entries := do
  let chars := match text.toList with
    | '\ufeff' :: rest => rest
    | chars => chars
  ofLines (← lines (chars.length + 1) chars)

end SessionSync.Toml
