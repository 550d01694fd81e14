/-!
# Words on a command line

A command line is read word by word.  A level of it has options, operands and,
perhaps, commands, each of which opens a level of its own.  An option with a value
takes it from its own word, after an equals sign, or from the next one.  After a
word of two hyphens everything is an operand.

Reading stops at the first word that is out of place, and at a request for help or
for the version.
-/

set_option autoImplicit false

namespace SessionSync.CommandLine

/-- What an option is for. -/
inductive OptionUse where
  /-- The option is there or not. -/
  | flag
  /-- The option has a value, which may have to be more than the empty text. -/
  | value (mayBeEmpty : Bool)
  | help
  | version
  deriving DecidableEq, Repr

/-- An option: its name, for one without a value perhaps a letter, and its use. -/
structure OptionRule where
  name : String
  letter : Option Char := none
  use : OptionUse
  deriving DecidableEq, Repr

/-- What can stand on a level of a command line. -/
structure Grammar where
  options : List OptionRule
  /-- At most so many operands. -/
  operands : Nat := 0
  commands : List String := []
  deriving DecidableEq, Repr

/-- Why reading stops before the end. -/
inductive Halt where
  /-- A word is missing or out of place. -/
  | misuse
  | help
  | version
  deriving DecidableEq, Repr

/-- What was read of a level. -/
structure Given where
  /-- The options with their values; the value of a flag is empty. -/
  options : List (String × String)
  operands : List String
  deriving DecidableEq, Repr

namespace Given

/-- The value of an option. -/
def value? (given : Given) (name : String) : Option String := given.options.lookup name

/-- Whether an option was given. -/
def has (given : Given) (name : String) : Bool := (given.value? name).isSome

end Given

/-- A reader on a level: what it has read, the option whose value comes next, and
whether only operands can follow. -/
structure LevelReader where
  given : Given
  pending : Option OptionRule
  onlyOperands : Bool
  deriving DecidableEq, Repr

namespace LevelReader

/-- A reader that has read nothing. -/
def start : LevelReader := { given := ⟨[], []⟩, pending := none, onlyOperands := false }

/-- Note an option; none can be given twice on a level. -/
def note (reader : LevelReader) (rule : OptionRule) (value : String) : Except Halt LevelReader :=
  if reader.given.has rule.name || (value.isEmpty && rule.use == .value false) then .error .misuse
  else
    let given := { reader.given with options := reader.given.options ++ [(rule.name, value)] }
    .ok { reader with given, pending := none }

/-- Use an option without a value. -/
def useOption (reader : LevelReader) (rule : OptionRule) : Except Halt LevelReader :=
  match rule.use with
  | .flag => reader.note rule ""
  | .value _ => .ok { reader with pending := some rule }
  | .help => .error .help
  | .version => .error .version

/-- Read a word that begins with two hyphens, given without them. -/
def takeName (grammar : Grammar) (reader : LevelReader) (word : List Char) :
    Except Halt LevelReader :=
  let name := String.ofList (word.takeWhile fun char => char != '=')
  match grammar.options.find? fun rule => rule.name == name with
  | none => .error .misuse
  | some rule =>
      match word.dropWhile fun char => char != '=' with
      | [] => reader.useOption rule
      | _ :: value =>
          match rule.use with
          | .value _ => reader.note rule (String.ofList value)
          | _ => .error .misuse

/-- Read a word that begins with one hyphen, given without it: every character is
the letter of an option. -/
def takeLetters (grammar : Grammar) (reader : LevelReader) (letters : List Char) :
    Except Halt LevelReader :=
  letters.foldlM
    (fun reader letter =>
      match grammar.options.find? fun rule => rule.letter == some letter with
      | some rule => reader.useOption rule
      | none => .error .misuse)
    reader

/-- Read a word that is no option: the value that is missing, or an operand. -/
def takePlain (grammar : Grammar) (reader : LevelReader) (word : String) :
    Except Halt LevelReader :=
  match reader.pending with
  | some rule => reader.note rule word
  | none =>
      let given := reader.given
      if given.operands.length < grammar.operands then
        .ok { reader with given := { given with operands := given.operands ++ [word] } }
      else .error .misuse

/-- Read a word.  An option cannot be the value of another one. -/
def take (grammar : Grammar) (reader : LevelReader) (word : String) : Except Halt LevelReader :=
  if reader.onlyOperands then reader.takePlain grammar word
  else
    match word.toList with
    | '-' :: second :: rest =>
        if reader.pending.isSome then .error .misuse
        else if second != '-' then reader.takeLetters grammar (second :: rest)
        else if rest.isEmpty then .ok { reader with onlyOperands := true }
        else reader.takeName grammar rest
    | _ => reader.takePlain grammar word

/-- Whether a word is a command here. -/
def opens (grammar : Grammar) (reader : LevelReader) (word : String) : Bool :=
  !reader.onlyOperands && reader.pending.isNone && grammar.commands.contains word

end LevelReader

/-- Read a level up to a command: what was given before it, the command, and the
words after it. -/
def Grammar.read (grammar : Grammar) (reader : LevelReader) :
    List String → Except Halt (Given × Option (String × List String))
  | [] => if reader.pending.isSome then .error .misuse else .ok (reader.given, none)
  | word :: rest =>
      if reader.opens grammar word then .ok (reader.given, some (word, rest))
      else do grammar.read (← reader.take grammar word) rest

end SessionSync.CommandLine
