import SessionSync.Text.Blank

/-!
# Setting up the log

A filter says what is logged.  It is a list of directives with commas between
them; a directive is a level for everything, or a target with or without a level,
or one about a span.  For a message the directive with the longest target that
begins the message's target counts.

The filter comes from the program's own variable of the environment, else from the
general one, else it is built in; a filter that cannot be read is passed over.
-/

set_option autoImplicit false

namespace SessionSync.CommandLine

/-- Up to which level something is logged. -/
inductive LogLevel where
  | off
  | error
  | warn
  | info
  | debug
  | trace
  deriving DecidableEq, Repr

namespace LogLevel

/-- The levels in order. -/
def all : List LogLevel := [.off, .error, .warn, .info, .debug, .trace]

/-- The word for a level. -/
def name : LogLevel → String
  | .off => "off"
  | .error => "error"
  | .warn => "warn"
  | .info => "info"
  | .debug => "debug"
  | .trace => "trace"

/-- The number of a level. -/
def rank : LogLevel → Nat
  | .off => 0
  | .error => 1
  | .warn => 2
  | .info => 3
  | .debug => 4
  | .trace => 5

/-- A level by its word, in letters of either case, or by its number. -/
def ofText? (text : String) : Option LogLevel :=
  all.find? fun level => level.name == text.toLower || toString level.rank == text

end LogLevel

/-- A directive of a filter. -/
structure LogDirective where
  target : Option String
  /-- The directive is about what happens in certain spans. -/
  inSpans : Bool
  level : LogLevel
  deriving DecidableEq, Repr

namespace LogDirective

/-- Whether a target can begin with a character; every character beyond the basic
ones is taken for a letter. -/
def canBegin (char : Char) : Bool :=
  char.isAlphanum || 0x7F < char.toNat || ['-', ':', '_'].contains char

/-- The level after a target or a span; without one everything is logged. -/
def levelAfter? : List Char → Option LogLevel
  | [] | ['='] => some .trace
  | '=' :: level => LogLevel.ofText? (String.ofList level)
  | _ => none

/-- What follows the opening bracket of a span: a name, perhaps with fields in
braces, the closing bracket, and perhaps a level. -/
def spanLevel? (text : List Char) : Option LogLevel :=
  match text.dropWhile fun char => char != ']' && char != '\x7b' with
  | ']' :: rest => levelAfter? rest
  | '\x7b' :: fields =>
      let named := fields.takeWhile fun char => char != '\x7d'
      match named, fields.drop named.length with
      | _ :: _, '\x7d' :: ']' :: rest => levelAfter? rest
      | _, _ => none
  | _ => none

/-- A directive from its text. -/
def ofText? (text : String) : Option LogDirective :=
  let name := text.toList.takeWhile fun char => char != '=' && char != '['
  let target := if name.isEmpty then none else some (String.ofList name)
  let begins := name.head?.all canBegin
  match text.toList.drop name.length with
  | [] =>
      match LogLevel.ofText? text with
      | some level => some { target := none, inSpans := false, level }
      | none =>
          if begins && target.isSome then some { target, inSpans := false, level := .trace }
          else none
  | '[' :: span =>
      if begins then (spanLevel? span).map fun level => { target, inSpans := true, level }
      else none
  | rest =>
      if begins && target.isSome then
        (levelAfter? rest).map fun level => { target, inSpans := false, level }
      else none

end LogDirective

/-- The directives of a filter; empty ones do not count. -/
def logDirectives? (filter : String) : Option (List LogDirective) :=
  ((filter.splitOn ",").filter fun text => !text.isEmpty).mapM LogDirective.ofText?

namespace LogDirective

/-- Whether a directive is about what happens outside of spans under a target. -/
def concerns (target : String) (directive : LogDirective) : Bool :=
  !directive.inSpans && target.startsWith (directive.target.getD "")

/-- How closely a directive names its target. -/
def reach (directive : LogDirective) : Nat := (directive.target.map String.length).getD 0

/-- The directive that counts for a target: the last of those that name it most
closely. -/
def governing (target : String) (directives : List LogDirective) : Option LogDirective :=
  (directives.filter (concerns target)).foldl
    (fun best directive =>
      match best with
      | some previous => if previous.reach ≤ directive.reach then some directive else best
      | none => some directive)
    none

end LogDirective

/-- The level up to which directives log what happens outside of spans under a
target.  Without any directive only errors are logged. -/
def logLevelFor (target : String) (directives : List LogDirective) : LogLevel :=
  match LogDirective.governing target directives with
  | some directive => directive.level
  | none => if directives.isEmpty then .error else .off

/-- How lines of the log are written. -/
inductive LogFormat where
  | json
  | pretty
  deriving DecidableEq, Repr

namespace LogFormat

/-- The word for a format. -/
def name : LogFormat → String
  | .json => "json"
  | .pretty => "pretty"

/-- The format that the environment asks for; blanks around it and the case of its
letters do not matter. -/
def ofEnvironment (value : Option String) : LogFormat :=
  if value.any fun text => (Text.trim text).toLower == LogFormat.pretty.name then .pretty
  else .json

end LogFormat

/-- How the program logs. -/
structure Logging where
  format : LogFormat
  filter : String
  deriving DecidableEq, Repr

namespace Logging

/-- The filter that is built in. -/
def defaultFilter (verbose : Bool) : String :=
  let own := if verbose then "legion_client=debug,legion_cli=debug," else ""
  "info," ++ own ++ "hyper=warn,reqwest=warn,tungstenite=warn"

/-- Whether a filter counts: it is more than blanks and can be read. -/
def isUsable (filter : String) : Bool :=
  !(Text.trim filter).isEmpty && (logDirectives? filter).isSome

/-- How the program logs in an environment. -/
def ofEnvironment (environment : String → Option String) (verbose : Bool) : Logging :=
  let filters := ["LEGION_LOG_FILTER", "RUST_LOG"].filterMap environment
  { format := .ofEnvironment (environment "LEGION_LOG_FORMAT")
    filter := (filters.find? isUsable).getD (defaultFilter verbose) }

/-- The target of the first message. -/
def firstTarget : String := "legion_client::logging"

/-- Whether the first message, which says how the program logs, is logged. -/
def announces (logging : Logging) : Bool :=
  LogLevel.info.rank ≤ (logLevelFor firstTarget ((logDirectives? logging.filter).getD [])).rank

end Logging

end SessionSync.CommandLine
