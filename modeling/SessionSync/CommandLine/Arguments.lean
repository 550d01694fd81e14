import SessionSync.CommandLine.Grammar

/-!
# The arguments of the program

What the words of a command line ask for.  The general options may stand before
the command and after it; where both places give one, the later place counts.
-/

set_option autoImplicit false

namespace SessionSync.CommandLine

/-- What the program is asked to do. -/
inductive Task where
  | listSessions
  /-- Show what happens to a session, as lines for a reader or as events. -/
  | watch (sessionId : String) (asEvents : Bool)
  | send (sessionId content : String)
  /-- Answer a request for permission. -/
  | respond (sessionId requestId : String) (allow deny : Bool)
      (reason clarification : Option String)
  | interrupt (sessionId : String)
  deriving DecidableEq, Repr

/-- The arguments of the program. -/
structure Arguments where
  configPath : Option String
  dataDirectory : Option String
  baseUrl : Option String
  verbose : Bool
  task : Task
  deriving DecidableEq, Repr

namespace Arguments

/-- The options that every level knows. -/
def generalOptions : List OptionRule :=
  [{ name := "config", use := .value false },
    { name := "data-dir", use := .value false },
    { name := "base-url", use := .value true },
    { name := "verbose", letter := some 'v', use := .flag },
    { name := "help", letter := some 'h', use := .help }]

/-- A command's level: its operands, its flags and its options with a value. -/
def level (operands : Nat) (flags values : List String) : Grammar :=
  { operands
    options := generalOptions ++ (flags.map fun name => { name, use := .flag }) ++
      (values.map fun name => { name, use := .value true }) }

/-- The level of a command. -/
def commandLevel? : String → Option Grammar
  | "sessions" => some (level 0 [] [])
  | "watch" => some (level 1 ["json"] [])
  | "send" => some (level 2 [] [])
  | "respond" => some (level 2 ["allow", "deny"] ["reason", "clarification"])
  | "interrupt" => some (level 1 [] [])
  | _ => none

/-- The commands. -/
def commands : List String := ["sessions", "watch", "send", "respond", "interrupt", "help"]

/-- The level before the command. -/
def topLevel : Grammar :=
  { options := generalOptions ++ [{ name := "version", letter := some 'V', use := .version }]
    commands }

/-- What a command with its operands and options asks for.  Every operand has to
be there, and nobody can allow and deny at once. -/
def task? (command : String) (given : Given) : Option Task :=
  match command, given.operands with
  | "sessions", [] => some .listSessions
  | "watch", [sessionId] => some (.watch sessionId (given.has "json"))
  | "send", [sessionId, content] => some (.send sessionId content)
  | "respond", [sessionId, requestId] =>
      if given.has "allow" && given.has "deny" then none
      else some (.respond sessionId requestId (given.has "allow") (given.has "deny")
        (given.value? "reason") (given.value? "clarification"))
  | "interrupt", [sessionId] => some (.interrupt sessionId)
  | _, _ => none

/-- Whether the environment's data directory can be read: an empty one is in the
way wherever a level gives none itself. -/
def acceptsDirectory (environment : Option String) (before after : Given) : Bool :=
  environment != some "" || (before.has "data-dir" && after.has "data-dir")

/-- The arguments in the words of a command line.  The environment may give the
data directory. -/
def read (environment : Option String) (words : List String) : Except Halt Arguments := do
  match ← topLevel.read .start words with
  | (_, none) => .error .misuse
  | (before, some (command, rest)) =>
      match commandLevel? command with
      | none =>
          let named := rest.all commands.contains && rest.length ≤ 1
          .error (if named then .help else .misuse)
      | some grammar =>
          let (after, _) ← grammar.read .start rest
          let value? := fun name => (after.value? name).or (before.value? name)
          match task? command after with
          | some task =>
              if acceptsDirectory environment before after then
                .ok {
                  configPath := value? "config"
                  dataDirectory := (value? "data-dir").or environment
                  baseUrl := value? "base-url"
                  verbose := before.has "verbose" || after.has "verbose"
                  task }
              else .error .misuse
          | none => .error .misuse

end Arguments

end SessionSync.CommandLine
