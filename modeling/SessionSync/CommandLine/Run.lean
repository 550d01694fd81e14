import SessionSync.CommandLine.Action
import SessionSync.CommandLine.Logging

/-!
# A run of the program

What the program does for the words of a command line, from reading them to the
exit code.  The files, the environment and the server are given, so a run is a
function of what it is given.
-/

set_option autoImplicit false

namespace SessionSync.CommandLine

/-! ## What a run is given and what it leaves -/

/-- What surrounds a run. -/
structure Setting where
  environment : String → Option String
  home : String
  read : String → Config.FileContent
  server : Server
  /-- What happens while a session is watched, until the watcher is stopped. -/
  happenings : List Happening
  /-- The id of a message that is sent. -/
  messageId : String

/-- What a run leaves. -/
structure Ending where
  exitCode : Nat
  /-- The texts that were printed, each with a line end after it. -/
  output : List String
  complaint : String := ""
  /-- The data directory and how the program logs. -/
  log : Option (String × Logging) := none
  requests : List Backend.Request := []
  /-- What the requests for sockets have asked for. -/
  dialed : List String := []
  sent : List ClientFrame := []
  deriving DecidableEq, Repr

/-! ## Settings of a run -/

/-- Where a run looks for its settings. -/
def surroundings (environment : String → Option String) (arguments : Arguments)
    (dataDirectory : String) : Config.Surroundings :=
  { explicitPath := arguments.configPath
    environmentPath := environment "LEGION_CONFIG"
    dataDirectory
    environmentBaseUrl := environment "LEGION_BASE_URL" }

/-- The data directory for arguments. -/
def directoryFor (home : String) (arguments : Arguments) : String :=
  Config.dataDirectory arguments.dataDirectory none home

/-- The settings for arguments. -/
def configFor (setting : Setting) (arguments : Arguments) (dataDirectory : String) :
    Except Failure Config := do
  let config ← Config.load (surroundings setting.environment arguments dataDirectory) setting.read
  return { config with baseUrl := arguments.baseUrl.getD config.baseUrl }

/-- The arguments of a run. -/
def argumentsIn (environment : String → Option String) (words : List String) :
    Except Halt Arguments :=
  Arguments.read (environment "LEGION_DATA_DIR") words

/-- The path of the configuration file that a run reads, if it comes so far. -/
def configPath? (environment : String → Option String) (home : String) (words : List String) :
    Option String :=
  match argumentsIn environment words with
  | .ok arguments =>
      some (Config.path (surroundings environment arguments (directoryFor home arguments)))
  | .error _ => none

/-! ## Endings -/

/-- The program's name and version. -/
def versionLine : String := "legion 0.3.0"

/-- What the program says about its use. -/
def usage : String :=
  "\n".intercalate [
    "Follow and drive Legion agent sessions",
    "",
    "Usage: legion [OPTIONS] <COMMAND>",
    "",
    "Commands:",
    "  sessions   List sessions",
    "  watch      Select a session and stream it until Ctrl-C",
    "  send       Send a chat message to a session",
    "  respond    Answer a pending permission request",
    "  interrupt  Interrupt the agent's current turn",
    "  help       Print this message or the help of the given subcommand(s)",
    "",
    "Options:",
    "      --config <CONFIG>      Config file (defaults to LEGION_CONFIG, then <data dir>/config.toml)",
    "      --data-dir <DATA_DIR>  Data directory for config and logs [env: LEGION_DATA_DIR=]",
    "      --base-url <BASE_URL>  Backend base URL, overrides the config file",
    "  -v, --verbose              Debug-level logs for the client",
    "  -h, --help                 Print help",
    "  -V, --version              Print version"]

/-- The ending when reading the arguments stops. -/
def haltEnding : Halt → Ending
  | .misuse => { exitCode := 2, output := [], complaint := usage ++ "\n" }
  | .help => { exitCode := 0, output := [usage] }
  | .version => { exitCode := 0, output := [versionLine] }

/-- The ending of a task, which may have a fault. -/
def courseEnding (config : Config) (result : Except Fault Unit) (course : Course) : Ending :=
  let (exitCode, complaint) := match result with
    | .ok () => (0, "")
    | .error fault => (1, s!"Error: {fault.message}\n")
  { exitCode, complaint
    output := course.output
    requests := course.world.backend.requests.reverse
    dialed := course.seen.filterMap fun observation => match observation with
      | .dialed channel => some (ServerLine.socketTarget config channel)
      | _ => none
    sent := course.seen.filterMap fun observation => match observation with
      | .sent _ frame => some frame
      | _ => none }

/-! ## Runs -/

/-- Do a task over a line to the backend. -/
def runTask (setting : Setting) (task : Task) (config : Config) (base : String) : Ending :=
  let line : ServerLine := { base, server := setting.server, requests := [] }
  let world := World.new config line (ServerLine.reachesSockets config setting.server)
  let (result, course) := ((perform setting.happenings setting.messageId task).run.run { world }).run
  courseEnding config result course

/-- A run of the program for the words of a command line. -/
def run (setting : Setting) (words : List String) : Ending :=
  match argumentsIn setting.environment words with
  | .error halt => haltEnding halt
  | .ok arguments =>
      let directory := directoryFor setting.home arguments
      let logging := Logging.ofEnvironment setting.environment arguments.verbose
      let started := do
        let config ← configFor setting arguments directory
        return (config, ← Backend.base config)
      let ending := match started with
        | .ok (config, base) => runTask setting arguments.task config base
        | .error failure =>
            { exitCode := 1, output := [], complaint := s!"Error: {failure.message}\n" }
      { ending with log := some (directory, logging) }

end SessionSync.CommandLine
