import SessionSync.CommandLine.Logging
import SessionSync.Json.Printer

/-!
# The first message of the log

The log begins with a message that says how the program logs.
-/

set_option autoImplicit false

namespace SessionSync.CommandLine

/-- The file of the log in a data directory. -/
def logPath (dataDirectory : String) : String := dataDirectory ++ "/logs/client.log"

/-- What the first message says. -/
def Logging.fields (logging : Logging) (path : String) : List (String × String) :=
  [("level", "INFO"), ("target", Logging.firstTarget), ("component", "logging"),
    ("event", "logging.initialized"), ("log_path", path), ("format", logging.format.name),
    ("filter", logging.filter)]

/-- The first message in the format of the log; the empty text if it is not
logged. -/
def Logging.firstMessage (logging : Logging) (path : String) : String :=
  let fields := logging.fields path
  if !logging.announces then ""
  else
    match logging.format with
    | .json =>
        (Json.ofMembers (fields.map fun (name, value) => (name, .string value))).compact ++ "\n"
    | .pretty =>
        ", ".intercalate (fields.map fun (name, value) => name ++ ": " ++ value) ++ "\n"

end SessionSync.CommandLine
