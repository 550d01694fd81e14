import SessionSync.CommandLine.FirstMessage
import SessionSync.CommandLine.Run

/-!
# The program

A run with the command line, the environment and the files of the machine.  There
are no sockets here: the server is described by one line of JSON on the standard
input, with its `authority`, the `routes` of its backend, and the `happenings` of a
watch.
-/

set_option autoImplicit false

namespace SessionSync.CommandLine

/-- The variables of the environment that matter. -/
def variableNames : List String :=
  ["LEGION_DATA_DIR", "LEGION_CONFIG", "LEGION_BASE_URL", "LEGION_LOG_FILTER",
    "LEGION_LOG_FORMAT", "RUST_LOG"]

/-- What is found under a path. -/
def contentOf (path : String) : IO Config.FileContent := do
  try return .text (← IO.FS.readFile path)
  catch error => match error with
    | .noFileOrDirectory .. => return .missing
    | _ => return .unreadable

/-- An id that nobody has used. -/
def freshId : IO String := do
  let bytes ← IO.getRandomBytes 16
  return String.join (bytes.toList.map fun byte =>
    String.ofList (Nat.toDigits 16 (byte.toNat + 256)).tail)

/-- Begin the log. -/
def beginLog (directory : String) (logging : Logging) : IO Unit := do
  IO.FS.createDirAll (directory ++ "/logs")
  let handle ← IO.FS.Handle.mk (logPath directory) .append
  handle.putStr (logging.firstMessage (logPath directory))

end SessionSync.CommandLine

open SessionSync SessionSync.CommandLine in
/-- A run with the words of the command line. -/
def main (words : List String) : IO UInt32 := do
  let values ← variableNames.mapM fun name => return (name, ← IO.getEnv name)
  let environment := fun name => (values.lookup name).join
  let home := (← IO.getEnv "HOME").getD "/tmp"
  let (content, description) ← match configPath? environment home words with
    | some path => do
        let line ← (← IO.getStdin).getLine
        pure (← contentOf path, (Json.read? line).getD .null)
    | none => pure (.missing, .null)
  let member := fun name => (description.member? name).getD .null
  let ending := run
    { environment, home
      read := fun _ => content
      server :=
        { authority := (member "authority").string?.getD ""
          routes := Server.routesOf (member "routes") }
      happenings := ((member "happenings").elements?.getD []).map Happening.decode
      messageId := ← freshId } words
  if let some (directory, logging) := ending.log then beginLog directory logging
  ending.output.forM IO.println
  IO.eprint ending.complaint
  return UInt32.ofNat ending.exitCode
