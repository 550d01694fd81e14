import SessionSync.Channel.Machine
import SessionSync.Channel.Name
import SessionSync.Config.TomlReader
import SessionSync.Failure
import SessionSync.Json.Basic
import SessionSync.Text.Blank
import SessionSync.Wire.Field

/-!
# Configuration

The settings of a client and where they come from: a file that is named
explicitly, else one that the environment names, else the file in the data
directory.  Where that file is missing the defaults hold.  The environment may
replace the address of the backend afterwards.
-/

set_option autoImplicit false

namespace SessionSync

/-- The settings of a client; times are in milliseconds. -/
structure Config where
  baseUrl : String := "http://127.0.0.1:8000"
  /-- The address for sockets; follows from `baseUrl` when it is not set. -/
  socketBaseUrl : Option String := none
  heartbeatTimeout : Nat := 10000
  reconnectBaseDelay : Nat := 1000
  reconnectMaxDelay : Nat := 30000
  maxReconnectAttempts : Nat := 10
  closeTimeout : Nat := 2000
  historyLimit : Nat := 10000
  syncWindow : Nat := 500
  syncOverlap : Nat := 50
  startPollInterval : Nat := 500
  startMaxPolls : Nat := 20
  deriving DecidableEq, Repr, Inhabited

namespace Config

/-! ## From a file -/

/-- A setting that is a natural number up to a bound. -/
def natural (entries : Toml.Entries) (key : String) (most default : Nat) : Option Nat :=
  match Toml.find? entries key with
  | none => some default
  | some (.integer value) => if 0 ≤ value ∧ value ≤ most then some value.toNat else none
  | some _ => none

/-- A setting that is a text. -/
def optionalText (entries : Toml.Entries) (key : String) : Option (Option String) :=
  match Toml.find? entries key with
  | none => some none
  | some (.string value) => some (some value)
  | some _ => none

/-- The settings of a table; keys that are no setting are passed over. -/
def ofEntries? (entries : Toml.Entries) : Option Config := do
  let default : Config := {}
  return {
    baseUrl := (← optionalText entries "base_url").getD default.baseUrl
    socketBaseUrl := ← optionalText entries "ws_base_url"
    heartbeatTimeout := ← natural entries "heartbeat_timeout_ms" wordMax default.heartbeatTimeout
    reconnectBaseDelay :=
      ← natural entries "reconnect_base_delay_ms" wordMax default.reconnectBaseDelay
    reconnectMaxDelay :=
      ← natural entries "reconnect_max_delay_ms" wordMax default.reconnectMaxDelay
    maxReconnectAttempts :=
      ← natural entries "max_reconnect_attempts" halfWordMax default.maxReconnectAttempts
    closeTimeout := ← natural entries "close_timeout_ms" wordMax default.closeTimeout
    historyLimit := ← natural entries "history_limit" wordMax default.historyLimit
    syncWindow := ← natural entries "sync_window" wordMax default.syncWindow
    syncOverlap := ← natural entries "sync_overlap" wordMax default.syncOverlap
    startPollInterval :=
      ← natural entries "auto_start_poll_interval_ms" wordMax default.startPollInterval
    startMaxPolls := ← natural entries "auto_start_max_polls" halfWordMax default.startMaxPolls }

/-- The settings of a configuration file's text. -/
def ofToml (text : String) : Except Failure Config :=
  match (Toml.document? text).bind ofEntries? with
  | some config => .ok config
  | none => .error (.config "the file cannot be read")

/-! ## What follows from the settings -/

/-- The address of the backend without slashes at its end. -/
def apiBase (config : Config) : String := Channel.trimSlashes config.baseUrl

/-- The address for sockets: the one that is set, or the backend's with the
scheme of sockets. -/
def socketBase (config : Config) : String :=
  match config.socketBaseUrl with
  | some url => Channel.trimSlashes url
  | none =>
      let base := config.apiBase
      if base.startsWith "https://" then "wss://" ++ (base.drop 8).toString
      else if base.startsWith "http://" then "ws://" ++ (base.drop 7).toString
      else base

/-- The policy for channels. -/
def retryPolicy (config : Config) : RetryPolicy :=
  { baseDelay := config.reconnectBaseDelay
    maxDelay := config.reconnectMaxDelay
    maxAttempts := config.maxReconnectAttempts
    heartbeatTimeout := config.heartbeatTimeout }

/-- The settings as a value. -/
def encode (config : Config) : Json :=
  Json.ofMembers [
    ("base_url", .string config.baseUrl),
    ("ws_base_url", Json.ofOption Json.string config.socketBaseUrl),
    ("heartbeat_timeout_ms", Json.ofNat config.heartbeatTimeout),
    ("reconnect_base_delay_ms", Json.ofNat config.reconnectBaseDelay),
    ("reconnect_max_delay_ms", Json.ofNat config.reconnectMaxDelay),
    ("max_reconnect_attempts", Json.ofNat config.maxReconnectAttempts),
    ("close_timeout_ms", Json.ofNat config.closeTimeout),
    ("history_limit", Json.ofNat config.historyLimit),
    ("sync_window", Json.ofNat config.syncWindow),
    ("sync_overlap", Json.ofNat config.syncOverlap),
    ("auto_start_poll_interval_ms", Json.ofNat config.startPollInterval),
    ("auto_start_max_polls", Json.ofNat config.startMaxPolls)]

/-! ## Finding the file -/

/-- What is found under a path. -/
inductive FileContent where
  | missing
  | text (content : String)
  /-- Something that cannot be read as a text, such as a directory. -/
  | unreadable
  deriving DecidableEq, Repr

/-- A text of the environment counts when it is more than blanks. -/
def isSet (value : Option String) : Option String :=
  value.filter fun text => !(Text.trim text).isEmpty

/-- Where a client looks for its files. -/
structure Surroundings where
  /-- An explicit path for the configuration file. -/
  explicitPath : Option String
  /-- The path for it in the environment. -/
  environmentPath : Option String
  dataDirectory : String
  /-- The backend's address in the environment. -/
  environmentBaseUrl : Option String

/-- The path of the configuration file. -/
def path (surroundings : Surroundings) : String :=
  surroundings.explicitPath.getD
    ((isSet surroundings.environmentPath).getD (surroundings.dataDirectory ++ "/config.toml"))

/-- The data directory: an explicit one, else the environment's, else the one in
the home directory. -/
def dataDirectory (explicit environment : Option String) (home : String) : String :=
  explicit.getD ((isSet environment).getD (home ++ "/.legion"))

/-- The settings for some surroundings. -/
def load (surroundings : Surroundings) (read : String → FileContent) : Except Failure Config := do
  let config ← match read (path surroundings) with
    | .missing => .ok {}
    | .text content => ofToml content
    | .unreadable => .error (.config "the file cannot be read")
  match isSet surroundings.environmentBaseUrl with
  | some url => return { config with baseUrl := Text.trim url }
  | none => return config

end Config

end SessionSync
