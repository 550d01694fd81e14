import SessionSync.Channel.Machine
import SessionSync.Channel.Name
import SessionSync.Json.Printer
import SessionSync.Report.Grid
import SessionSync.Report.Style
import SessionSync.Text.Preview
import SessionSync.Tool.Call
import SessionSync.Wire.Message
import SessionSync.Wire.Session

/-!
# Lines for a reader

How messages, tool calls, requests for permission, connections and sessions are
shown on a terminal.  Every function takes whether the terminal understands
styles.
-/

set_option autoImplicit false

namespace SessionSync.Report

/-- How much of a text is shown on a line. -/
def previewLimit : Nat := 160

/-- The start of a text on one line. -/
def preview (text : String) : String := Text.cut previewLimit (Text.oneLine text)

/-! ## Messages -/

/-- A number of two digits. -/
def twoDigits (value : Nat) : String := (if value < 10 then "0" else "") ++ toString value

/-- The first instant, in Unix milliseconds, of the earliest year that has
dates. -/
def firstInstant : Int := Calendar.unixMillis ⟨-262143, 1, 1⟩ ⟨0, 0, 0, 0⟩ 0

/-- The last instant, in Unix milliseconds, of the latest year that has
dates. -/
def lastInstant : Int := Calendar.unixMillis ⟨262142, 12, 31⟩ ⟨23, 59, 59, 999999999⟩ 0

/-- The time of day of an instant in universal time. -/
def clock (millis : Int) : String :=
  if firstInstant ≤ millis ∧ millis ≤ lastInstant then
    let second := ((millis.fdiv 1000).emod 86400).toNat
    ":".intercalate [twoDigits (second / 3600), twoDigits (second / 60 % 60),
      twoDigits (second % 60)]
  else "--:--:--"

/-- The label for a type of message and its style. -/
def messageLabel : MessageType → String × Style
  | .user => ("user", .colored .cyan)
  | .assistant => ("agent", .colored .green)
  | .system => ("system", .faint)
  | .permissionRequest => ("permission?", .colored .yellow)
  | .permissionResponse => ("permission", .colored .yellow)
  | .toolCall => ("tool", .colored .magenta)
  | .unknown => ("?", .faint)

/-- What a message says, or the names of the tools that it uses when it says
nothing. -/
def messageBody (message : Message) : String :=
  if (Text.trim message.content).isEmpty then
    match message.metadata.toolUses with
    | [] => ""
    | uses => "[" ++ ", ".intercalate (uses.map ToolUse.name) ++ "]"
  else preview message.content

/-- The line for a message. -/
def messageLine (styled : Bool) (message : Message) : String :=
  let (label, style) := messageLabel message.type
  " ".intercalate [Style.faint.paint styled (clock message.millis),
    style.paint styled (Text.padLeft 11 label), messageBody message]

/-! ## Tool calls -/

/-- The marker for a status and its style. -/
def statusMarker : ToolStatus → String × Style
  | .pending => ("○", .faint)
  | .permissionRequired => ("?", .warning)
  | .executing => ("◐", .colored .blue)
  | .completed => ("●", .colored .green)
  | .error => ("✗", .colored .red)

/-- A remark on a tool call: why it was orphaned, or what its error says. -/
def callRemark (styled : Bool) (call : ToolCall) : Option String :=
  match call.caveat with
  | some caveat => some (Style.warning.paint styled ("(" ++ caveat ++ ")"))
  | none => (call.outcome.filter ToolOutcome.isError).map fun outcome =>
      (Style.colored .red).paint styled
        (preview (outcome.content.string?.getD outcome.content.compact))

/-- The line for a tool call. -/
def toolLine (styled : Bool) (call : ToolCall) : String :=
  let status := call.effectiveStatus
  let (marker, style) := statusMarker status
  let head := ["  " ++ style.paint styled marker, Style.strong.paint styled call.toolName,
    Style.faint.paint styled call.toolId, status.name]
  " ".intercalate (head ++ (callRemark styled call).toList)

/-! ## Permissions and connections -/

/-- The two lines that tell how to answer a request for permission. -/
def permissionHint (styled : Bool) (sessionId requestId : String) (toolId : Option String) :
    String :=
  let lead := Style.warning.paint styled "permission requested:"
  let tool := toolId.getD "unknown tool"
  s!"  {lead} {requestId} for {tool}\n" ++
    s!"    answer with: legion respond {sessionId} {requestId} --allow | --deny"

/-- The words for a connection's status and their style. -/
def connectionLabel : ConnectionStatus → String × Style
  | .disconnected => ("disconnected", .faint)
  | .connecting => ("connecting", .faint)
  | .connected => ("connected", .colored .green)
  | .reconnecting attempt => (s!"reconnecting (attempt {attempt})", .colored .yellow)
  | .failed => ("failed", { color := some .red, bold := true })

/-- The line for a connection. -/
def connectionLine (styled : Bool) (slot : SlotKind) (status : ConnectionStatus) : String :=
  let (label, style) := connectionLabel status
  Style.faint.paint styled slot.name ++ " " ++ style.paint styled label

/-! ## Sessions -/

/-- The table of sessions. -/
def sessionGrid (sessions : List Session) : Grid :=
  { heading := ["ID", "Name", "State", "Mode", "Project"]
    rows := sessions.map fun session => [session.sessionId, session.name, session.state.name,
      session.mode.name, session.projectId.getD "-"] }

end SessionSync.Report
