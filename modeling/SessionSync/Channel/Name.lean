import SessionSync.Text.Percent

/-!
# Channels and their slots

A client has three slots for sockets.  Each slot can hold one channel: the news
about all sessions, the stream of one session, or the communications of one
legion.
-/

set_option autoImplicit false

namespace SessionSync

/-- The three slots. -/
inductive SlotKind where
  | ui
  | session
  | legion
  deriving DecidableEq, Repr

namespace SlotKind

/-- The word for a slot. -/
def name : SlotKind → String
  | .ui => "ui"
  | .session => "session"
  | .legion => "legion"

/-- All slots. -/
def all : List SlotKind := [.ui, .session, .legion]

/-- The slot of a word. -/
def ofName? (text : String) : Option SlotKind := all.find? fun slot => slot.name == text

end SlotKind

/-- A channel that a slot can hold. -/
inductive Channel where
  | ui
  | session (sessionId : String)
  | legion (legionId : String)
  deriving DecidableEq, Repr

namespace Channel

/-- The slot that holds the channel. -/
def slot : Channel → SlotKind
  | .ui => .ui
  | .session _ => .session
  | .legion _ => .legion

/-- The channel of a slot for an id. -/
def ofSlot (id : String) : SlotKind → Channel
  | .ui => .ui
  | .session => .session id
  | .legion => .legion id

/-- The path of the channel's socket. -/
def path : Channel → String
  | .ui => "/ws/ui"
  | .session sessionId => "/ws/session/" ++ Text.percentEncode sessionId
  | .legion legionId => "/ws/legion/" ++ Text.percentEncode legionId

/-- A base address without slashes at its end. -/
def trimSlashes (base : String) : String :=
  String.ofList (base.toList.reverse.dropWhile fun char => char == '/').reverse

/-- The address of the channel's socket. -/
def url (channel : Channel) (base : String) : String := trimSlashes base ++ channel.path

/-- The session whose stream the channel is. -/
def sessionId? : Channel → Option String
  | .session sessionId => some sessionId
  | _ => none

/-- How the channel is shown. -/
def display : Channel → String
  | .ui => "ui"
  | .session sessionId => "session:" ++ sessionId
  | .legion legionId => "legion:" ++ legionId

end Channel

end SessionSync
