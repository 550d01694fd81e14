import SessionSync.Failure
import SessionSync.Wire.Message
import SessionSync.Wire.Session

/-!
# Calls to the backend

What a client can ask the backend for.  The type of a call's reply depends on
the call.
-/

set_option autoImplicit false

namespace SessionSync.Backend

/-- A question to the backend. -/
inductive Call where
  | listSessions
  | fetchSession (sessionId : String)
  | startSession (sessionId : String)
  /-- At most `limit` messages of a session after the first `offset`. -/
  | fetchMessages (sessionId : String) (limit offset : Nat)
  deriving DecidableEq, Repr

/-- A page of a session's messages. -/
structure Page where
  messages : List Message
  totalCount : Nat
  hasMore : Bool
  deriving DecidableEq, Repr

/-- A page as a value. -/
def Page.encode (page : Page) : Json :=
  Json.ofMembers [("messages", .array (page.messages.map Message.encode)),
    ("total_count", Json.ofNat page.totalCount), ("has_more", .bool page.hasMore)]

namespace Call

/-- What a call is answered with. -/
abbrev Reply : Call → Type
  | .listSessions => List Session
  | .fetchSession _ | .startSession _ => Session
  | .fetchMessages .. => Page

end Call

/-- What came of a call. -/
abbrev Outcome (call : Call) : Type := Except Failure call.Reply

end SessionSync.Backend
