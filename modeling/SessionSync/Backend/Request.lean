import SessionSync.Backend.Address
import SessionSync.Backend.Call
import SessionSync.Channel.Name
import SessionSync.Config

/-!
# Requests

How calls are written as requests to the address of the backend.  A session id
is one segment of the path.
-/

set_option autoImplicit false

namespace SessionSync.Backend

/-- The methods in use. -/
inductive Method where
  | get
  | post
  deriving DecidableEq, Repr

/-- The word for a method. -/
def Method.name : Method → String
  | .get => "GET"
  | .post => "POST"

/-- A request. -/
structure Request where
  authority : String
  method : Method
  target : String
  body : String
  deriving DecidableEq, Repr

/-- The backend's address without slashes at its end; only `http` and `https`
will do. -/
def base (config : Config) : Except Failure String :=
  let text := config.apiBase
  if text.startsWith "http://" || text.startsWith "https://" then .ok text
  else .error (.invalidUrl text)

namespace Call

/-- The method of a call's request. -/
def method : Call → Method
  | .startSession _ => .post
  | _ => .get

/-- The body of a call's request. -/
def body (call : Call) : String :=
  match call.method with
  | .get => ""
  | .post => "\x7b\x7d"

/-- The path of a call below the backend's address. -/
def path : Call → String
  | .listSessions => "/api/sessions"
  | .fetchSession sessionId => "/api/sessions/" ++ Text.percentEncode sessionId
  | .startSession sessionId => "/api/sessions/" ++ Text.percentEncode sessionId ++ "/start"
  | .fetchMessages sessionId _ _ =>
      "/api/sessions/" ++ Text.percentEncode sessionId ++ "/messages"

/-- The parameters of a call. -/
def parameters : Call → List (String × String)
  | .fetchMessages _ limit offset => [("limit", toString limit), ("offset", toString offset)]
  | _ => []

/-- The address that a call asks, where the backend's address is one. -/
def address? (base : String) (call : Call) : Option Address := do
  let address ← Address.ofText? (base ++ call.path)
  return if call.parameters.isEmpty then address else address.withParameters call.parameters

/-- The request for a call, where the backend's address is one. -/
def request? (base : String) (call : Call) : Option Request := do
  let address ← call.address? base
  return { authority := address.authority, method := call.method, target := address.target,
           body := call.body }

end Call

end SessionSync.Backend
