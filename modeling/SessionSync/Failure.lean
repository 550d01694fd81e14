import SessionSync.Json.Reader

/-!
# Failures

Why an operation of the client failed.  Dropped sockets are not among them: a
channel reconnects by itself.
-/

set_option autoImplicit false

namespace SessionSync

/-- Why an operation failed. -/
inductive Failure where
  /-- The backend answered with an error. -/
  | api (status : Nat) (message : String) (body : Json)
  /-- The backend could not be asked. -/
  | http
  /-- The backend's answer could not be read. -/
  | unreadable
  | invalidUrl (url : String)
  /-- A newer selection has taken the place of this one. -/
  | superseded
  /-- The engine no longer runs. -/
  | stopped
  | notConnected (slot : String)
  | config (detail : String)
  deriving DecidableEq, Repr

namespace Failure

/-- The text of an error body: the first of its members `detail`, `message`
and `error` that is a text, or the body itself if it is a text and not empty,
or a sentence with the status. -/
def bodyMessage (status : Nat) (body : Json) : String :=
  let named := ["detail", "message", "error"].findSome? fun key =>
    (body.member? key).bind Json.string?
  let whole := body.string?.filter fun text => !text.isEmpty
  (named.or whole).getD s!"request failed with status {status}"

/-- The failure that an error response stands for.  A body that is no JSON is
taken as a text. -/
def ofResponse (status : Nat) (body : String) : Failure :=
  let value := (Json.read? body).getD (.string body)
  .api status (bodyMessage status value) value

/-- The status of an error response. -/
def status? : Failure → Option Nat
  | .api status _ _ => some status
  | _ => none

/-- The sentence for a failure. -/
def message : Failure → String
  | .api status message _ => s!"API error {status}: {message}"
  | .http => "HTTP error"
  | .unreadable => "JSON serialization error"
  | .invalidUrl url => s!"Invalid URL: {url}"
  | .superseded => "Operation superseded by a newer selection"
  | .stopped => "Engine stopped"
  | .notConnected slot => s!"Channel {slot} is not connected"
  | .config detail => s!"Configuration error: {detail}"

end Failure

end SessionSync
