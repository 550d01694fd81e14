import SessionSync.Wire.Tool

/-!
# Frames to the server

What a client sends over the socket of a session.  Here an unknown tag is an
error.
-/

set_option autoImplicit false

namespace SessionSync

open Wire

/-- A client's answer to a permission request. -/
structure PermissionAnswer where
  requestId : String
  decision : Decision
  reasoning : Option String
  clarification : Option String
  selectedSuggestions : List Json
  deriving DecidableEq, Repr

/-- A frame from the client. -/
inductive ClientFrame where
  | sendMessage (content : String) (clientMessageId : Option String)
  | permissionResponse (answer : PermissionAnswer)
  | interruptSession
  | pong (timestamp : Option Timestamp)
  deriving DecidableEq, Repr

namespace ClientFrame

/-- The tag of a frame. -/
def tag : ClientFrame → String
  | .sendMessage .. => "send_message"
  | .permissionResponse _ => "permission_response"
  | .interruptSession => "interrupt_session"
  | .pong _ => "pong"

/-- The known tags in their order. -/
def tags : List String := ["send_message", "permission_response", "interrupt_session", "pong"]

/-- A frame's content once its tag is known. -/
def decodeContent? (content : Json) : String → Option ClientFrame
  | "send_message" => do
      let view ← view? [⟨"content", []⟩, ⟨"client_message_id", []⟩] content
      return .sendMessage (← view.required "content" Json.string?)
        (← view.optional "client_message_id" Json.string?)
  | "permission_response" => do
      let view ← view? [⟨"request_id", []⟩, ⟨"decision", []⟩, ⟨"reasoning", []⟩,
        ⟨"clarification", []⟩, ⟨"selected_suggestions", []⟩] content
      return .permissionResponse {
        requestId := ← view.required "request_id" Json.string?
        decision := ← view.required "decision" (Decision.decode? .envelope)
        reasoning := ← view.optional "reasoning" Json.string?
        clarification := ← view.optional "clarification" Json.string?
        selectedSuggestions := ← view.orElse "selected_suggestions" [] (listOf freeValue) }
  | "interrupt_session" => do
      emptyContent content
      return .interruptSession
  | "pong" => do
      let view ← view? [⟨"timestamp", []⟩] content
      return .pong (← view.optional "timestamp" Timestamp.decode?)
  | _ => none

/-- A frame from a value. -/
def decode? (value : Json) : Option ClientFrame := do
  let (tag, content) ← splitTag? "type" value
  match ← readTag? .document tags tag with
  | .known name => decodeContent? content name
  | .unknown => none

/-- The members of a frame beside its tag. -/
def members : ClientFrame → List (List (String × Json))
  | .sendMessage content clientMessageId =>
      [always "content" (.string content),
        whenSome "client_message_id" Json.string clientMessageId]
  | .permissionResponse answer =>
      [always "request_id" (.string answer.requestId),
        always "decision" answer.decision.encode,
        whenSome "reasoning" Json.string answer.reasoning,
        whenSome "clarification" Json.string answer.clarification,
        whenFilled "selected_suggestions" id answer.selectedSuggestions]
  | .interruptSession => []
  | .pong timestamp => [whenSome "timestamp" Timestamp.encode timestamp]

/-- A frame as a value. -/
def encode (frame : ClientFrame) : Json := record (always "type" (.string frame.tag) :: frame.members)

end ClientFrame

end SessionSync
