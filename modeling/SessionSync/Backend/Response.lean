import SessionSync.Backend.Call
import SessionSync.Json.Printer
import SessionSync.Json.Reader
import SessionSync.Text.Preview

/-!
# Responses

How the backend's responses become replies.  Lists are read leniently: an entry
that is no record is passed over, and a preview of it is kept for the log.
-/

set_option autoImplicit false

namespace SessionSync.Backend

open Wire

/-- A response of the backend. -/
structure Response where
  status : Nat
  body : String
  deriving DecidableEq, Repr

/-! ## Lenient lists -/

/-- How much of a payload is kept for the log. -/
def previewLimit : Nat := 200

/-- The start of a payload for the log. -/
def preview (text : String) : String := Text.cut previewLimit text

/-- The entries of a list that are records, and previews of the others. -/
def lenient {α : Type} (decode : Json → Option α) (entries : List Json) : List α × List String :=
  (entries.filterMap decode,
    (entries.filter fun entry => (decode entry).isNone).map fun entry => preview entry.compact)

/-! ## Envelopes -/

/-- A list of sessions from its envelope. -/
def sessionsIn (value : Json) : Option (List Session × List String) := do
  let view ← view? [⟨"sessions", []⟩] value
  let entries ← view.orElse "sessions" [] (listOf freeValue)
  return lenient (Session.decode? .document) entries

/-- A session from its envelope. -/
def sessionIn (value : Json) : Option Session := do
  (← view? [⟨"session", []⟩] value).required "session" (Session.decode? .document)

/-- A page of messages from its envelope; without a total the entries up to the
end of the page are counted. -/
def pageIn (offset : Nat) (value : Json) : Option (Page × List String) := do
  let view ← view? [⟨"messages", []⟩, ⟨"total_count", []⟩, ⟨"has_more", []⟩] value
  let entries ← view.orElse "messages" [] (listOf freeValue)
  let totalCount ← view.optional "total_count" (naturalUpTo wordMax)
  let hasMore ← view.orElse "has_more" false Json.bool?
  let (messages, skipped) := lenient (Message.decode? .document) entries
  return ({ messages, totalCount := totalCount.getD ((offset + entries.length) % twoTo 64),
            hasMore }, skipped)

namespace Call

/-- What a reader wants of the document that answers a call. -/
def shape : Call → Json.Shape
  | .listSessions => shapeOf [⟨"sessions", []⟩] []
  | .fetchSession _ | .startSession _ =>
      shapeOf [⟨"session", []⟩] [("session", shapeOf Session.fields [])]
  | .fetchMessages .. => shapeOf [⟨"messages", []⟩, ⟨"total_count", []⟩, ⟨"has_more", []⟩] []

/-- The reply in a document, and previews of the entries that were passed
over. -/
def replyIn? : (call : Call) → Json → Option (call.Reply × List String)
  | .listSessions, value => sessionsIn value
  | .fetchSession _, value | .startSession _, value =>
      (sessionIn value).map fun session => (session, [])
  | .fetchMessages _ _ offset, value => pageIn offset value

/-- What a response says about a call. -/
def outcome (call : Call) (response : Response) : Outcome call × List String :=
  if 200 ≤ response.status ∧ response.status < 300 then
    match (Json.readShape? call.shape response.body).bind call.replyIn? with
    | some (reply, skipped) => (.ok reply, skipped)
    | none => (.error .unreadable, [])
  else (.error (.ofResponse response.status response.body), [])

end Call

namespace Response

/-- The response as it arrives: some statuses have no body, and a byte order
mark at the start of a body is dropped. -/
def received (response : Response) : Response :=
  if response.status = 204 ∨ response.status = 304 then { response with body := "" }
  else match response.body.toList with
    | '\uFEFF' :: rest => { response with body := String.ofList rest }
    | _ => response

end Response

end SessionSync.Backend
