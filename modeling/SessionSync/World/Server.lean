import SessionSync.Backend.Request
import SessionSync.Backend.Response
import SessionSync.World.Basic

/-!
# A backend behind an address

The backend is a server at an address.  For every route, which is a method and a
target, it has a series of responses, of which the last one is repeated; a request
for anything else is told that there is no such route.  Calls reach it as requests,
so an address that leads elsewhere leads nowhere.
-/

set_option autoImplicit false

namespace SessionSync

/-- A server: the authority that it answers for, and the responses for every
route. -/
structure Server where
  authority : String
  routes : List (String × List Backend.Response)
  deriving DecidableEq, Repr

namespace Server

/-- The route of a request. -/
def route (request : Backend.Request) : String := request.method.name ++ " " ++ request.target

/-- The response for a route that the server does not have. -/
def noRoute : Backend.Response :=
  { status := 404
    body := (Json.ofMembers [("detail", .string "no such route")]).compact }

/-- What is left of a series of responses once one was given. -/
def later : List Backend.Response → List Backend.Response
  | _ :: next :: rest => next :: rest
  | last => last

/-- Answer a request. -/
def answer (server : Server) (request : Backend.Request) : Server × Backend.Response :=
  let name := route request
  let routes := server.routes.map fun (other, responses) =>
    (other, if other = name then later responses else responses)
  ({ server with routes }, ((server.routes.lookup name).bind List.head?).getD noRoute)

/-! ## Reading a description -/

/-- A response from its description; a body that is no text is a document. -/
def responseOf (value : Json) : Backend.Response :=
  { status := (((value.member? "status").bind Json.integer?).map Int.toNat).getD 200
    body := match value.member? "body" with
      | some (.string text) => text
      | some document => document.compact
      | none => "" }

/-- The routes in a description: for every route a response or a list of them. -/
def routesOf : Json → List (String × List Backend.Response)
  | .object members => members.map fun (name, value) =>
      (name, match value with
        | .array elements => elements.map responseOf
        | single => [responseOf single])
  | _ => []

/-- The text that a description sends: a text as it is, or a frame. -/
def sentText (value : Json) : String :=
  ((value.member? "text").bind Json.string?).getD ((value.member? "frame").getD .null).compact

end Server

/-- A client's line to a server: the backend's address as the client knows it, and
the requests that have arrived, the latest first. -/
structure ServerLine where
  base : String
  server : Server
  requests : List Backend.Request
  deriving DecidableEq, Repr

namespace ServerLine

/-- An address for sockets without its scheme, taken apart: the authority, and what a
request for it asks for. -/
def socketParts? (url : String) : Option (String × String) :=
  let scheme := "ws://"
  if url.startsWith scheme then
    let rest := url.toList.drop scheme.length
    let inAuthority := fun (char : Char) => char != '/'
    some (String.ofList (rest.takeWhile inAuthority), String.ofList (rest.dropWhile inAuthority))
  else none

/-- What a request for a channel's socket asks for. -/
def socketTarget (config : Config) (channel : Channel) : String :=
  ((socketParts? (channel.url config.socketBase)).map Prod.snd).getD ""

/-- Whether sockets are asked from a server. -/
def reachesSockets (config : Config) (server : Server) : Bool :=
  (socketParts? config.socketBase).any fun parts => parts.1 == server.authority

/-- The request of a call, if it reaches the server. -/
def arriving? (line : ServerLine) (call : Backend.Call) : Option Backend.Request :=
  (call.request? line.base).filter fun request =>
    line.base.startsWith "http://" && request.authority == line.server.authority

/-- A call goes over the line. -/
def host : Host ServerLine := fun line call =>
  match line.arriving? call with
  | some request =>
      let (server, response) := line.server.answer request
      let (outcome, _) := call.outcome response.received
      ({ line with server, requests := request :: line.requests }, { outcome, held := false })
  | none => (line, { outcome := .error .http, held := false })

end ServerLine

end SessionSync
