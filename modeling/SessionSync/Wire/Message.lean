import SessionSync.Wire.Tool

/-!
# Messages

An entry of a session's log.  What the metadata of a message hold depends on
the type of the message; `Message.payload?` is the view that knows this.
-/

set_option autoImplicit false

namespace SessionSync

open Wire

/-! ## Types of messages -/

/-- The type of a message; every unknown word is `unknown`. -/
inductive MessageType where
  | user
  | assistant
  | system
  | permissionRequest
  | permissionResponse
  | toolCall
  | unknown
  deriving DecidableEq, Repr

namespace MessageType

/-- The word for a type. -/
def name : MessageType → String
  | .user => "user"
  | .assistant => "assistant"
  | .system => "system"
  | .permissionRequest => "permission_request"
  | .permissionResponse => "permission_response"
  | .toolCall => "tool_call"
  | .unknown => "unknown"

/-- The types with a word of their own. -/
def named : List MessageType :=
  [.user, .assistant, .system, .permissionRequest, .permissionResponse, .toolCall]

/-- The type of a word. -/
def ofName (text : String) : MessageType :=
  (named.find? fun kind => kind.name == text).getD .unknown

/-- A type as a value. -/
def encode (kind : MessageType) : Json := .string kind.name

/-- A type from a word. -/
def decode? (origin : Origin) : Json → Option MessageType :=
  word origin fun text => some (ofName text)

theorem ofName_name (kind : MessageType) : ofName kind.name = kind := by
  cases kind <;> decide

end MessageType

/-! ## Content blocks -/

/-- A block of a message's content; every unknown block is `other`. -/
inductive ContentBlock where
  | text (text : String)
  | thinking (thinking : String)
  | toolUse (toolUse : ToolUse)
  | toolResult (result : ToolResult)
  | other
  deriving DecidableEq, Repr

namespace ContentBlock

/-- The tags of the blocks in their order. -/
def tags : List String := ["text", "thinking", "tool_use", "tool_result", "other"]

/-- A block of text from its content. -/
def textField (name : String) (content : Json) : Option String := do
  (← view? [⟨name, []⟩] content).orElse name "" Json.string?

/-- A block from a value. -/
def decode? (origin : Origin) (value : Json) : Option ContentBlock := do
  let (tag, content) ← splitTag? "type" value
  match ← readTag? origin tags tag with
  | .known "text" => return .text (← textField "text" content)
  | .known "thinking" => return .thinking (← textField "thinking" content)
  | .known "tool_use" => return .toolUse (← ToolUse.decode? content)
  | .known "tool_result" => return .toolResult (← ToolResult.decode? content)
  | _ => do
      emptyContent content
      return .other

/-- A block as a value. -/
def encode : ContentBlock → Json
  | .text value => record [always "type" (.string "text"), always "text" (.string value)]
  | .thinking value =>
      record [always "type" (.string "thinking"), always "thinking" (.string value)]
  | .toolUse call => record (always "type" (.string "tool_use") :: call.members)
  | .toolResult result => record (always "type" (.string "tool_result") :: result.members)
  | .other => record [always "type" (.string "other")]

/-- The tool use of a block. -/
def toolUse? : ContentBlock → Option ToolUse
  | .toolUse call => some call
  | _ => none

/-- The tool result of a block. -/
def toolResult? : ContentBlock → Option ToolResult
  | .toolResult result => some result
  | _ => none

end ContentBlock

/-! ## Metadata -/

/-- The metadata of a message.  Members that have no field of their own are
kept as extras. -/
structure Metadata where
  blocks : List ContentBlock
  subtype : Option String
  initData : Option Json
  permissionRequest : Option PermissionRequest
  permissionResponse : Option PermissionResponse
  toolCall : Option ToolEvent
  display : Option Display
  extras : Table Json
  deriving DecidableEq, Repr

namespace Metadata

/-- The fields of the metadata in their order. -/
def fields : List Field :=
  [⟨"content_blocks", []⟩, ⟨"subtype", []⟩, ⟨"init_data", []⟩, ⟨"permission_request", []⟩,
    ⟨"permission_response", []⟩, ⟨"tool_call", []⟩, ⟨"display", []⟩]

/-- What a reader wants of metadata.  Content blocks are told apart by a tag, so
they are wanted whole. -/
def shape : Json.Shape :=
  openShapeOf fields [("permission_request", shapeOf PermissionRequest.fields []),
    ("permission_response", shapeOf PermissionResponse.fields []),
    ("tool_call", ToolEvent.shape), ("display", Display.shape)]

/-- The metadata of a message that has none. -/
def none : Metadata :=
  { blocks := [], subtype := .none, initData := .none, permissionRequest := .none,
    permissionResponse := .none, toolCall := .none, display := .none, extras := Table.empty }

/-- The members of an object that are no field. -/
def extraMembers (members : List (String × Json)) : List (String × Json) :=
  members.filter fun member => (fieldName? fields member.1).isNone

/-- Metadata from a value; because of the extras an array is refused. -/
def decode? (origin : Origin) : Json → Option Metadata
  | .object members => do
      let view ← view? fields (.object members)
      return {
        blocks := ← view.orElse "content_blocks" [] (listOf (ContentBlock.decode? origin))
        subtype := ← view.optional "subtype" Json.string?
        initData := ← view.optional "init_data" freeValue
        permissionRequest := ← view.optional "permission_request" PermissionRequest.decode?
        permissionResponse :=
          ← view.optional "permission_response" (PermissionResponse.decode? origin)
        toolCall := ← view.optional "tool_call" (ToolEvent.decode? origin)
        display := ← view.optional "display" (Display.decode? origin)
        extras := Table.ofList
          ((extraMembers members).map fun member => (member.1, member.2.normal)) }
  | _ => .none

/-- Metadata as a value. -/
def encode (metadata : Metadata) : Json :=
  record [
    whenFilled "content_blocks" ContentBlock.encode metadata.blocks,
    whenSome "subtype" Json.string metadata.subtype,
    whenSome "init_data" id metadata.initData,
    whenSome "permission_request" PermissionRequest.encode metadata.permissionRequest,
    whenSome "permission_response" PermissionResponse.encode metadata.permissionResponse,
    whenSome "tool_call" ToolEvent.encode metadata.toolCall,
    whenSome "display" Display.encode metadata.display,
    metadata.extras.entries]

/-- The tool uses among the content blocks. -/
def toolUses (metadata : Metadata) : List ToolUse := metadata.blocks.filterMap ContentBlock.toolUse?

/-- The tool results among the content blocks. -/
def toolResults (metadata : Metadata) : List ToolResult :=
  metadata.blocks.filterMap ContentBlock.toolResult?

end Metadata

/-! ## Messages -/

/-- A message of a session's log. -/
structure Message where
  messageId : String
  sessionId : String
  type : MessageType
  content : String
  timestamp : Timestamp
  metadata : Metadata
  deriving DecidableEq, Repr

/-- What a message says, by its type. -/
inductive Payload where
  | user (results : List ToolResult)
  | assistant (uses : List ToolUse)
  | system (subtype : Option String) (initData : Option Json)
  | permissionRequest (request : PermissionRequest)
  | permissionResponse (response : PermissionResponse)
  | toolCall (event : ToolEvent)
  | unknown
  deriving DecidableEq, Repr

/-- What a message says as a value. -/
def Payload.encode : Payload → Json
  | .user results => record [always "user" (.array (results.map ToolResult.encode))]
  | .assistant uses => record [always "assistant" (.array (uses.map ToolUse.encode))]
  | .system subtype initData => record [always "system" (record [
      always "subtype" (Json.ofOption Json.string subtype),
      always "init_data" (Json.ofOption id initData)])]
  | .permissionRequest request => record [always "permission_request" request.encode]
  | .permissionResponse response => record [always "permission_response" response.encode]
  | .toolCall event => record [always "tool_call" event.encode]
  | .unknown => .string "unknown"

namespace Message

/-- The fields of a message in their order. -/
def fields : List Field :=
  [⟨"message_id", ["id"]⟩, ⟨"session_id", []⟩, ⟨"type", []⟩, ⟨"content", []⟩, ⟨"timestamp", []⟩,
    ⟨"metadata", []⟩]

/-- What a reader wants of a message. -/
def shape : Json.Shape := shapeOf fields [("metadata", Metadata.shape)]

/-- A message from a value. -/
def decode? (origin : Origin) (value : Json) : Option Message := do
  let view ← view? fields value
  return {
    messageId := ← view.required "message_id" Json.string?
    sessionId := ← view.orElse "session_id" "" Json.string?
    type := ← view.required "type" (MessageType.decode? origin)
    content := ← view.orElse "content" "" Json.string?
    timestamp := ← view.orElse "timestamp" Timestamp.absent Timestamp.decode?
    metadata := ← view.orElse "metadata" Metadata.none (Metadata.decode? origin) }

/-- A message as a value. -/
def encode (message : Message) : Json :=
  record [
    always "message_id" (.string message.messageId),
    always "session_id" (.string message.sessionId),
    always "type" message.type.encode,
    always "content" (.string message.content),
    always "timestamp" message.timestamp.encode,
    always "metadata" message.metadata.encode]

/-- Unix milliseconds of the message; zero when they cannot be read. -/
def millis (message : Message) : Int := message.timestamp.millis

/-- The message by its id and its time. -/
def outline (message : Message) : Json :=
  .array [.string message.messageId, Json.ofInt message.millis]

/-- What the message says; `none` when the metadata lack the record that the
type promises. -/
def payload? (message : Message) : Option Payload :=
  match message.type with
  | .user => some (.user message.metadata.toolResults)
  | .assistant => some (.assistant message.metadata.toolUses)
  | .system => some (.system message.metadata.subtype message.metadata.initData)
  | .permissionRequest => message.metadata.permissionRequest.map .permissionRequest
  | .permissionResponse => message.metadata.permissionResponse.map .permissionResponse
  | .toolCall => message.metadata.toolCall.map .toolCall
  | .unknown => some .unknown

/-- The data of a system message that starts a session. -/
def initData? (message : Message) : Option Json :=
  match message.payload? with
  | some (.system (some "init") initData) => initData
  | _ => none

end Message

end SessionSync
