import SessionSync.Wire.ClientFrame
import SessionSync.Wire.ServerFrame

/-!
# Codecs

For every type of record: what a reader wants of its text, how a value becomes a
record, and how a record is written.
-/

set_option autoImplicit false

namespace SessionSync

/-- How records of a type are read and written. -/
structure Codec (α : Type) where
  shape : Json.Shape
  decode? : Json → Option α
  encode : α → Json

namespace Codec

/-- A record from its text. -/
def read? {α : Type} (codec : Codec α) (text : String) : Option α :=
  (Json.readShape? codec.shape text).bind codec.decode?

/-- A codec that wants every field whole. -/
def ofFields {α : Type} (fields : List Wire.Field) (decode : Json → Option α)
    (encode : α → Json) : Codec α :=
  ⟨Wire.shapeOf fields [], decode, encode⟩

/-- A codec that wants the whole value. -/
def whole {α : Type} (decode : Json → Option α) (encode : α → Json) : Codec α :=
  ⟨.whole, decode, encode⟩

def timestamp : Codec Timestamp := whole Timestamp.decode? Timestamp.encode

def message : Codec Message := ⟨Message.shape, Message.decode? .document, Message.encode⟩

def serverFrame : Codec ServerFrame := whole ServerFrame.decode? ServerFrame.encode

def clientFrame : Codec ClientFrame := whole ClientFrame.decode? ClientFrame.encode

def contentBlock : Codec ContentBlock := whole (ContentBlock.decode? .document) ContentBlock.encode

def metadata : Codec Metadata := ⟨Metadata.shape, Metadata.decode? .document, Metadata.encode⟩

def display : Codec Display := ⟨Display.shape, Display.decode? .document, Display.encode⟩

def permissionRequest : Codec PermissionRequest :=
  ofFields PermissionRequest.fields PermissionRequest.decode? PermissionRequest.encode

def permissionResponse : Codec PermissionResponse :=
  ofFields PermissionResponse.fields (PermissionResponse.decode? .document)
    PermissionResponse.encode

def toolUse : Codec ToolUse := ofFields ToolUse.fields ToolUse.decode? ToolUse.encode

def toolResult : Codec ToolResult := ofFields ToolResult.fields ToolResult.decode? ToolResult.encode

def toolEvent : Codec ToolEvent := ⟨ToolEvent.shape, ToolEvent.decode? .document, ToolEvent.encode⟩

def session : Codec Session := ofFields Session.fields (Session.decode? .document) Session.encode

def stateChange : Codec StateChange :=
  ⟨StateChange.shape, StateChange.decode? .document, StateChange.encode⟩

def resource : Codec Resource :=
  ofFields Resource.fields (Resource.decode? .document) Resource.encode

def queueItem : Codec QueueItem := ofFields QueueItem.fields QueueItem.decode? QueueItem.encode

def task : Codec TaskItem := ofFields TaskItem.fields (TaskItem.decode? .document) TaskItem.encode

def schedule : Codec Schedule := ofFields Schedule.fields Schedule.decode? Schedule.encode

def communication : Codec Communication :=
  ofFields Communication.fields Communication.decode? Communication.encode

/-- Lists of records. -/
def list {α : Type} (codec : Codec α) : Codec (List α) :=
  ⟨.each codec.shape, Wire.listOf codec.decode?, fun values => .array (values.map codec.encode)⟩

end Codec

end SessionSync
