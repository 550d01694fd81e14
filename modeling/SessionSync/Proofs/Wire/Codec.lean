import SessionSync.Proofs.Wire.Frame

/-!
# Nothing is lost on the wire

Whatever a value is read as, in whichever of its spellings, it is read as the same again from
what is written of it: under another name of a field, as an array of the fields, with fields
missing or `null`, with a tag that is not known (`nothing_lost`).  Metadata keep the members
that are no field.  Nothing is lost by reading nothing: each of these ways of reading is exact,
so what is written of a proper value is read as that value.
-/

set_option autoImplicit false

namespace SessionSync

open Wire

/-- All that goes over the wire is read again from what is written of it. -/
structure NothingLost (origin : Origin) : Prop where
  timestamp : Faithful Timestamp.decode? Timestamp.encode
  decision : Faithful (Decision.decode? origin) Decision.encode
  toolUse : Faithful ToolUse.decode? ToolUse.encode
  toolResult : Faithful ToolResult.decode? ToolResult.encode
  permissionRequest : Faithful PermissionRequest.decode? PermissionRequest.encode
  permissionResponse : Faithful (PermissionResponse.decode? origin) PermissionResponse.encode
  toolState : Faithful (ToolState.decode? origin) ToolState.encode
  toolPermission : Faithful (ToolPermission.decode? origin) ToolPermission.encode
  toolOutcome : Faithful ToolOutcome.decode? ToolOutcome.encode
  toolEvent : Faithful (ToolEvent.decode? origin) ToolEvent.encode
  displayedTool : Faithful (DisplayedTool.decode? origin) DisplayedTool.encode
  orphanNotice : Faithful OrphanNotice.decode? OrphanNotice.encode
  display : Faithful (Display.decode? origin) Display.encode
  sessionState : Faithful (SessionState.decode? origin) SessionState.encode
  permissionMode : Faithful (PermissionMode.decode? origin) PermissionMode.encode
  session : Faithful (Session.decode? origin) Session.encode
  stateChange : Faithful (StateChange.decode? origin) StateChange.encode
  resourceKind : Faithful (ResourceKind.decode? origin) ResourceKind.encode
  resource : Faithful (Resource.decode? origin) Resource.encode
  queueItem : Faithful QueueItem.decode? QueueItem.encode
  taskStatus : Faithful (TaskStatus.decode? origin) TaskStatus.encode
  task : Faithful (TaskItem.decode? origin) TaskItem.encode
  schedule : Faithful Schedule.decode? Schedule.encode
  communication : Faithful Communication.decode? Communication.encode
  messageType : Faithful (MessageType.decode? origin) MessageType.encode
  contentBlock : Faithful (ContentBlock.decode? origin) ContentBlock.encode
  metadata : Faithful (Metadata.decode? origin) Metadata.encode
  /-- A member that is no field is written under its key, in normal form. -/
  extras : ∀ {members : List (String × Json)} {metadata : Metadata} {key : String},
    Metadata.decode? origin (.object members) = some metadata →
    fieldName? Metadata.fields key = none →
    metadata.encode.member? key = ((Json.object members).member? key).map Json.normal
  message : Faithful (Message.decode? origin) Message.encode
  resourceRemoved : Faithful (ServerFrame.namedIn "resource_id") fun content =>
    record [always "resource_id" (.string content.1),
      whenSome "session_id" Json.string content.2]
  scheduleRemoved : Faithful (ServerFrame.namedIn "schedule_id") fun content =>
    record [always "schedule_id" (.string content.1),
      whenSome "session_id" Json.string content.2]
  queueUpdate : Faithful (ServerFrame.itemsIn "items" QueueItem.decode?) fun content =>
    record [whenSome "session_id" Json.string content.1,
      always "items" (.array (content.2.map QueueItem.encode))]
  taskUpdate : Faithful (ServerFrame.itemsIn "tasks" (TaskItem.decode? origin)) fun content =>
    record [whenSome "session_id" Json.string content.1,
      always "tasks" (.array (content.2.map TaskItem.encode))]
  sessionsList : Faithful ServerFrame.sessionsIn fun sessions =>
    record [always "sessions" (.array (sessions.map Session.encode))]
  sessionDeleted : Faithful ServerFrame.deletedIn fun sessionId =>
    record [always "session_id" (.string sessionId)]
  serverFrame : Faithful ServerFrame.decode? ServerFrame.encode
  clientFrame : Faithful ClientFrame.decode? ClientFrame.encode

/-- **Nothing is lost**, neither in documents nor in the contents of tagged records. -/
theorem nothing_lost (origin : Origin) : NothingLost origin where
  timestamp := Timestamp.exact.faithful rfl
  decision := (Decision.exact origin).faithful rfl
  toolUse := ToolUse.exact.faithful rfl
  toolResult := ToolResult.exact.faithful rfl
  permissionRequest := PermissionRequest.exact.faithful rfl
  permissionResponse := (PermissionResponse.exact origin).faithful rfl
  toolState := (ToolState.exact origin).faithful rfl
  toolPermission := (ToolPermission.exact origin).faithful rfl
  toolOutcome := ToolOutcome.exact.faithful rfl
  toolEvent := (ToolEvent.exact origin).faithful rfl
  displayedTool := (DisplayedTool.exact origin).faithful rfl
  orphanNotice := OrphanNotice.exact.faithful rfl
  display := (Display.exact origin).faithful rfl
  sessionState := (SessionState.exact origin).faithful rfl
  permissionMode := (PermissionMode.exact origin).faithful rfl
  session := (Session.exact origin).faithful rfl
  stateChange := (StateChange.exact origin).faithful rfl
  resourceKind := (ResourceKind.exact origin).faithful rfl
  resource := (Resource.exact origin).faithful rfl
  queueItem := QueueItem.exact.faithful rfl
  taskStatus := (TaskStatus.exact origin).faithful rfl
  task := (TaskItem.exact origin).faithful rfl
  schedule := Schedule.exact.faithful rfl
  communication := Communication.exact.faithful rfl
  messageType := (MessageType.exact origin).faithful rfl
  contentBlock := (ContentBlock.exact origin).faithful rfl
  metadata := (Metadata.exact origin).faithful rfl
  extras read free := Metadata.member?_encode read free
  message := (Message.exact origin).faithful rfl
  resourceRemoved := (ServerFrame.exact_namedIn (by decide)).faithful rfl
  scheduleRemoved := (ServerFrame.exact_namedIn (by decide)).faithful rfl
  queueUpdate := (ServerFrame.exact_itemsIn (by decide) QueueItem.exact).faithful rfl
  taskUpdate := (ServerFrame.exact_itemsIn (by decide) (TaskItem.exact origin)).faithful rfl
  sessionsList := ServerFrame.exact_sessionsIn.faithful rfl
  sessionDeleted := ServerFrame.exact_deletedIn.faithful rfl
  serverFrame := ServerFrame.exact.faithful rfl
  clientFrame := ClientFrame.exact.faithful rfl

/-- A message under another name of its id, of an unknown type, with a `null` and a member
that is no field among its metadata. -/
def looseMessage : Json :=
  .object [("id", .string "m"), ("type", .string "surprise"),
    ("metadata", .object [("subtype", .null), ("origin", .array [.object []])])]

/-- What the loosely written message is read as. -/
def looselyRead : Message :=
  ⟨"m", "", .unknown, "", Timestamp.absent,
    { Metadata.none with extras := Table.ofList [("origin", .array [.object []])] }⟩

/-- A frame as an array that carries the loosely written message. -/
def looseFrame : Json := .array [.string "message", .string "s", looseMessage]

/-- A loosely written message is read again from its strict form, with its extra member, and so
is the frame that carries it. -/
theorem nothing_lost_of_looseMessage :
    Message.decode? .document looseMessage = some looselyRead ∧
      Message.decode? .document looselyRead.encode = some looselyRead ∧
      looselyRead.metadata.encode.member? "origin" = some (.array [.object []]) ∧
      ServerFrame.decode? looseFrame = some (.message (some "s") looselyRead) ∧
      ServerFrame.decode? (ServerFrame.message (some "s") looselyRead).encode =
        some (.message (some "s") looselyRead) := by
  have read : Message.decode? .document looseMessage = some looselyRead := by decide +kernel
  have metadata : Metadata.decode? .document
      (.object [("subtype", .null), ("origin", .array [.object []])]) =
        some looselyRead.metadata := by decide +kernel
  have extra := (nothing_lost .document).extras metadata
    (show fieldName? Metadata.fields "origin" = none from by decide)
  have frame : ServerFrame.decode? looseFrame = some (.message (some "s") looselyRead) := by
    decide +kernel
  exact ⟨read, (nothing_lost .document).message.again read, extra.trans (by decide +kernel),
    frame, (nothing_lost .envelope).serverFrame.again frame⟩

end SessionSync
