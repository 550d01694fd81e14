import SessionSync.Proofs.Wire.Entity
import SessionSync.Proofs.Wire.Message
import SessionSync.Wire.ClientFrame
import SessionSync.Wire.ServerFrame

/-!
# Frames are read again

A frame is a tag, written first, and what it carries.  Its tag is found among the written
members and is one of the known ones, and what is left is read under it as what the frame was
built of (`ServerFrame.decodeContent?_members`, `ClientFrame.decodeContent?_members`).  So every
frame is read again whose parts are proper (`ServerFrame.exact`, `ClientFrame.exact`).  A frame
with an unknown tag is written with the tag `unknown` and is read as the same again.
-/

set_option autoImplicit false

namespace SessionSync

open Wire

/-! ## Keepalives -/

/-- The timestamp of a keepalive, where it has one. -/
def timestampIn (content : Json) : Option (Option Timestamp) := do
  (← view? [⟨"timestamp", []⟩] content).optional "timestamp" Timestamp.decode?

theorem exact_timestampIn :
    Exact timestampIn
      (fun timestamp => record [whenSome "timestamp" Timestamp.encode timestamp])
      fun _ => True := by
  refine .record (by decide) (fun _ => by simp [Aligned]) ?_ fun _ => trivial
  intro timestamp view _ given
  exact optional_timestamp given.1

namespace ServerFrame

/-! ## The records inside frames -/

section Inside

variable {α : Type} {decode : Json → Option α} {encode : α → Json} {proper : α → Prop}

theorem exact_onlyData (exact : Exact decode encode proper) :
    Exact (onlyData decode) (fun data => record [always "data" (encode data)]) proper := by
  refine .record (by decide) (fun _ => by simp [Aligned]) ?_ exact.proper_of_required
  intro data view fine given
  exact exact.required fine given.1

theorem exact_sessionAndData (exact : Exact decode encode proper) :
    Exact (sessionAndData decode)
      (fun content : Option String × α =>
        record [whenSome "session_id" Json.string content.1, always "data" (encode content.2)])
      fun content => proper content.2 := by
  refine .record (by decide) (fun _ => by simp [Aligned]) ?_ ?_
  · rintro ⟨sessionId, data⟩ view fine ⟨givenSessionId, givenData, -⟩
    simp [optional_string givenSessionId, exact.required fine givenData]
  · intro view content got
    simp only [Option.bind_eq_bind, Option.bind_eq_some_iff, Option.pure_def,
      Option.some.injEq] at got
    obtain ⟨_, -, data, gotData, rfl⟩ := got
    exact exact.proper_of_required gotData

theorem exact_namedIn {name : String} (apart : name ≠ "session_id") :
    Exact (namedIn name)
      (fun content : String × Option String =>
        record [always name (.string content.1), whenSome "session_id" Json.string content.2])
      fun _ => True := by
  refine .record (by simp [Distinct, apart]) (fun _ => by simp [Aligned]) ?_ fun _ => trivial
  rintro ⟨id, sessionId⟩ view - ⟨givenId, givenSessionId, -⟩
  simp [exact_string.required trivial givenId, optional_string givenSessionId]

theorem exact_itemsIn {name : String} (apart : "session_id" ≠ name)
    (exact : Exact decode encode proper) :
    Exact (itemsIn name decode)
      (fun content : Option String × List α =>
        record [whenSome "session_id" Json.string content.1,
          always name (.array (content.2.map encode))])
      fun content => ∀ item ∈ content.2, proper item := by
  refine .record (by simp [Distinct, apart]) (fun _ => by simp [Aligned]) ?_ ?_
  · rintro ⟨sessionId, items⟩ view fine ⟨givenSessionId, givenItems, -⟩
    simp [optional_string givenSessionId, exact.list.orElse fine givenItems]
  · intro view content got
    simp only [Option.bind_eq_bind, Option.bind_eq_some_iff, Option.pure_def,
      Option.some.injEq] at got
    obtain ⟨_, -, items, gotItems, rfl⟩ := got
    exact exact.proper_of_filled gotItems

theorem exact_sessionsIn :
    Exact sessionsIn
      (fun sessions => record [always "sessions" (.array (sessions.map Session.encode))])
      fun sessions => ∀ session ∈ sessions, session.Proper := by
  refine .record (by decide) (fun _ => by simp [Aligned]) ?_
    (Session.exact .envelope).proper_of_filled
  intro sessions view fine given
  exact (Session.exact .envelope).list.orElse fine given.1

theorem exact_deletedIn :
    Exact deletedIn (fun sessionId => record [always "session_id" (.string sessionId)])
      fun _ => True := by
  refine .record (by decide) (fun _ => by simp [Aligned]) ?_ fun _ => trivial
  intro sessionId view _ given
  exact exact_string.required trivial given.1

/-- The text of an error, and the session that it names. -/
def errorIn (content : Json) : Option (String × Option String) := do
  let view ← view? [⟨"message", []⟩, ⟨"session_id", []⟩] content
  return (← view.orElse "message" "" Json.string?, ← view.optional "session_id" Json.string?)

theorem exact_errorIn :
    Exact errorIn
      (fun told =>
        record [always "message" (.string told.1), whenSome "session_id" Json.string told.2])
      fun _ => True := by
  refine .record (by decide) (fun _ => by simp [Aligned]) ?_ fun _ => trivial
  rintro ⟨text, sessionId⟩ view - ⟨givenText, givenSessionId, -⟩
  simp [exact_string.orElse trivial givenText, optional_string givenSessionId]

end Inside

/-! ## Frames from the server -/

/-- A frame as it can be read. -/
def Proper : ServerFrame → Prop
  | .message _ carried => carried.Proper
  | .toolCall event => event.Proper
  | .permissionRequest request => request.Proper
  | .permissionResponse response => response.Proper
  | .stateChange _ change => change.Proper
  | .resourceRegistered resource => resource.Proper
  | .queueUpdate _ items => ∀ item ∈ items, item.Proper
  | .sessionsList sessions => ∀ session ∈ sessions, session.Proper
  | .sessionCreated session | .sessionUpdated session => session.Proper
  | .legionMessage communication => communication.Proper
  | .resourceRemoved .. | .taskUpdate .. | .scheduleUpdate _ | .scheduleRemoved ..
  | .sessionDeleted _ | .ping _ | .error .. | .unknown => True

/-- What a proper frame carries is read under its tag. -/
theorem decodeContent?_members {frame : ServerFrame} (proper : frame.Proper) :
    decodeContent? (record frame.members) frame.tag = some frame := by
  cases frame with
  | message sessionId message =>
      have read := (exact_sessionAndData (Message.exact .envelope)).reads
        (a := (sessionId, message)) proper
      simp [decodeContent?, tag, members, read]
  | toolCall event =>
      have read := (exact_onlyData (ToolEvent.exact .envelope)).reads proper
      simp [decodeContent?, tag, members, read]
  | permissionRequest request =>
      have read := (exact_onlyData PermissionRequest.exact).reads proper
      simp [decodeContent?, tag, members, read]
  | permissionResponse response =>
      have read := (exact_onlyData (PermissionResponse.exact .envelope)).reads proper
      simp [decodeContent?, tag, members, read]
  | stateChange sessionId change =>
      have read := (exact_sessionAndData (StateChange.exact .envelope)).reads
        (a := (sessionId, change)) proper
      simp [decodeContent?, tag, members, read]
  | resourceRegistered resource =>
      have read := (exact_onlyData (Resource.exact .envelope)).reads proper
      simp [decodeContent?, tag, members, read]
  | resourceRemoved resourceId sessionId =>
      have inside := exact_namedIn (show "resource_id" ≠ "session_id" by decide)
      have read := (exact_onlyData inside).reads (a := (resourceId, sessionId)) trivial
      simp [decodeContent?, tag, members, read]
  | queueUpdate sessionId items =>
      have inside := exact_itemsIn (show "session_id" ≠ "items" by decide) QueueItem.exact
      have read := (exact_onlyData inside).reads (a := (sessionId, items)) proper
      simp [decodeContent?, tag, members, read]
  | taskUpdate sessionId tasks =>
      have inside := exact_itemsIn (show "session_id" ≠ "tasks" by decide)
        (TaskItem.exact .envelope)
      have read := (exact_onlyData inside).reads (a := (sessionId, tasks)) fun _ _ => trivial
      simp [decodeContent?, tag, members, read]
  | scheduleUpdate schedule =>
      have read := (exact_onlyData Schedule.exact).reads (a := schedule) trivial
      simp [decodeContent?, tag, members, read]
  | scheduleRemoved scheduleId sessionId =>
      have inside := exact_namedIn (show "schedule_id" ≠ "session_id" by decide)
      have read := (exact_onlyData inside).reads (a := (scheduleId, sessionId)) trivial
      simp [decodeContent?, tag, members, read]
  | sessionsList sessions =>
      have read := (exact_onlyData exact_sessionsIn).reads proper
      simp [decodeContent?, tag, members, read]
  | sessionCreated session =>
      have read := (exact_onlyData (Session.exact .envelope)).reads proper
      simp [decodeContent?, tag, members, read]
  | sessionUpdated session =>
      have read := (exact_onlyData (Session.exact .envelope)).reads proper
      simp [decodeContent?, tag, members, read]
  | sessionDeleted sessionId =>
      have read := (exact_onlyData exact_deletedIn).reads (a := sessionId) trivial
      simp [decodeContent?, tag, members, read]
  | legionMessage communication =>
      have read := (exact_onlyData Communication.exact).reads proper
      simp [decodeContent?, tag, members, read]
  | ping timestamp =>
      have read := exact_timestampIn.reads (a := timestamp) trivial
      obtain ⟨view, viewed, got⟩ := Option.bind_eq_some_iff.1 read
      simp [decodeContent?, tag, members, viewed, got]
  | error text sessionId =>
      have read := exact_errorIn.reads (a := (text, sessionId)) trivial
      simp only [errorIn, Option.bind_eq_bind, Option.bind_eq_some_iff, Option.pure_def,
        Option.some.injEq, Prod.mk.injEq] at read
      obtain ⟨view, viewed, _, gotText, _, gotSessionId, rfl, rfl⟩ := read
      simp [decodeContent?, tag, members, viewed, gotText, gotSessionId]
  | unknown => rfl

/-- Whatever is read of a frame is proper. -/
theorem proper_of_decodeContent? {content : Json} {name : String} {frame : ServerFrame}
    (read : decodeContent? content name = some frame) : frame.Proper := by
  unfold decodeContent? at read
  split at read
  · obtain ⟨_, got, ⟨⟩⟩ := Option.bind_eq_some_iff.1 read
    exact (exact_sessionAndData (Message.exact .envelope)).proper got
  · obtain ⟨_, got, ⟨⟩⟩ := Option.bind_eq_some_iff.1 read
    exact (exact_onlyData (ToolEvent.exact .envelope)).proper got
  · obtain ⟨_, got, ⟨⟩⟩ := Option.bind_eq_some_iff.1 read
    exact (exact_onlyData PermissionRequest.exact).proper got
  · obtain ⟨_, got, ⟨⟩⟩ := Option.bind_eq_some_iff.1 read
    exact (exact_onlyData (PermissionResponse.exact .envelope)).proper got
  · obtain ⟨_, got, ⟨⟩⟩ := Option.bind_eq_some_iff.1 read
    exact (exact_sessionAndData (StateChange.exact .envelope)).proper got
  · obtain ⟨_, got, ⟨⟩⟩ := Option.bind_eq_some_iff.1 read
    exact (exact_onlyData (Resource.exact .envelope)).proper got
  · obtain ⟨_, -, ⟨⟩⟩ := Option.bind_eq_some_iff.1 read
    trivial
  · obtain ⟨_, got, ⟨⟩⟩ := Option.bind_eq_some_iff.1 read
    exact (exact_onlyData (exact_itemsIn (by decide) QueueItem.exact)).proper got
  · obtain ⟨_, -, ⟨⟩⟩ := Option.bind_eq_some_iff.1 read
    trivial
  · obtain ⟨_, -, ⟨⟩⟩ := Option.bind_eq_some_iff.1 read
    trivial
  · obtain ⟨_, -, ⟨⟩⟩ := Option.bind_eq_some_iff.1 read
    trivial
  · obtain ⟨_, got, ⟨⟩⟩ := Option.bind_eq_some_iff.1 read
    exact (exact_onlyData exact_sessionsIn).proper got
  · obtain ⟨_, got, ⟨⟩⟩ := Option.bind_eq_some_iff.1 read
    exact (exact_onlyData (Session.exact .envelope)).proper got
  · obtain ⟨_, got, ⟨⟩⟩ := Option.bind_eq_some_iff.1 read
    exact (exact_onlyData (Session.exact .envelope)).proper got
  · obtain ⟨_, -, ⟨⟩⟩ := Option.bind_eq_some_iff.1 read
    trivial
  · obtain ⟨_, got, ⟨⟩⟩ := Option.bind_eq_some_iff.1 read
    exact (exact_onlyData Communication.exact).proper got
  · simp only [Option.bind_eq_bind, Option.bind_eq_some_iff, Option.pure_def,
      Option.some.injEq] at read
    obtain ⟨_, -, _, -, rfl⟩ := read
    trivial
  · simp only [Option.bind_eq_bind, Option.bind_eq_some_iff, Option.pure_def,
      Option.some.injEq] at read
    obtain ⟨_, -, _, -, _, -, rfl⟩ := read
    trivial
  · obtain ⟨_, -, ⟨⟩⟩ := Option.bind_eq_some_iff.1 read
    trivial

theorem avoids_tag (frame : ServerFrame) : Avoids "type" frame.members := by
  cases frame <;> simp [members]

/-- **Frames from the server are read exactly where they are proper.** -/
theorem exact : Exact decode? encode Proper where
  reads := by
    intro frame proper
    have known : frame.tag ∈ tags := by cases frame <;> simp [tag, tags]
    simp [decode?, encode, splitTag?_record frame.avoids_tag, readTag?, known,
      decodeContent?_members proper]
  proper := by
    intro value frame read
    simp only [decode?, Option.bind_eq_bind, Option.bind_eq_some_iff] at read
    obtain ⟨⟨said, content⟩, -, spoken, -, read⟩ := read
    cases spoken with
    | known name => exact proper_of_decodeContent? read
    | unknown => exact proper_of_decodeContent? read

end ServerFrame

/-! ## Frames from the client -/

namespace PermissionAnswer

/-- The fields of an answer in their order. -/
def fields : List Field :=
  [⟨"request_id", []⟩, ⟨"decision", []⟩, ⟨"reasoning", []⟩, ⟨"clarification", []⟩,
    ⟨"selected_suggestions", []⟩]

/-- An answer to a permission request from the content of a frame. -/
def decode? (content : Json) : Option PermissionAnswer := do
  let view ← view? fields content
  return {
    requestId := ← view.required "request_id" Json.string?
    decision := ← view.required "decision" (Decision.decode? .envelope)
    reasoning := ← view.optional "reasoning" Json.string?
    clarification := ← view.optional "clarification" Json.string?
    selectedSuggestions := ← view.orElse "selected_suggestions" [] (listOf freeValue) }

/-- An answer as it can be read. -/
def Proper (answer : PermissionAnswer) : Prop :=
  ∀ suggestion ∈ answer.selectedSuggestions, suggestion.IsNormal

theorem exact :
    Exact decode? (fun answer => record (ClientFrame.permissionResponse answer).members)
      Proper := by
  refine .record (by decide) (fun _ => by simp [Aligned, fields, ClientFrame.members]) ?_ ?_
  · rintro ⟨requestId, decision, reasoning, clarification, suggestions⟩ view proper
      ⟨givenRequestId, givenDecision, givenReasoning, givenClarification, givenSuggestions, -⟩
    simp [exact_string.required trivial givenRequestId,
      (Decision.exact .envelope).required trivial givenDecision, optional_string givenReasoning,
      optional_string givenClarification, exact_freeValue.filled proper givenSuggestions]
  · intro view answer got
    simp only [Option.bind_eq_bind, Option.bind_eq_some_iff, Option.pure_def,
      Option.some.injEq] at got
    obtain ⟨_, -, _, -, _, -, _, -, suggestions, gotSuggestions, rfl⟩ := got
    exact exact_freeValue.proper_of_filled gotSuggestions

end PermissionAnswer

namespace ClientFrame

/-- The text that is sent, and the id that the client gives it. -/
def sentIn (content : Json) : Option (String × Option String) := do
  let view ← view? [⟨"content", []⟩, ⟨"client_message_id", []⟩] content
  return (← view.required "content" Json.string?,
    ← view.optional "client_message_id" Json.string?)

theorem exact_sentIn :
    Exact sentIn (fun sent => record (sendMessage sent.1 sent.2).members) fun _ => True := by
  refine .record (by decide) (fun _ => by simp [Aligned, members]) ?_ fun _ => trivial
  rintro ⟨content, messageId⟩ view - ⟨givenContent, givenMessageId, -⟩
  simp [exact_string.required trivial givenContent, optional_string givenMessageId]

/-- A frame as it can be read. -/
def Proper : ClientFrame → Prop
  | .permissionResponse answer => answer.Proper
  | .sendMessage .. | .interruptSession | .pong _ => True

/-- An answer to a permission request is read as one. -/
theorem decodeContent?_permissionResponse (content : Json) :
    decodeContent? content "permission_response" =
      (PermissionAnswer.decode? content).bind fun answer => some (.permissionResponse answer) := by
  simp [decodeContent?, PermissionAnswer.decode?, PermissionAnswer.fields, Option.bind_assoc]

/-- What a proper frame carries is read under its tag. -/
theorem decodeContent?_members {frame : ClientFrame} (proper : frame.Proper) :
    decodeContent? (record frame.members) frame.tag = some frame := by
  cases frame with
  | sendMessage text messageId =>
      have read := exact_sentIn.reads (a := (text, messageId)) trivial
      simp only [sentIn, Option.bind_eq_bind, Option.bind_eq_some_iff, Option.pure_def,
        Option.some.injEq, Prod.mk.injEq] at read
      obtain ⟨view, viewed, _, gotText, _, gotMessageId, rfl, rfl⟩ := read
      simp [decodeContent?, tag, viewed, gotText, gotMessageId]
  | permissionResponse answer =>
      have read := PermissionAnswer.exact.reads proper
      simp [tag, decodeContent?_permissionResponse, read]
  | interruptSession => rfl
  | pong timestamp =>
      have read := exact_timestampIn.reads (a := timestamp) trivial
      obtain ⟨view, viewed, got⟩ := Option.bind_eq_some_iff.1 read
      simp [decodeContent?, tag, members, viewed, got]

/-- Whatever is read of a frame is proper. -/
theorem proper_of_decodeContent? {content : Json} {name : String} {frame : ClientFrame}
    (read : decodeContent? content name = some frame) : frame.Proper := by
  cases frame with
  | permissionResponse answer =>
      have named : name = "permission_response" := by
        unfold decodeContent? at read
        split at read <;> simp [Option.bind_eq_some_iff] at read ⊢
      rw [named, decodeContent?_permissionResponse] at read
      obtain ⟨_, got, ⟨⟩⟩ := Option.bind_eq_some_iff.1 read
      exact PermissionAnswer.exact.proper got
  | sendMessage => trivial
  | interruptSession => trivial
  | pong => trivial

theorem avoids_tag (frame : ClientFrame) : Avoids "type" frame.members := by
  cases frame <;> simp [members]

/-- **Frames from the client are read exactly where they are proper.** -/
theorem exact : Exact decode? encode Proper where
  reads := by
    intro frame proper
    have known : frame.tag ∈ tags := by cases frame <;> simp [tag, tags]
    simp [decode?, encode, splitTag?_record frame.avoids_tag, readTag?, known,
      decodeContent?_members proper]
  proper := by
    intro value frame read
    simp only [decode?, Option.bind_eq_bind, Option.bind_eq_some_iff] at read
    obtain ⟨⟨said, content⟩, -, spoken, -, read⟩ := read
    cases spoken with
    | known name => exact proper_of_decodeContent? read
    | unknown => cases read

end ClientFrame

end SessionSync
