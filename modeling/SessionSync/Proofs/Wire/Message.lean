import SessionSync.Proofs.Wire.Tool
import SessionSync.Wire.Message

/-!
# Messages are read again

Messages, their content blocks and their metadata are read exactly where they are proper.  What
the metadata hold beside their fields is kept under the keys it came with, in normal form
(`Metadata.member?_encode`).
-/

set_option autoImplicit false

namespace SessionSync

open Wire

theorem MessageType.exact (origin : Origin) :
    Exact (MessageType.decode? origin) MessageType.encode fun _ => True :=
  exact_word origin fun kind => congrArg some kind.ofName_name

/-! ## Content blocks -/

namespace ContentBlock

/-- A content block as it can be read. -/
def Proper : ContentBlock → Prop
  | .toolUse call => call.Proper
  | .toolResult result => result.Proper
  | _ => True

theorem exact_textField (name : String) :
    Exact (textField name) (fun text => record [always name (.string text)]) fun _ => True := by
  refine .record (by simp [Distinct]) (fun _ => by simp [Aligned]) ?_ fun _ => trivial
  intro text view _ given
  exact exact_string.orElse trivial given.1

theorem exact (origin : Origin) : Exact (decode? origin) encode Proper where
  reads := by
    intro block proper
    cases block with
    | text text =>
        have avoids : Avoids "type" [always "text" (.string text)] := by simp [Avoids, always]
        simp [decode?, encode, splitTag?_record avoids, readTag?, tags,
          (exact_textField "text").reads]
    | thinking text =>
        have avoids : Avoids "type" [always "thinking" (.string text)] := by simp [Avoids, always]
        simp [decode?, encode, splitTag?_record avoids, readTag?, tags,
          (exact_textField "thinking").reads]
    | toolUse call =>
        have avoids : Avoids "type" call.members := by simp [Avoids, always, ToolUse.members]
        have again : ToolUse.decode? (record call.members) = some call := ToolUse.exact.reads proper
        simp [decode?, encode, splitTag?_record avoids, readTag?, tags, again]
    | toolResult result =>
        have avoids : Avoids "type" result.members := by simp [Avoids, always, ToolResult.members]
        have again : ToolResult.decode? (record result.members) = some result :=
          ToolResult.exact.reads proper
        simp [decode?, encode, splitTag?_record avoids, readTag?, tags, again]
    | other =>
        have avoids : Avoids "type" [] := avoids_nil _
        simp [decode?, encode, splitTag?_record avoids, readTag?, tags, emptyContent_record]
  proper := by
    intro value block read
    simp only [decode?, Option.bind_eq_bind, Option.bind_eq_some_iff, Option.pure_def] at read
    obtain ⟨⟨tag, content⟩, -, said, -, read⟩ := read
    split at read
    · obtain ⟨text, -, ⟨⟩⟩ := Option.bind_eq_some_iff.1 read
      trivial
    · obtain ⟨text, -, ⟨⟩⟩ := Option.bind_eq_some_iff.1 read
      trivial
    · obtain ⟨call, got, ⟨⟩⟩ := Option.bind_eq_some_iff.1 read
      exact ToolUse.exact.proper got
    · obtain ⟨result, got, ⟨⟩⟩ := Option.bind_eq_some_iff.1 read
      exact ToolResult.exact.proper got
    · obtain ⟨_, -, ⟨⟩⟩ := Option.bind_eq_some_iff.1 read
      trivial

end ContentBlock

/-! ## Metadata -/

namespace Metadata

/-- The extras of an object: its members that are no field, in normal form. -/
def extrasOf (members : List (String × Json)) : Table Json :=
  Table.ofList ((extraMembers members).map fun member => (member.1, member.2.normal))

/-- The groups of the members that have a field. -/
def fieldGroups (metadata : Metadata) : List (List (String × Json)) :=
  [whenFilled "content_blocks" ContentBlock.encode metadata.blocks,
    whenSome "subtype" Json.string metadata.subtype,
    whenSome "init_data" id metadata.initData,
    whenSome "permission_request" PermissionRequest.encode metadata.permissionRequest,
    whenSome "permission_response" PermissionResponse.encode metadata.permissionResponse,
    whenSome "tool_call" ToolEvent.encode metadata.toolCall,
    whenSome "display" Display.encode metadata.display]

theorem encode_eq (metadata : Metadata) :
    metadata.encode = record (metadata.fieldGroups ++ [metadata.extras.entries]) := rfl

theorem aligned_fieldGroups (metadata : Metadata) : Aligned fields metadata.fieldGroups := by
  simp [Aligned, fields, fieldGroups]

/-! ### Extras -/

theorem find?_extrasOf (members : List (String × Json)) (key : String) :
    (extrasOf members).find? key =
      if fieldName? fields key = .none then (valueAt? key members.reverse).map Json.normal
      else .none := by
  have found : ∀ entries : List (String × Json),
      valueAt? key ((extraMembers entries).map fun member => (member.1, member.2.normal)) =
        if fieldName? fields key = .none then (valueAt? key entries).map Json.normal
        else .none := by
    intro entries
    induction entries with
    | nil => simp [extraMembers, valueAt?]
    | cons member rest ih =>
        obtain ⟨other, value⟩ := member
        unfold extraMembers at ih ⊢
        by_cases here : key = other
        · subst here
          cases named : fieldName? fields key <;> simp_all [valueAt?]
        · cases named : fieldName? fields other <;> simp_all [valueAt?]
  unfold extrasOf
  rw [Table.find?_ofList, ← List.map_reverse]
  unfold extraMembers at found ⊢
  rw [← List.filter_reverse]
  exact found members.reverse

/-- What is kept beside the fields: no field names it, and it is in normal form. -/
def Extra (extras : Table Json) : Prop :=
  ∀ {key value}, extras.find? key = some value →
    fieldName? fields key = .none ∧ value.normal = value

theorem extra_extrasOf (members : List (String × Json)) : Extra (extrasOf members) := by
  intro key value found
  rw [find?_extrasOf] at found
  split at found
  · rename_i free
    obtain ⟨source, -, rfl⟩ := Option.map_eq_some_iff.1 found
    exact ⟨free, source.normal_normal⟩
  · cases found

section Written

variable {metadata : Metadata}

/-- Under the name of a field its group is written. -/
theorem written_field (extra : Extra metadata.extras) {field : Field} (member : field ∈ fields) :
    written (metadata.fieldGroups ++ [metadata.extras.entries]) field.name =
      written metadata.fieldGroups field.name := by
  have none : metadata.extras.find? field.name = .none := by
    cases found : metadata.extras.find? field.name with
    | none => rfl
    | some value =>
        have named := isSome_fieldName? member
        rw [(extra found).1] at named
        cases named
  rw [written_append, written_entries, none]
  rfl

/-- Under any other name what is kept beside the fields is written. -/
theorem written_extra {key : String} (free : fieldName? fields key = .none) :
    written (metadata.fieldGroups ++ [metadata.extras.entries]) key =
      metadata.extras.find? key := by
  have avoids : Avoids key metadata.fieldGroups := by
    refine (aligned_fieldGroups metadata).avoids fun field member same => ?_
    have named := isSome_fieldName? member
    rw [← same, free] at named
    cases named
  rw [written_append, written_entries, written_of_avoids avoids, Option.or_none]

/-- What is kept beside the fields is read again. -/
theorem extrasOf_written (extra : Extra metadata.extras) :
    extrasOf (Table.ofList (metadata.fieldGroups ++ [metadata.extras.entries]).flatten).entries =
      metadata.extras := by
  refine Table.ext_find? fun key => ?_
  rw [find?_extrasOf, ← Table.find?_ofList, Table.ofList_entries]
  split
  · rename_i free
    refine (congrArg (Option.map Json.normal) (written_extra free)).trans ?_
    cases found : metadata.extras.find? key with
    | none => rfl
    | some value => exact congrArg some (extra found).2
  · rename_i named
    cases found : metadata.extras.find? key with
    | none => rfl
    | some value => exact absurd (extra found).1 named

/-- What is written is read as the fields and what is kept beside them. -/
theorem view?_encode (extra : Extra metadata.extras) :
    ∃ members view, metadata.encode = .object members ∧ extrasOf members = metadata.extras ∧
      view? fields (.object members) = some view ∧ view.Gives fields metadata.fieldGroups := by
  have plain : Plain fields (metadata.fieldGroups ++ [metadata.extras.entries]) := by
    simp [Plain, fields]
  obtain ⟨view, viewed, found⟩ := view?_record plain
  have given := gives_of_aligned (by decide) (aligned_fieldGroups metadata)
    fun field member => (found field member).trans (written_field extra member)
  rw [record_eq] at viewed
  exact ⟨_, view, record_eq _, extrasOf_written extra, viewed, given⟩

end Written

/-- Metadata that were read keep the members that are no field. -/
theorem extras_of_decode? {origin : Origin} {members : List (String × Json)}
    {metadata : Metadata} (read : decode? origin (.object members) = some metadata) :
    metadata.extras = extrasOf members := by
  simp only [decode?, Option.bind_eq_bind, Option.bind_eq_some_iff, Option.pure_def,
    Option.some.injEq] at read
  obtain ⟨_, _, _, _, _, _, _, _, _, _, _, _, _, _, _, _, rfl⟩ := read
  rfl

/-- Metadata as they can be read. -/
structure Proper (metadata : Metadata) : Prop where
  blocks : ∀ block ∈ metadata.blocks, block.Proper
  initData : ∀ free ∈ metadata.initData, free.IsNormal ∧ free ≠ .null
  permissionRequest : ∀ request ∈ metadata.permissionRequest, request.Proper
  permissionResponse : ∀ response ∈ metadata.permissionResponse, response.Proper
  toolCall : ∀ event ∈ metadata.toolCall, event.Proper
  display : ∀ display ∈ metadata.display, display.Proper
  extras : Extra metadata.extras

theorem exact (origin : Origin) : Exact (decode? origin) encode Proper where
  reads := by
    intro metadata proper
    obtain ⟨entries, view, encoded, extras, viewed, given⟩ := view?_encode proper.extras
    rw [encoded]
    obtain ⟨givenBlocks, givenSubtype, givenInitData, givenRequest, givenResponse, givenToolCall,
      givenDisplay, -⟩ := given
    unfold extrasOf at extras
    simp [decode?, viewed, extras, (ContentBlock.exact origin).filled proper.blocks givenBlocks,
      optional_string givenSubtype,
      exact_freeValue.optional_of_present proper.initData givenInitData,
      PermissionRequest.exact.optional rfl proper.permissionRequest givenRequest,
      (PermissionResponse.exact origin).optional rfl proper.permissionResponse givenResponse,
      (ToolEvent.exact origin).optional rfl proper.toolCall givenToolCall,
      (Display.exact origin).optional rfl proper.display givenDisplay]
  proper := by
    intro value metadata read
    cases value with
    | object members =>
        have extra : Extra metadata.extras := extras_of_decode? read ▸ extra_extrasOf members
        simp only [decode?, Option.bind_eq_bind, Option.bind_eq_some_iff, Option.pure_def,
          Option.some.injEq] at read
        obtain ⟨view, -, blocks, gotBlocks, subtype, -, initData, gotInitData, permissionRequest,
          gotRequest, permissionResponse, gotResponse, toolCall, gotToolCall, display, gotDisplay,
          same⟩ := read
        cases same
        exact {
          blocks := (ContentBlock.exact origin).proper_of_filled gotBlocks
          initData := filled_of_optional gotInitData
          permissionRequest := PermissionRequest.exact.proper_of_optional gotRequest
          permissionResponse := (PermissionResponse.exact origin).proper_of_optional gotResponse
          toolCall := (ToolEvent.exact origin).proper_of_optional gotToolCall
          display := (Display.exact origin).proper_of_optional gotDisplay
          extras := extra }
    | _ => cases read

/-- **A member without a field survives**: it is written under its key, in normal form, and of
repeated ones the last. -/
theorem member?_encode {origin : Origin} {members : List (String × Json)} {metadata : Metadata}
    (read : decode? origin (.object members) = some metadata) {key : String}
    (free : fieldName? fields key = .none) :
    metadata.encode.member? key = ((Json.object members).member? key).map Json.normal := by
  rw [encode_eq, member?_record, written_extra free, extras_of_decode? read, find?_extrasOf,
    if_pos free, Json.member?_object]

/-- No metadata are those of an object without members. -/
theorem proper_none : Metadata.none.Proper :=
  (exact .document).proper (show decode? .document (.object []) = some Metadata.none from rfl)

end Metadata

/-! ## Messages -/

/-- A message as it can be read. -/
def Message.Proper (message : Message) : Prop := message.metadata.Proper

theorem Message.exact (origin : Origin) :
    Exact (Message.decode? origin) Message.encode Message.Proper := by
  refine .record (by decide) (fun _ => by simp [Aligned, Message.fields]) ?_ ?_
  · rintro ⟨messageId, sessionId, type, content, timestamp, metadata⟩ view proper
      ⟨givenMessageId, givenSessionId, givenType, givenContent, givenTimestamp, givenMetadata, -⟩
    simp [exact_string.required trivial givenMessageId,
      exact_string.orElse trivial givenSessionId,
      (MessageType.exact origin).required trivial givenType,
      exact_string.orElse trivial givenContent, Timestamp.exact.orElse trivial givenTimestamp,
      (Metadata.exact origin).orElse proper givenMetadata]
  · intro view message got
    simp only [Option.bind_eq_bind, Option.bind_eq_some_iff, Option.pure_def,
      Option.some.injEq] at got
    obtain ⟨_, -, _, -, _, -, _, -, _, -, metadata, gotMetadata, rfl⟩ := got
    exact (Metadata.exact origin).proper_of_orElse Metadata.proper_none gotMetadata

end SessionSync
