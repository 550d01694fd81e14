import SessionSync.Proofs.Wire.Tool
import SessionSync.Wire.Entity
import SessionSync.Wire.Session

/-!
# The records of sessions are read again

The record of a session, the changes of its state, and what it holds beside its messages are
read exactly where they are proper: where their numbers are in range and their free values in
normal form.
-/

set_option autoImplicit false

namespace SessionSync

open Wire

/-! ## Words -/

theorem SessionState.exact (origin : Origin) :
    Exact (SessionState.decode? origin) SessionState.encode fun _ => True :=
  exact_word origin SessionState.ofName?_name

theorem PermissionMode.exact (origin : Origin) :
    Exact (PermissionMode.decode? origin) PermissionMode.encode fun _ => True :=
  exact_word origin PermissionMode.ofName?_name

theorem ResourceKind.exact (origin : Origin) :
    Exact (ResourceKind.decode? origin) ResourceKind.encode fun _ => True :=
  exact_word origin fun kind => by cases kind <;> rfl

theorem TaskStatus.exact (origin : Origin) :
    Exact (TaskStatus.decode? origin) TaskStatus.encode fun _ => True :=
  exact_word origin fun status => by cases status <;> decide

/-! ## Sessions -/

/-- A session record as it can be read. -/
def Session.Proper (session : Session) : Prop :=
  signedMin ≤ session.order ∧ session.order ≤ signedMax

theorem Session.exact (origin : Origin) :
    Exact (Session.decode? origin) Session.encode Session.Proper := by
  refine .record (by decide) (fun _ => by simp [Aligned, Session.fields]) ?_ ?_
  · rintro ⟨sessionId, name, state, mode, order, projectId, errorMessage, updatedAt⟩ view proper
      ⟨givenSessionId, givenName, givenState, givenMode, givenOrder, givenProjectId,
        givenErrorMessage, givenUpdatedAt, -⟩
    simp [exact_string.required trivial givenSessionId, exact_string.orElse trivial givenName,
      (SessionState.exact origin).required trivial givenState,
      (PermissionMode.exact origin).orElse trivial givenMode,
      (exact_integerIn signedMin signedMax).orElse proper givenOrder,
      optional_string givenProjectId, optional_string givenErrorMessage,
      optional_timestamp givenUpdatedAt]
  · intro view session got
    simp only [Option.bind_eq_bind, Option.bind_eq_some_iff, Option.pure_def,
      Option.some.injEq] at got
    obtain ⟨_, -, _, -, _, -, _, -, order, gotOrder, _, -, _, -, _, -, rfl⟩ := got
    exact (exact_integerIn signedMin signedMax).proper_of_orElse (by decide) gotOrder

/-- A state change as it can be read. -/
def StateChange.Proper (change : StateChange) : Prop :=
  ∀ session ∈ change.session, session.Proper

theorem StateChange.exact (origin : Origin) :
    Exact (StateChange.decode? origin) StateChange.encode StateChange.Proper := by
  refine .record (by decide) (fun _ => by simp [Aligned, StateChange.fields]) ?_ ?_
  · rintro ⟨sessionId, state, errorMessage, mode, session⟩ view proper
      ⟨givenSessionId, givenState, givenErrorMessage, givenMode, givenSession, -⟩
    simp [optional_string givenSessionId, (SessionState.exact origin).required trivial givenState,
      optional_string givenErrorMessage,
      (PermissionMode.exact origin).optional rfl (fun _ _ => trivial) givenMode,
      (Session.exact origin).optional rfl proper givenSession]
  · intro view change got
    simp only [Option.bind_eq_bind, Option.bind_eq_some_iff, Option.pure_def,
      Option.some.injEq] at got
    obtain ⟨_, -, _, -, _, -, _, -, session, gotSession, rfl⟩ := got
    exact (Session.exact origin).proper_of_optional gotSession

/-! ## Resources, queued messages, tasks and schedules -/

/-- A resource as it can be read. -/
def Resource.Proper (resource : Resource) : Prop := ∀ size ∈ resource.sizeBytes, size ≤ wordMax

theorem Resource.exact (origin : Origin) :
    Exact (Resource.decode? origin) Resource.encode Resource.Proper := by
  refine .record (by decide) (fun _ => by simp [Aligned, Resource.fields]) ?_ ?_
  · rintro ⟨resourceId, sessionId, kind, title, description, mimeType, sizeBytes, createdAt⟩ view
      proper ⟨givenResourceId, givenSessionId, givenKind, givenTitle, givenDescription,
        givenMimeType, givenSizeBytes, givenCreatedAt, -⟩
    simp [exact_string.required trivial givenResourceId,
      exact_string.orElse trivial givenSessionId,
      (ResourceKind.exact origin).required trivial givenKind,
      exact_string.orElse trivial givenTitle, optional_string givenDescription,
      optional_string givenMimeType,
      (exact_naturalUpTo wordMax).optional rfl proper givenSizeBytes,
      optional_timestamp givenCreatedAt]
  · intro view resource got
    simp only [Option.bind_eq_bind, Option.bind_eq_some_iff, Option.pure_def,
      Option.some.injEq] at got
    obtain ⟨_, -, _, -, _, -, _, -, _, -, _, -, size, gotSize, _, -, rfl⟩ := got
    exact (exact_naturalUpTo wordMax).proper_of_optional gotSize

/-- A queued message as it can be read. -/
def QueueItem.Proper (item : QueueItem) : Prop := item.position ≤ halfWordMax

theorem QueueItem.exact : Exact QueueItem.decode? QueueItem.encode QueueItem.Proper := by
  refine .record (by decide) (fun _ => by simp [Aligned, QueueItem.fields]) ?_ ?_
  · rintro ⟨queueId, sessionId, content, position, createdAt⟩ view proper
      ⟨givenQueueId, givenSessionId, givenContent, givenPosition, givenCreatedAt, -⟩
    simp [exact_string.required trivial givenQueueId, exact_string.orElse trivial givenSessionId,
      exact_string.orElse trivial givenContent,
      (exact_naturalUpTo halfWordMax).orElse proper givenPosition,
      optional_timestamp givenCreatedAt]
  · intro view item got
    simp only [Option.bind_eq_bind, Option.bind_eq_some_iff, Option.pure_def,
      Option.some.injEq] at got
    obtain ⟨_, -, _, -, _, -, position, gotPosition, _, -, rfl⟩ := got
    exact (exact_naturalUpTo halfWordMax).proper_of_orElse (Nat.zero_le _) gotPosition

theorem TaskItem.exact (origin : Origin) :
    Exact (TaskItem.decode? origin) TaskItem.encode fun _ => True := by
  refine .record (by decide) (fun _ => by simp [Aligned, TaskItem.fields]) ?_ fun _ => trivial
  rintro ⟨taskId, content, status, activeForm⟩ view -
    ⟨givenTaskId, givenContent, givenStatus, givenActiveForm, -⟩
  simp [exact_string.required trivial givenTaskId, exact_string.required trivial givenContent,
    (TaskStatus.exact origin).required trivial givenStatus, optional_string givenActiveForm]

theorem Schedule.exact : Exact Schedule.decode? Schedule.encode fun _ => True := by
  refine .record (by decide) (fun _ => by simp [Aligned, Schedule.fields]) ?_ fun _ => trivial
  rintro ⟨scheduleId, sessionId, name, cronExpression, enabled, nextRun⟩ view -
    ⟨givenScheduleId, givenSessionId, givenName, givenCronExpression, givenEnabled,
      givenNextRun, -⟩
  simp [exact_string.required trivial givenScheduleId, exact_string.orElse trivial givenSessionId,
    exact_string.orElse trivial givenName, optional_string givenCronExpression,
    exact_bool.orElse trivial givenEnabled, optional_timestamp givenNextRun]

/-! ## Communications of a legion -/

/-- A communication as it can be read. -/
def Communication.Proper (communication : Communication) : Prop :=
  ∀ free ∈ communication.metadata, free.IsNormal ∧ free ≠ .null

theorem Communication.exact :
    Exact Communication.decode? Communication.encode Communication.Proper := by
  refine .record (by decide) (fun _ => by simp [Aligned, Communication.fields]) ?_ ?_
  · rintro ⟨commId, legionId, fromSession, toSession, content, timestamp, metadata⟩ view proper
      ⟨givenCommId, givenLegionId, givenFromSession, givenToSession, givenContent,
        givenTimestamp, givenMetadata, -⟩
    simp [exact_string.required trivial givenCommId, exact_string.required trivial givenLegionId,
      optional_string givenFromSession, optional_string givenToSession,
      exact_string.orElse trivial givenContent, Timestamp.exact.orElse trivial givenTimestamp,
      exact_freeValue.optional_of_present proper givenMetadata]
  · intro view communication got
    simp only [Option.bind_eq_bind, Option.bind_eq_some_iff, Option.pure_def,
      Option.some.injEq] at got
    obtain ⟨_, -, _, -, _, -, _, -, _, -, _, -, metadata, gotMetadata, rfl⟩ := got
    exact filled_of_optional gotMetadata

end SessionSync
