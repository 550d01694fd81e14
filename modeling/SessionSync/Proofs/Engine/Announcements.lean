import SessionSync.Proofs.Engine.Reachability
import SessionSync.Proofs.EntityStore.Frames
import SessionSync.Proofs.MessageStore.SessionEnds

/-!
# What is announced

Readers see of every session its messages, its tool calls, its orphans, and its caches, and
of every legion its communications.  An announcement names a session or a legion and tells
which parts of it may have changed (`StoreEvent.tells`).

No step changes a part without telling of it (`announced_of_changed`), so readers who look
up again only what is announced are never behind.
-/

set_option autoImplicit false

namespace SessionSync

/-! ## Parts and what tells of them -/

/-- A part of what readers see.  The communications are those of a legion, every other part
is one of a session. -/
inductive Part where
  | messages
  | toolCalls
  | orphans
  | resources
  | queue
  | tasks
  | schedules
  | communications
  deriving DecidableEq

/-- Readers see the same of a part before and after. -/
def Part.Same (before after : Engine) (scope : String) : Part → Prop
  | .messages => after.messages.messages scope = before.messages.messages scope
  | .toolCalls =>
      after.messages.toolCalls scope = before.messages.toolCalls scope ∧
        ∀ toolId, after.messages.toolCall? scope toolId = before.messages.toolCall? scope toolId
  | .orphans =>
      ∀ toolId, after.messages.orphan? scope toolId = before.messages.orphan? scope toolId
  | .resources => after.entities.resources.get scope = before.entities.resources.get scope
  | .queue => after.entities.queue.get scope = before.entities.queue.get scope
  | .tasks => after.entities.tasks.get scope = before.entities.tasks.get scope
  | .schedules => after.entities.schedules.get scope = before.entities.schedules.get scope
  | .communications => after.entities.legion.get scope = before.entities.legion.get scope

/-- Whether an announcement tells that a part of a session, or of a legion, may have
changed. -/
def StoreEvent.tells (part : Part) (scope : String) : StoreEvent → Prop
  | .messagesChanged sessionId | .historyLoaded sessionId _ =>
      part = .messages ∧ sessionId = scope
  | .toolCallsChanged sessionId | .toolsOrphaned sessionId _ =>
      (part = .toolCalls ∨ part = .orphans) ∧ sessionId = scope
  | .resourcesChanged sessionId => part = .resources ∧ sessionId = scope
  | .queueChanged sessionId => part = .queue ∧ sessionId = scope
  | .tasksChanged sessionId => part = .tasks ∧ sessionId = scope
  | .schedulesChanged sessionId => part = .schedules ∧ sessionId = scope
  | .sessionRemoved sessionId => part ≠ .communications ∧ sessionId = scope
  | .legionMessage legionId _ => part = .communications ∧ legionId = scope
  | _ => False

/-- The caches but for the one of a part. -/
def EntityStore.without (store : EntityStore) : Part → EntityStore
  | .resources => { store with resources := ⟨{}⟩ }
  | .queue => { store with queue := ⟨{}⟩ }
  | .tasks => { store with tasks := ⟨{}⟩ }
  | .schedules => { store with schedules := ⟨{}⟩ }
  | .communications => { store with legion := ⟨{}⟩ }
  | .messages | .toolCalls | .orphans => store

/-! ## Parts of what is the same -/

namespace Part

variable {first second third before after : Engine} {scope : String} {part : Part}

theorem Same.trans (earlier : part.Same first second scope) (later : part.Same second third scope) :
    part.Same first third scope := by
  cases part with
  | toolCalls => exact ⟨later.1.trans earlier.1, fun id => (later.2 id).trans (earlier.2 id)⟩
  | orphans => exact fun id => (later id).trans (earlier id)
  | _ => exact Eq.trans later earlier

/-- Whether a part is read from the log of a session. -/
def isLogged : Part → Bool
  | .messages | .toolCalls | .orphans => true
  | _ => false

/-- Whether a part tells of tool uses. -/
def isOfTools : Part → Bool
  | .toolCalls | .orphans => true
  | _ => false

/-- Caches that differ in the drafts at most show the same. -/
theorem same_of_caches (logged : part.isLogged = false)
    (caches : after.entities = { before.entities with drafts := after.entities.drafts }) :
    part.Same before after scope := by
  cases part with
  | messages => cases logged
  | toolCalls => cases logged
  | orphans => cases logged
  | _ =>
      unfold Same
      dsimp only
      rw [caches]

/-- What tells of tool uses is read from the tracker of the log. -/
theorem same_of_tracker (tools : part.isOfTools = true)
    (tracker : (after.messages.log scope).tracker = (before.messages.log scope).tracker) :
    part.Same before after scope := by
  cases part with
  | toolCalls =>
      refine ⟨?_, fun toolId => ?_⟩
      · rw [MessageStore.toolCalls_eq, MessageStore.toolCalls_eq, tracker]
      · rw [MessageStore.toolCall?_eq, MessageStore.toolCall?_eq, tracker]
  | orphans =>
      intro toolId
      rw [MessageStore.orphan?_eq, MessageStore.orphan?_eq, tracker]
  | _ => cases tools

theorem same_messages (kept : (after.messages.log scope).messages =
    (before.messages.log scope).messages) : Part.messages.Same before after scope := by
  show after.messages.messages scope = before.messages.messages scope
  rw [MessageStore.messages_eq, MessageStore.messages_eq, kept]

theorem same_of_log (logged : part.isLogged = true)
    (kept : after.messages.log scope = before.messages.log scope) :
    part.Same before after scope := by
  cases part with
  | messages => exact same_messages (congrArg Log.messages kept)
  | toolCalls => exact same_of_tracker rfl (congrArg Log.tracker kept)
  | orphans => exact same_of_tracker rfl (congrArg Log.tracker kept)
  | _ => cases logged

/-- The caches of a session are forgotten, and no other ones. -/
theorem same_of_forgotten {sessionId : String} (cached : part.isLogged = false)
    (elsewhere : part = .communications ∨ scope ≠ sessionId)
    (entities : after.entities = before.entities.forgetSession sessionId) :
    part.Same before after scope := by
  cases part with
  | messages => cases cached
  | toolCalls => cases cached
  | orphans => cases cached
  | communications =>
      show after.entities.legion.get scope = before.entities.legion.get scope
      rw [entities]
      rfl
  | resources =>
      show after.entities.resources.get scope = before.entities.resources.get scope
      rw [entities]
      exact KeyedCache.get_clear_of_ne _ _ (elsewhere.resolve_left nofun)
  | queue =>
      show after.entities.queue.get scope = before.entities.queue.get scope
      rw [entities]
      exact ListCache.get_clear_of_ne _ _ (elsewhere.resolve_left nofun)
  | tasks =>
      show after.entities.tasks.get scope = before.entities.tasks.get scope
      rw [entities]
      exact ListCache.get_clear_of_ne _ _ (elsewhere.resolve_left nofun)
  | schedules =>
      show after.entities.schedules.get scope = before.entities.schedules.get scope
      rw [entities]
      exact KeyedCache.get_clear_of_ne _ _ (elsewhere.resolve_left nofun)

/-- The other parts are the same where the other caches are. -/
theorem same_of_without {concerned : Part} (other : part ≠ concerned)
    (messages : after.messages = before.messages)
    (rest : after.entities.without concerned = before.entities.without concerned) :
    part.Same before after scope := by
  cases part <;> cases concerned <;> simp_all [Same, EntityStore.without]

end Part

namespace Engine

/-! ## Outcomes that tell of their changes -/

/-- Of every part, readers see the same after the outcome, or an announcement tells of the
part. -/
def Tells (engine : Engine) (outcome : Engine × List Effect) : Prop :=
  ∀ (part : Part) (scope : String), part.Same engine outcome.1 scope ∨
    ∃ event, .publish event ∈ outcome.2 ∧ event.tells part scope

namespace Tells

variable {engine : Engine}

/-- What one outcome tells and what the next one tells make up what both tell. -/
theorem trans {first second : Engine × List Effect} (earlier : engine.Tells first)
    (later : first.1.Tells second) : engine.Tells (second.1, first.2 ++ second.2) := by
  intro part scope
  rcases later part scope with same | ⟨event, published, tells⟩
  · rcases earlier part scope with before | ⟨event, published, tells⟩
    · exact Or.inl (before.trans same)
    · exact Or.inr ⟨event, List.mem_append_left _ published, tells⟩
  · exact Or.inr ⟨event, List.mem_append_right _ published, tells⟩

/-- More may be announced, and more may be done. -/
theorem more {outcome : Engine × List Effect} {effects : List Effect} (told : engine.Tells outcome)
    (all : ∀ event, .publish event ∈ outcome.2 → .publish event ∈ effects) :
    engine.Tells (outcome.1, effects) := by
  intro part scope
  refine (told part scope).imp_right ?_
  rintro ⟨event, published, tells⟩
  exact ⟨event, all event published, tells⟩

/-- Beside the logs and the caches readers see nothing of a session. -/
theorem same {outcome : Engine × List Effect} (told : engine.Tells outcome) {next : Engine}
    (messages : next.messages = outcome.1.messages)
    (entities : next.entities = outcome.1.entities) :
    engine.Tells (next, outcome.2) := by
  intro part scope
  refine (told part scope).imp_left fun same => same.trans ?_
  cases part <;> simp [Part.Same, messages, entities]

end Tells

section Outcomes

variable {engine next : Engine} {effects : List Effect} {sessionId : String}

/-- Nothing that readers see has changed. -/
theorem tells_nothing (messages : next.messages = engine.messages)
    (caches : next.entities = { engine.entities with drafts := next.entities.drafts }) :
    engine.Tells (next, effects) := by
  intro part scope
  left
  cases logged : part.isLogged with
  | true =>
      refine Part.same_of_log logged ?_
      show next.messages.log scope = engine.messages.log scope
      rw [messages]
  | false => exact Part.same_of_caches logged caches

/-- Only the log of a session has changed, and it is announced in all its parts, or its
messages are the same and its tools are announced, or all is the same. -/
theorem tells_log (entities : next.entities = engine.entities)
    (elsewhere : ∀ probe ≠ sessionId, next.messages.log probe = engine.messages.log probe)
    (here : next.messages.log sessionId = engine.messages.log sessionId ∨
      (∃ event, .publish event ∈ effects ∧
        ∀ part : Part, part.isOfTools = true → event.tells part sessionId) ∧
      ((next.messages.log sessionId).messages = (engine.messages.log sessionId).messages ∨
        .publish (.messagesChanged sessionId) ∈ effects)) :
    engine.Tells (next, effects) := by
  intro part scope
  cases logged : part.isLogged with
  | false => exact Or.inl (Part.same_of_caches logged (by rw [entities]))
  | true =>
      by_cases other : scope = sessionId
      · subst other
        rcases here with same | ⟨⟨event, published, tells⟩, messages⟩
        · exact Or.inl (Part.same_of_log logged same)
        · cases part with
          | messages =>
              refine messages.imp Part.same_messages fun changed => ?_
              exact ⟨_, changed, rfl, rfl⟩
          | toolCalls => exact Or.inr ⟨event, published, tells _ rfl⟩
          | orphans => exact Or.inr ⟨event, published, tells _ rfl⟩
          | _ => cases logged
      · exact Or.inl (Part.same_of_log logged (elsewhere scope other))

/-- A change of the logs is announced in all its parts. -/
theorem tells_after {change : StoreChange} (concerns : change.sessionId = sessionId)
    (messages : next.messages = engine.messages.after change)
    (entities : next.entities = engine.entities)
    (told : .publish (.messagesChanged sessionId) ∈ effects ∧
      .publish (.toolCallsChanged sessionId) ∈ effects) : engine.Tells (next, effects) := by
  subst concerns
  refine tells_log entities ?_ (Or.inr ⟨⟨_, told.2, ?_⟩, Or.inr told.1⟩)
  · intro probe elsewhere
    rw [messages, MessageStore.log_after_of_ne _ elsewhere]
  · intro part tools
    cases part with
    | toolCalls => exact ⟨Or.inl rfl, rfl⟩
    | orphans => exact ⟨Or.inr rfl, rfl⟩
    | _ => cases tools

/-- A change of the tool calls of a session is announced. -/
theorem tells_tracker {tracker : Tracker}
    (messages : next.messages =
      engine.messages.put sessionId { engine.messages.log sessionId with tracker })
    (entities : next.entities = engine.entities)
    (told : ∃ event, .publish event ∈ effects ∧
      ∀ part : Part, part.isOfTools = true → event.tells part sessionId) :
    engine.Tells (next, effects) := by
  refine tells_log entities ?_ (Or.inr ⟨told, Or.inl ?_⟩)
  · intro probe elsewhere
    rw [messages, MessageStore.log_put_of_ne _ _ _ elsewhere]
  · rw [messages, MessageStore.log_put]

end Outcomes

theorem tells_toolCallsChanged (sessionId : String) (part : Part) (tools : part.isOfTools = true) :
    (StoreEvent.toolCallsChanged sessionId).tells part sessionId := by
  cases part with
  | toolCalls => exact ⟨Or.inl rfl, rfl⟩
  | orphans => exact ⟨Or.inr rfl, rfl⟩
  | _ => cases tools

theorem tells_toolsOrphaned (sessionId : String) (toolIds : List String) (part : Part)
    (tools : part.isOfTools = true) :
    (StoreEvent.toolsOrphaned sessionId toolIds).tells part sessionId :=
  tells_toolCallsChanged sessionId part tools

/-! ## Frames -/

section Frames

variable (engine : Engine)

theorem tells_orphanOn (sessionId : String) (transition : Transition) :
    engine.Tells (published (engine.orphanOn sessionId transition)) := by
  let ended : StoreChange := .sessionState sessionId transition.current
  have elsewhere : ∀ probe ≠ sessionId,
      (engine.messages.after ended).log probe = engine.messages.log probe :=
    fun probe other => MessageStore.log_after_of_ne _ (show probe ≠ ended.sessionId from other)
  unfold orphanOn
  split
  · refine tells_log rfl elsewhere ?_
    cases orphaned : (engine.messages.onSessionState sessionId transition.current).2 with
    | nil => exact Or.inl (engine.messages.log_of_no_orphans orphaned)
    | cons first rest =>
        refine Or.inr ⟨⟨_, ?_, tells_toolsOrphaned sessionId (first :: rest)⟩, Or.inl ?_⟩
        · simp [orphaned]
        · exact engine.messages.messages_onSessionState sessionId transition.current
  · exact tells_nothing rfl rfl

/-- What one change announces and what the next one announces. -/
theorem Tells.announced {engine next last : Engine} {events more : List StoreEvent}
    (earlier : engine.Tells (published (next, events)))
    (later : next.Tells (published (last, more))) :
    engine.Tells (published (last, events ++ more)) := by
  have both := earlier.trans later
  unfold published at both ⊢
  rw [List.map_append]
  exact both

theorem tells_upsertSession (session : Session) :
    engine.Tells (published (engine.upsertSession session)) := by
  have written : engine.Tells (published ({ engine with
      sessions := (engine.sessions.upsert session).1 },
      changeEvents session.sessionId (engine.sessions.upsert session).2)) := tells_nothing rfl rfl
  exact written.announced (tells_orphanOn _ _ _)

theorem tells_replaceSessions (sessions : List Session) :
    engine.Tells (published (engine.replaceSessions sessions)) := by
  unfold replaceSessions
  dsimp only
  refine Tells.announced ?_ (tells_nothing rfl rfl)
  exact List.foldlRecOn
    (motive := fun outcome : Engine × List StoreEvent => engine.Tells (published outcome))
    sessions _ (tells_nothing rfl rfl) fun outcome before session _ =>
      before.announced (tells_orphanOn outcome.1 _ _)

theorem tells_changeState (sessionId : String) (change : StateChange) :
    engine.Tells (published (engine.changeState sessionId change)) := by
  unfold changeState
  split
  · rename_i sessions transition _
    have written : engine.Tells (published ({ engine with sessions },
        changeEvents sessionId transition)) := tells_nothing rfl rfl
    exact written.announced (tells_orphanOn _ _ _)
  · split
    · exact tells_orphanOn engine _ _
    · exact tells_nothing rfl rfl

/-- Everything of a session that is deleted is told of at once, and nothing else changes. -/
theorem tells_deleteSession (sessionId : String) :
    engine.Tells (engine.deleteSession sessionId) := by
  have removed :
      Effect.publish (.sessionRemoved sessionId) ∈ (engine.deleteSession sessionId).2 := by
    simp [deleteSession]
  have messages :
      (engine.deleteSession sessionId).1.messages = engine.messages.clear sessionId := by
    unfold deleteSession
    dsimp only
    split <;> rfl
  have entities :
      (engine.deleteSession sessionId).1.entities = engine.entities.forgetSession sessionId := by
    unfold deleteSession
    dsimp only
    split <;> rfl
  intro part scope
  by_cases told : part ≠ .communications ∧ sessionId = scope
  · exact Or.inr ⟨_, removed, told⟩
  · left
    have elsewhere : part = .communications ∨ scope ≠ sessionId := by
      by_cases legions : part = .communications
      · exact Or.inl legions
      · exact Or.inr fun here => told ⟨legions, here.symm⟩
    cases logged : part.isLogged with
    | true =>
        have other : scope ≠ sessionId := by
          refine elsewhere.resolve_left fun legions => ?_
          rw [legions] at logged
          cases logged
        refine Part.same_of_log logged ?_
        rw [messages]
        exact MessageStore.log_after_of_ne _
          (show scope ≠ (StoreChange.clear sessionId).sessionId from other)
    | false => exact Part.same_of_forgotten logged elsewhere entities

theorem tells_addMessage (sessionId : String) (message : Message) :
    engine.Tells (published (engine.addMessage sessionId message)) := by
  let added : StoreChange := .addMessage sessionId message
  unfold addMessage
  dsimp only
  split
  · exact tells_after (show added.sessionId = sessionId from rfl) rfl rfl (by simp)
  · rename_i known
    refine tells_log rfl (fun probe other => MessageStore.log_after_of_ne _
      (show probe ≠ added.sessionId from other)) (Or.inl ?_)
    show (engine.messages.addMessage sessionId message).1.log sessionId =
      engine.messages.log sessionId
    rw [MessageStore.log_addMessage]
    cases held : (engine.messages.log sessionId).ids.contains message.messageId with
    | true => rw [Log.add_of_contains held]
    | false => exact absurd (by simp [MessageStore.addMessage, Log.add, held]) known

/-- A change of a cache is told of by an announcement of its own: it concerns one part of one
scope, and where it is silent it shows nothing new there. -/
theorem tells_onEntities {change : EntityStore → EntityStore × Bool} {event : StoreEvent}
    (concerned : Part) (scope : String) (tells : event.tells concerned scope)
    (rest : (change engine.entities).1.without concerned = engine.entities.without concerned)
    (elsewhere : ∀ probe ≠ scope,
      concerned.Same engine { engine with entities := (change engine.entities).1 } probe)
    (silent : (change engine.entities).2 = false →
      concerned.Same engine { engine with entities := (change engine.entities).1 } scope) :
    engine.Tells (published (engine.onEntities change event)) := by
  intro part probe
  by_cases other : part = concerned
  · subst other
    by_cases here : probe = scope
    · subst here
      cases changed : (change engine.entities).2 with
      | false => exact Or.inl (silent changed)
      | true => exact Or.inr ⟨event, by simp [onEntities, published, changed], tells⟩
    · exact Or.inl (elsewhere probe here)
  · exact Or.inl (Part.same_of_without other rfl rest)

theorem tells_applyScoped (sessionId : String) (frame : ServerFrame) :
    engine.Tells (published (engine.applyScoped sessionId frame)) := by
  have calls : Effect.publish (.toolCallsChanged sessionId) ∈
      (published (engine, [.toolCallsChanged sessionId])).2 := by
    simp [published]
  cases frame with
  | message explicit message => exact engine.tells_addMessage sessionId message
  | toolCall event =>
      exact tells_tracker rfl rfl ⟨_, calls, tells_toolCallsChanged sessionId⟩
  | permissionRequest request =>
      exact tells_tracker rfl rfl ⟨_, List.mem_cons_self, tells_toolCallsChanged sessionId⟩
  | permissionResponse response =>
      exact tells_tracker rfl rfl ⟨_, calls, tells_toolCallsChanged sessionId⟩
  | stateChange explicit change => exact engine.tells_changeState sessionId change
  | resourceRegistered resource =>
      have reports := engine.entities.resources.reports_upsert Resource.encode sessionId
        resource.resourceId resource
      exact engine.tells_onEntities .resources sessionId ⟨rfl, rfl⟩ rfl reports.elsewhere
        reports.silent_here
  | resourceRemoved resourceId explicit =>
      have reports := engine.entities.resources.reports_remove sessionId resourceId
      exact engine.tells_onEntities .resources sessionId ⟨rfl, rfl⟩ rfl reports.elsewhere
        reports.silent_here
  | queueUpdate explicit items =>
      have reports := engine.entities.queue.reports_replace QueueItem.encode sessionId
        (sortByKey (fun item => item.position) items)
      exact engine.tells_onEntities .queue sessionId ⟨rfl, rfl⟩ rfl reports.elsewhere
        reports.silent_here
  | taskUpdate explicit tasks =>
      have reports := engine.entities.tasks.reports_replace TaskItem.encode sessionId tasks
      exact engine.tells_onEntities .tasks sessionId ⟨rfl, rfl⟩ rfl reports.elsewhere
        reports.silent_here
  | scheduleUpdate schedule =>
      have reports := engine.entities.schedules.reports_upsert Schedule.encode sessionId
        schedule.scheduleId schedule
      exact engine.tells_onEntities .schedules sessionId ⟨rfl, rfl⟩ rfl reports.elsewhere
        reports.silent_here
  | scheduleRemoved scheduleId explicit =>
      have reports := engine.entities.schedules.reports_remove sessionId scheduleId
      exact engine.tells_onEntities .schedules sessionId ⟨rfl, rfl⟩ rfl reports.elsewhere
        reports.silent_here
  | _ => exact tells_nothing rfl rfl

theorem tells_applyFrame (channel : Channel) (frame : ServerFrame) :
    engine.Tells (engine.applyFrame channel frame) := by
  unfold applyFrame
  split
  · exact engine.tells_replaceSessions _
  · exact engine.tells_upsertSession _
  · exact engine.tells_upsertSession _
  · exact engine.tells_deleteSession _
  · rename_i communication
    have reports := engine.entities.legion.reports_upsert Communication.encode
      communication.legionId communication.commId communication
    exact engine.tells_onEntities .communications communication.legionId ⟨rfl, rfl⟩ rfl
      reports.elsewhere reports.silent_here
  · exact tells_nothing rfl rfl
  · exact tells_nothing rfl rfl
  · exact tells_nothing rfl rfl
  · split
    · exact engine.tells_applyScoped _ _
    · exact tells_nothing rfl rfl

end Frames

/-! ## Selections and gaps -/

section Selections

variable (engine : Engine)

theorem tells_loadHistory (sessionId : String) (page : Backend.Page) :
    engine.Tells (engine.loadHistory sessionId page) := by
  let loaded : StoreChange := .loadHistory sessionId page.messages engine.sessions.stateOf
  refine tells_after (show loaded.sessionId = sessionId from rfl) rfl rfl ⟨?_, ?_⟩
  · simp
  · simp

theorem tells_onSelectionStep (epoch : Nat) (step : SelectionStep) :
    engine.Tells (engine.onSelectionStep epoch step) := by
  unfold onSelectionStep
  split
  · exact tells_nothing rfl rfl
  · split
    · exact tells_nothing rfl rfl
    · cases step with
      | session session => exact engine.tells_upsertSession session
      | history page => exact engine.tells_loadHistory _ page
      | failed failure => exact tells_nothing rfl rfl

/-- A page that brings nothing changes nothing, and any other one is announced. -/
theorem tells_applySync (sessionId : String) (generation : Nat)
    (outcome : Except Failure Backend.Page) :
    engine.Tells (published ((engine.applySync sessionId generation outcome).1,
      (engine.applySync sessionId generation outcome).2.2)) := by
  unfold applySync
  split
  · cases outcome with
    | error failure => exact tells_nothing rfl rfl
    | ok page =>
        let merged : StoreChange := .mergeSync sessionId page.messages page.hasMore
        by_cases nothing : (engine.messages.log sessionId).missing page.messages = []
        · refine tells_log rfl (fun probe other => MessageStore.log_after_of_ne _
            (show probe ≠ merged.sessionId from other)) (Or.inl ?_)
          show (engine.messages.mergeSync sessionId page.messages page.hasMore).1.log sessionId =
            engine.messages.log sessionId
          rw [MessageStore.log_mergeSync, Log.merge_of_nothing nothing]
        · have brought : 0 < (engine.messages.mergeSync sessionId page.messages
              page.hasMore).2.synced := by
            show 0 < ((engine.messages.log sessionId).merge page.messages).2
            rw [Log.merge_eq nothing]
            exact List.length_pos_iff.2 nothing
          refine tells_after (show merged.sessionId = sessionId from rfl) rfl rfl ?_
          simp [brought]
  · exact tells_nothing rfl rfl

end Selections

/-! ## Commands -/

section Commands

variable (engine : Engine)

theorem tells_sendFor (caller : Caller) (frame : ClientFrame) (success : Answer)
    {onSent : Engine → String → Engine}
    (messages : ∀ sessionId, (onSent engine sessionId).messages = engine.messages)
    (caches : ∀ sessionId, (onSent engine sessionId).entities =
      { engine.entities with drafts := (onSent engine sessionId).entities.drafts }) :
    engine.Tells (engine.sendFor caller frame success onSent) := by
  unfold sendFor
  split
  · exact tells_nothing (messages _) (caches _)
  · exact tells_nothing rfl rfl

theorem tells_onCommand (caller : Caller) (command : Command) :
    engine.Tells (engine.onCommand caller command) := by
  cases command with
  | sendMessage content messageId =>
      exact engine.tells_sendFor _ _ _ (fun _ => rfl) fun _ => rfl
  | respondPermission answer => exact engine.tells_sendFor _ _ _ (fun _ => rfl) fun _ => rfl
  | interruptSession => exact engine.tells_sendFor _ _ _ (fun _ => rfl) fun _ => rfl
  | syncMessages sessionId =>
      unfold onCommand
      dsimp only
      split
      · exact tells_nothing rfl rfl
      · exact tells_nothing rfl rfl
  | toggleToolExpanded sessionId toolId =>
      let toggled : StoreChange := .toggle sessionId toolId
      refine tells_log rfl (fun probe other => MessageStore.log_after_of_ne _
        (show probe ≠ toggled.sessionId from other)) ?_
      cases expanded : (engine.messages.toggleExpanded sessionId toolId).2 with
      | none => exact Or.inl (engine.messages.log_of_no_toggle expanded)
      | some value =>
          refine Or.inr ⟨⟨_, ?_, tells_toolCallsChanged sessionId⟩, Or.inl ?_⟩
          · show _ ∈ (if (engine.messages.toggleExpanded sessionId toolId).2.isSome then
              [Effect.publish (.toolCallsChanged sessionId)] else []) ++ _
            rw [expanded]
            exact List.mem_cons_self
          · show ((engine.messages.toggleExpanded sessionId toolId).1.log sessionId).messages =
              (engine.messages.log sessionId).messages
            rw [MessageStore.log_toggleExpanded]
            rfl
  | markToolOrphaned sessionId toolId reason =>
      refine tells_tracker rfl rfl ⟨_, ?_, tells_toolsOrphaned sessionId [toolId]⟩
      simp
  | _ => exact tells_nothing rfl rfl

end Commands

/-! ## Steps -/

section Steps

variable (engine : Engine)

theorem tells_onChannelEvent (event : ChannelEvent) :
    engine.Tells (engine.onChannelEvent event) := by
  cases event with
  | status channel generation status => exact tells_nothing rfl rfl
  | opened channel generation kind =>
      cases channel <;> cases kind <;> exact tells_nothing rfl rfl
  | frame channel generation frame =>
      have applied := engine.tells_applyFrame channel frame
      unfold onChannelEvent
      dsimp only
      split
      · exact applied.same rfl rfl
      · exact applied

theorem tells_handle (input : Input) : engine.Tells (engine.handle input) := by
  cases input with
  | command caller command => exact engine.tells_onCommand caller command
  | sessionsFetched caller outcome =>
      cases outcome with
      | ok sessions =>
          exact (engine.tells_replaceSessions sessions).more fun _ published =>
            List.mem_append_left _ published
      | error failure => exact tells_nothing rfl rfl
  | selection epoch step => exact engine.tells_onSelectionStep epoch step
  | syncFetched caller sessionId generation outcome =>
      exact (engine.tells_applySync sessionId generation outcome).more fun _ published =>
        List.mem_append_left _ published
  | channel event =>
      unfold handle
      dsimp only
      split
      · exact engine.tells_onChannelEvent event
      · exact tells_nothing rfl rfl

theorem tells_step (input : Input) : engine.Tells (engine.step input) := by
  unfold step
  split
  · exact engine.tells_handle input
  · exact tells_nothing rfl rfl

/-- **Whatever a step changes is announced**: if readers see anything else of a part of a
session, or of the communications of a legion, then the step announces something that names
this session, or this legion, and tells of the part. -/
theorem announced_of_changed (input : Input) {part : Part} {scope : String}
    (changed : ¬ part.Same engine (engine.step input).1 scope) :
    ∃ event, .publish event ∈ (engine.step input).2 ∧ event.tells part scope :=
  (engine.tells_step input part scope).resolve_left changed

/-- A user message of a session, brought by the first connection for everything. -/
def spoken (sessionId : String) : Input :=
  .channel (.frame .ui 2 (.message (some sessionId)
    ⟨"m", sessionId, .user, "", Timestamp.absent, Metadata.none⟩))

/-- A live message is announced. -/
theorem announced_of_spoken :
    ¬ Part.messages.Same ((Engine.new {}).run [.command 0 .connectUi])
        (((Engine.new {}).run [.command 0 .connectUi]).step (spoken "s")).1 "s" ∧
      ∃ event, .publish event ∈
        (((Engine.new {}).run [.command 0 .connectUi]).step (spoken "s")).2 ∧
          event.tells .messages "s" := by
  have changed : ¬ Part.messages.Same ((Engine.new {}).run [.command 0 .connectUi])
      (((Engine.new {}).run [.command 0 .connectUi]).step (spoken "s")).1 "s" := by
    unfold Part.Same
    decide
  exact ⟨changed, announced_of_changed _ _ changed⟩

end Steps

end Engine

end SessionSync
