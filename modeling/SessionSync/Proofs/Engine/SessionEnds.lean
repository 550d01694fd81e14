import SessionSync.Proofs.Engine.Reachability
import SessionSync.Proofs.MessageStore.SessionEnds

/-!
# Sessions that end

Records of sessions arrive in lists, one by one, and as changes of state.  Whichever way the
record of a live session becomes one of a session that is not live, the tool uses that are
unfinished become orphans, and those that were none before are announced in one list
(`orphaned_of_ended`).

The change of state that carries a record is left out: it writes the record under the id of
the record and ends the session that it is addressed to.
-/

set_option autoImplicit false

namespace SessionSync

/-- The tool uses of a session that an effect announces as orphans. -/
def Effect.orphaned? (sessionId : String) : Effect → Option (List String)
  | .publish (.toolsOrphaned ended toolIds) => if ended = sessionId then some toolIds else none
  | _ => none

/-- The lists of orphans of a session that are announced. -/
def orphanedIn (sessionId : String) (effects : List Effect) : List (List String) :=
  effects.filterMap (Effect.orphaned? sessionId)

/-- A list, unless there is nothing in it. -/
def unlessEmpty (toolIds : List String) : List (List String) :=
  if toolIds.isEmpty then [] else [toolIds]

/-- The change of state that a frame brings carries a record. -/
def Input.bringsRecord : Input → Bool
  | .channel (.frame _ _ (.stateChange _ change)) => change.session.isSome
  | _ => false

section Orphaned

variable (sessionId : String) (effects more : List Effect)

theorem orphanedIn_append :
    orphanedIn sessionId (effects ++ more) =
      orphanedIn sessionId effects ++ orphanedIn sessionId more :=
  List.filterMap_append

theorem orphanedIn_answers (callers : List Caller) (answer : Answer) :
    orphanedIn sessionId (callers.map fun caller => .answer caller answer) = [] := by
  simp [orphanedIn, Effect.orphaned?]

theorem orphanedIn_changeEvents (changed : String) (transition : Transition) :
    orphanedIn sessionId ((Engine.changeEvents changed transition).map .publish) = [] := by
  unfold Engine.changeEvents
  split <;> rfl

end Orphaned

theorem SessionStore.stateOf_insert (store : SessionStore) (sessionId : String) (session : Session)
    (probe : String) :
    { store with sessions := store.sessions.insert sessionId session }.stateOf probe =
      if probe = sessionId then some session.state else store.stateOf probe := by
  unfold SessionStore.stateOf SessionStore.session?
  rw [Table.find?_insert]
  split <;> rfl

namespace Engine

/-! ## What becomes of a session -/

/-- A session is left alone: its log is the one before, and no orphans of it are
announced. -/
structure Spares (engine : Engine) (sessionId : String) (outcome : Engine × List Effect) :
    Prop where
  log : outcome.1.messages.log sessionId = engine.messages.log sessionId
  told : orphanedIn sessionId outcome.2 = []

/-- A session ends: its unfinished tool uses become orphans, and these are announced. -/
structure Ends (engine : Engine) (sessionId : String) (outcome : Engine × List Effect) :
    Prop where
  log : ∃ reason, outcome.1.messages.log sessionId =
    (engine.messages.log sessionId).onTracker fun tracker => (tracker.orphanUnfinished reason).1
  told : orphanedIn sessionId outcome.2 =
    unlessEmpty (engine.messages.log sessionId).tracker.toOrphan

section Outcomes

variable {engine : Engine} {sessionId : String}

/-- The logs are the ones before, and what is announced tells of no orphans. -/
theorem spares_of_quiet {next : Engine} {events : List StoreEvent}
    (messages : next.messages = engine.messages)
    (quiet : orphanedIn sessionId (events.map .publish) = []) :
    engine.Spares sessionId (published (next, events)) := by
  refine ⟨?_, quiet⟩
  show next.messages.log sessionId = engine.messages.log sessionId
  rw [messages]

section Sequence

variable {first : Engine × List StoreEvent} {next : Engine} {more : List StoreEvent}

theorem Spares.trans (earlier : engine.Spares sessionId (published first))
    (later : first.1.Spares sessionId (published (next, more))) :
    engine.Spares sessionId (published (next, first.2 ++ more)) := by
  refine ⟨later.log.trans earlier.log, ?_⟩
  show orphanedIn sessionId ((first.2 ++ more).map .publish) = []
  rw [List.map_append, orphanedIn_append]
  exact List.append_eq_nil_iff.2 ⟨earlier.told, later.told⟩

theorem Spares.ends (earlier : engine.Spares sessionId (published first))
    (later : first.1.Ends sessionId (published (next, more))) :
    engine.Ends sessionId (published (next, first.2 ++ more)) := by
  have log : first.1.messages.log sessionId = engine.messages.log sessionId := earlier.log
  refine ⟨?_, ?_⟩
  · rw [← log]
    exact later.log
  · show orphanedIn sessionId ((first.2 ++ more).map .publish) = _
    rw [List.map_append, orphanedIn_append, ← log]
    exact (congrArg (· ++ _) earlier.told).trans later.told

theorem Ends.spared (earlier : engine.Ends sessionId (published first))
    (later : first.1.Spares sessionId (published (next, more))) :
    engine.Ends sessionId (published (next, first.2 ++ more)) := by
  obtain ⟨reason, log⟩ := earlier.log
  refine ⟨⟨reason, later.log.trans log⟩, ?_⟩
  show orphanedIn sessionId ((first.2 ++ more).map .publish) = _
  rw [List.map_append, orphanedIn_append]
  exact (congrArg (_ ++ ·) later.told).trans ((List.append_nil _).trans earlier.told)

end Sequence

theorem ends_orphanOn {transition : Transition} (left : transition.leftLive = true) :
    engine.Ends sessionId (published (engine.orphanOn sessionId transition)) := by
  have dead : transition.current.isLive = false := by
    simpa using (Bool.and_eq_true_iff.1 left).1
  unfold orphanOn
  rw [if_pos left]
  refine ⟨⟨transition.current.orphanReason, ?_⟩, ?_⟩
  · show (engine.messages.onSessionState sessionId transition.current).1.log sessionId = _
    rw [MessageStore.log_onSessionState, dead, if_neg Bool.false_ne_true]
  · have reported := engine.messages.snd_onSessionState sessionId transition.current
    rw [dead, if_neg Bool.false_ne_true] at reported
    dsimp only [published]
    rw [reported]
    unfold unlessEmpty
    split
    · rfl
    · simp [orphanedIn, Effect.orphaned?]

theorem spares_orphanOn {ended : String} {transition : Transition}
    (elsewhere : sessionId ≠ ended ∨ transition.leftLive = false) :
    engine.Spares sessionId (published (engine.orphanOn ended transition)) := by
  unfold orphanOn
  split
  · rename_i left
    have other : sessionId ≠ ended := elsewhere.resolve_right (by simp [left])
    let change : StoreChange := .sessionState ended transition.current
    refine ⟨MessageStore.log_after_of_ne _ (show sessionId ≠ change.sessionId from other), ?_⟩
    dsimp only [published]
    split
    · rfl
    · simp [orphanedIn, Effect.orphaned?, other.symm]
  · exact ⟨rfl, rfl⟩

/-- A session that has ended is left alone when it ends again. -/
theorem Ends.again {outcome : Engine × List StoreEvent}
    (ended : engine.Ends sessionId (published outcome)) (probe : String)
    (transition : Transition) :
    outcome.1.Spares sessionId (published (outcome.1.orphanOn probe transition)) := by
  by_cases here : sessionId = probe ∧ transition.leftLive = true
  · obtain ⟨rfl, left⟩ := here
    obtain ⟨reason, log⟩ := ended.log
    have nothing : (outcome.1.messages.log sessionId).tracker.toOrphan = [] := by
      show ((published outcome).1.messages.log sessionId).tracker.toOrphan = []
      rw [log]
      exact Tracker.toOrphan_orphanUnfinished _ reason
    have ends : outcome.1.Ends sessionId (published (outcome.1.orphanOn sessionId transition)) :=
      ends_orphanOn left
    obtain ⟨_, same⟩ := ends.log
    refine ⟨?_, ?_⟩
    · rw [same, Log.onTracker, Tracker.orphanUnfinished_of_nothing nothing]
    · rw [ends.told, nothing]
      rfl
  · exact spares_orphanOn (by simpa [Classical.or_iff_not_imp_left] using here)

end Outcomes

/-- Every session whose record was live and is not live afterwards has ended. -/
def Concludes (engine : Engine) (outcome : Engine × List Effect) : Prop :=
  ∀ (sessionId : String) (before after : SessionState),
    engine.sessions.stateOf sessionId = some before → before.isLive = true →
    outcome.1.sessions.stateOf sessionId = some after → after.isLive = false →
    engine.Ends sessionId outcome

section Frames

variable (engine : Engine)

/-- Where a record has the state of before no session has ended. -/
theorem concludes_of_kept {engine : Engine} {outcome : Engine × List Effect}
    (kept : ∀ sessionId state, outcome.1.sessions.stateOf sessionId = some state →
      engine.sessions.stateOf sessionId = some state) : engine.Concludes outcome := by
  intro sessionId before after recorded live ended dead
  have same := (kept sessionId after ended).symm.trans recorded
  cases same
  rw [live] at dead
  cases dead

theorem concludes_of_same {engine : Engine} {outcome : Engine × List Effect}
    (same : outcome.1.sessions.sessions = engine.sessions.sessions) :
    engine.Concludes outcome := by
  refine concludes_of_kept fun sessionId state found => ?_
  unfold SessionStore.stateOf SessionStore.session? at found ⊢
  rw [← same]
  exact found

/-- More may be answered. -/
theorem Concludes.more {engine : Engine} {outcome : Engine × List Effect}
    (concludes : engine.Concludes outcome) {later : List Effect}
    (quiet : ∀ sessionId, orphanedIn sessionId later = []) :
    engine.Concludes (outcome.1, outcome.2 ++ later) := by
  intro sessionId before after recorded live ended dead
  have ends := concludes sessionId before after recorded live ended dead
  refine ⟨ends.log, ?_⟩
  rw [orphanedIn_append, quiet, List.append_nil]
  exact ends.told

/-- More may be done to what is neither a record nor a log. -/
theorem Concludes.same {engine : Engine} {outcome : Engine × List Effect}
    (concludes : engine.Concludes outcome) {next : Engine}
    (sessions : next.sessions = outcome.1.sessions)
    (messages : next.messages = outcome.1.messages) : engine.Concludes (next, outcome.2) := by
  intro sessionId before after recorded live ended dead
  rw [sessions] at ended
  have ends := concludes sessionId before after recorded live ended dead
  refine ⟨?_, ends.told⟩
  rw [messages]
  exact ends.log

theorem sessions_orphanOn (sessionId : String) (transition : Transition) :
    (engine.orphanOn sessionId transition).1.sessions = engine.sessions := by
  unfold orphanOn
  split <;> rfl

/-- A record is written, and the transition is that of the record. -/
theorem concludes_written {sessions : SessionStore} {written : String} {transition : Transition}
    (previous : transition.previous = engine.sessions.stateOf written)
    (current : ∀ probe, sessions.stateOf probe =
      if probe = written then some transition.current else engine.sessions.stateOf probe) :
    engine.Concludes (published (({ engine with sessions }.orphanOn written transition).1,
      changeEvents written transition ++
        ({ engine with sessions }.orphanOn written transition).2)) := by
  intro sessionId before after recorded live ended dead
  dsimp only [published] at ended
  rw [sessions_orphanOn, current] at ended
  by_cases here : sessionId = written
  · subst here
    rw [if_pos rfl] at ended
    cases ended
    have left : transition.leftLive = true := by
      simp [Transition.leftLive, dead, previous, recorded, live]
    have listed : engine.Spares sessionId
        (published ({ engine with sessions }, changeEvents sessionId transition)) :=
      spares_of_quiet rfl (orphanedIn_changeEvents _ _ transition)
    exact listed.ends (ends_orphanOn left)
  · rw [if_neg here, recorded] at ended
    cases ended
    rw [live] at dead
    cases dead

theorem concludes_upsertSession (session : Session) :
    engine.Concludes (published (engine.upsertSession session)) :=
  engine.concludes_written rfl (engine.sessions.stateOf_insert session.sessionId session)

/-- Records that are looked through one after another: a session that is not live in one of
them has ended, and any other one is left alone. -/
theorem ends_or_spares_foldl {sessionId : String} {before : SessionState}
    {stateOf : String → Option SessionState} (recorded : stateOf sessionId = some before)
    (live : before.isLive = true) (sessions : List Session) :
    let outcome := sessions.foldl (fun (current, events) session =>
      let (next, more) := current.orphanOn session.sessionId
        { previous := stateOf session.sessionId, current := session.state }
      (next, events ++ more)) (engine, [])
    engine.Ends sessionId (published outcome) ∨
      engine.Spares sessionId (published outcome) ∧
        ∀ session ∈ sessions, session.sessionId = sessionId → session.state.isLive = true := by
  induction sessions using List.reverseRecOn with
  | nil => exact Or.inr ⟨⟨rfl, rfl⟩, by simp⟩
  | append_singleton rest session ih =>
      rw [List.foldl_append]
      rcases ih with ended | ⟨spared, living⟩
      · exact Or.inl (ended.spared (ended.again _ _))
      · by_cases ends : sessionId = session.sessionId ∧ session.state.isLive = false
        · obtain ⟨rfl, dead⟩ := ends
          refine Or.inl (spared.ends (ends_orphanOn ?_))
          simp [Transition.leftLive, dead, recorded, live]
        · right
          have lives : session.sessionId = sessionId → session.state.isLive = true :=
            fun same => by simpa [same] using ends
          refine ⟨spared.trans (spares_orphanOn ?_), fun other member => ?_⟩
          · by_cases here : sessionId = session.sessionId
            · exact Or.inr (by simp [Transition.leftLive, lives here.symm])
            · exact Or.inl here
          · rcases List.mem_append.1 member with listed | last
            · exact living other listed
            · rw [List.mem_singleton.1 last]
              exact lives

/-- A record that is held after all were replaced was among the new ones. -/
theorem exists_of_replaceAll {store : SessionStore} {sessions : List Session}
    {sessionId : String} {state : SessionState}
    (held : (store.replaceAll sessions).stateOf sessionId = some state) :
    ∃ session ∈ sessions, session.sessionId = sessionId ∧ session.state = state := by
  obtain ⟨session, found, rfl⟩ := Option.map_eq_some_iff.1 held
  have listed := mem_of_valueAt? ((Table.find?_ofList _ sessionId).symm.trans found)
  obtain ⟨session, member, same⟩ := List.mem_map.1 (List.mem_reverse.1 listed)
  cases same
  exact ⟨session, member, rfl, rfl⟩

theorem concludes_replaceSessions (sessions : List Session) :
    engine.Concludes (published (engine.replaceSessions sessions)) := by
  intro sessionId before after recorded live ended dead
  obtain ⟨session, listed, rfl, rfl⟩ := exists_of_replaceAll ended
  rcases engine.ends_or_spares_foldl recorded live sessions with ends | ⟨-, living⟩
  · exact ends.spared (spares_of_quiet rfl rfl)
  · rw [living session listed rfl] at dead
    cases dead

/-- A change of state that carries no record changes the record of the session that it is
addressed to. -/
theorem concludes_changeState (sessionId : String) {change : StateChange}
    (plain : change.session = none) :
    engine.Concludes (published (engine.changeState sessionId change)) := by
  unfold changeState SessionStore.applyStateChange
  rw [plain]
  cases held : engine.sessions.session? sessionId with
  | none =>
      dsimp only
      split
      · exact concludes_of_same (congrArg SessionStore.sessions (engine.sessions_orphanOn _ _))
      · exact concludes_of_same rfl
  | some session =>
      refine engine.concludes_written ?_ (engine.sessions.stateOf_insert sessionId _)
      exact (congrArg (Option.map Session.state) held).symm

/-- The records that are left after a deletion are the ones before. -/
theorem concludes_deleteSession (sessionId : String) :
    engine.Concludes (engine.deleteSession sessionId) := by
  have records : (engine.deleteSession sessionId).1.sessions =
      (engine.sessions.remove sessionId).1 := by
    unfold deleteSession
    dsimp only
    split <;> rfl
  refine concludes_of_kept fun probe state found => ?_
  rw [records] at found
  unfold SessionStore.remove at found
  split at found
  · exact found
  · unfold SessionStore.stateOf SessionStore.session? at found
    dsimp only [SessionStore.relist] at found
    rw [Table.find?_erase] at found
    split at found
    · cases found
    · exact found

theorem concludes_applyScoped (sessionId : String) {frame : ServerFrame}
    (plain : ∀ explicit change, frame = .stateChange explicit change → change.session = none) :
    engine.Concludes (published (engine.applyScoped sessionId frame)) := by
  cases frame with
  | message explicit message =>
      unfold applyScoped addMessage
      dsimp only
      split
      · exact concludes_of_same rfl
      · exact concludes_of_same rfl
  | stateChange explicit change => exact engine.concludes_changeState sessionId (plain _ _ rfl)
  | _ => exact concludes_of_same rfl

theorem concludes_applyFrame (channel : Channel) {frame : ServerFrame}
    (plain : ∀ explicit change, frame = .stateChange explicit change → change.session = none) :
    engine.Concludes (engine.applyFrame channel frame) := by
  unfold applyFrame
  split
  · exact engine.concludes_replaceSessions _
  · exact engine.concludes_upsertSession _
  · exact engine.concludes_upsertSession _
  · exact engine.concludes_deleteSession _
  · exact concludes_of_same rfl
  · exact concludes_of_same rfl
  · exact concludes_of_same rfl
  · exact concludes_of_same rfl
  · split
    · exact engine.concludes_applyScoped _ plain
    · exact concludes_of_same rfl

end Frames

/-! ## Steps -/

section Steps

variable (engine : Engine)

theorem concludes_onSelectionStep (epoch : Nat) (step : SelectionStep) :
    engine.Concludes (engine.onSelectionStep epoch step) := by
  unfold onSelectionStep
  split
  · exact concludes_of_same rfl
  · split
    · exact concludes_of_same rfl
    · cases step with
      | session session => exact engine.concludes_upsertSession session
      | history page => exact concludes_of_same rfl
      | failed failure => exact concludes_of_same rfl

theorem concludes_sendFor (caller : Caller) (frame : ClientFrame) (success : Answer)
    {onSent : Engine → String → Engine}
    (keeps : ∀ sessionId, (onSent engine sessionId).sessions = engine.sessions) :
    engine.Concludes (engine.sendFor caller frame success onSent) := by
  unfold sendFor
  split
  · exact concludes_of_same (congrArg SessionStore.sessions (keeps _))
  · exact concludes_of_same rfl

theorem concludes_onCommand (caller : Caller) (command : Command) :
    engine.Concludes (engine.onCommand caller command) := by
  cases command with
  | sendMessage content messageId => exact engine.concludes_sendFor _ _ _ fun _ => rfl
  | respondPermission answer => exact engine.concludes_sendFor _ _ _ fun _ => rfl
  | interruptSession => exact engine.concludes_sendFor _ _ _ fun _ => rfl
  | syncMessages sessionId =>
      unfold onCommand
      dsimp only
      split
      · exact concludes_of_same rfl
      · exact concludes_of_same rfl
  | _ => exact concludes_of_same rfl

theorem concludes_applySync (caller : Option Caller) (sessionId : String) (generation : Nat)
    (outcome : Except Failure Backend.Page) :
    engine.Concludes (engine.handle (.syncFetched caller sessionId generation outcome)) := by
  refine concludes_of_same ?_
  show (engine.applySync sessionId generation outcome).1.sessions.sessions = _
  unfold applySync
  split
  · cases outcome <;> rfl
  · rfl

theorem concludes_onChannelEvent {event : ChannelEvent}
    (plain : (Input.channel event).bringsRecord = false) :
    engine.Concludes (engine.onChannelEvent event) := by
  cases event with
  | status channel generation status => exact concludes_of_same rfl
  | opened channel generation kind =>
      cases channel <;> cases kind <;> exact concludes_of_same rfl
  | frame channel generation frame =>
      have applied : engine.Concludes (engine.applyFrame channel frame) := by
        refine engine.concludes_applyFrame channel fun explicit change same => ?_
        subst same
        simpa [Input.bringsRecord] using plain
      unfold onChannelEvent
      dsimp only
      split
      · exact applied.same rfl rfl
      · exact applied

theorem concludes_handle {input : Input} (plain : input.bringsRecord = false) :
    engine.Concludes (engine.handle input) := by
  cases input with
  | command caller command => exact engine.concludes_onCommand caller command
  | sessionsFetched caller outcome =>
      cases outcome with
      | ok sessions =>
          exact (engine.concludes_replaceSessions sessions).more fun _ =>
            orphanedIn_answers _ _ _
      | error failure => exact concludes_of_same rfl
  | selection epoch step => exact engine.concludes_onSelectionStep epoch step
  | syncFetched caller sessionId generation outcome =>
      exact engine.concludes_applySync caller sessionId generation outcome
  | channel event =>
      unfold handle
      dsimp only
      split
      · exact engine.concludes_onChannelEvent plain
      · exact concludes_of_same rfl

theorem concludes_step {input : Input} (plain : input.bringsRecord = false) :
    engine.Concludes (engine.step input) := by
  unfold step
  split
  · exact engine.concludes_handle plain
  · exact concludes_of_same rfl

/-! ## Orphans of a session that has ended -/

/-- **Every way on which a session is recorded to have ended orphans its tools.**  What was
unfinished is an orphan afterwards, and the orphans that are new are announced in one list,
if there are any. -/
theorem orphaned_of_ended {input : Input} (plain : input.bringsRecord = false)
    {sessionId : String} {before after : SessionState}
    (recorded : engine.sessions.stateOf sessionId = some before) (live : before.isLive = true)
    (ended : (engine.step input).1.sessions.stateOf sessionId = some after)
    (dead : after.isLive = false) :
    (∀ toolId, (engine.messages.log sessionId).tracker.unfinished.contains toolId = true →
      ((engine.step input).1.messages.orphan? sessionId toolId).isSome = true) ∧
    ∃ fresh : List String, fresh.Nodup ∧
      (∀ toolId, toolId ∈ fresh ↔ engine.messages.orphan? sessionId toolId = none ∧
        ((engine.step input).1.messages.orphan? sessionId toolId).isSome = true) ∧
      orphanedIn sessionId (engine.step input).2 = unlessEmpty fresh := by
  have ends := engine.concludes_step plain sessionId before after recorded live ended dead
  obtain ⟨reason, log⟩ := ends.log
  have orphans : ∀ toolId, ((engine.step input).1.messages.orphan? sessionId toolId).isSome =
      ((engine.messages.log sessionId).tracker.unfinished.contains toolId ||
        (engine.messages.log sessionId).tracker.isOrphaned toolId) := by
    intro toolId
    rw [MessageStore.orphan?_eq, log]
    exact Tracker.isOrphaned_orphanUnfinished _ toolId reason
  refine ⟨fun toolId unfinished => ?_, _, Tracker.nodup_toOrphan _, fun toolId => ?_, ends.told⟩
  · rw [orphans, unfinished, Bool.true_or]
  · rw [orphans, Tracker.mem_toOrphan, MessageStore.orphan?_eq]
    unfold Tracker.isOrphaned
    rw [Table.contains_eq_false_iff]
    constructor
    · rintro ⟨unfinished, free⟩
      exact ⟨free, by rw [unfinished, Bool.true_or]⟩
    · rintro ⟨free, either⟩
      rw [Table.contains_eq_false_iff.2 free, Bool.or_false] at either
      exact ⟨either, free⟩

/-- A list of all sessions that names one session once for each state. -/
def listing (states : List SessionState) : Input :=
  .channel (.frame .ui 2 (.sessionsList (states.map fun state =>
    ⟨"s", "", state, .default, 0, none, none, none⟩)))

/-- A tool runs in a session that is active. -/
def working : Engine :=
  (Engine.new {}).run [.command 0 .connectUi, listing [.active],
    .channel (.frame .ui 2
      (.toolCall ⟨"t", some "s", "Bash", .null, .executing, none, none, none⟩))]

/-- A list that names the session twice orphans the tool once. -/
theorem orphaned_of_listing :
    (working.messages.log "s").tracker.unfinished.contains "t" = true ∧
      ((working.step (listing [.terminated, .error])).1.messages.orphan? "s" "t").isSome = true ∧
      orphanedIn "s" (working.step (listing [.terminated, .error])).2 = [["t"]] := by
  have running : (working.messages.log "s").tracker.unfinished.contains "t" = true := by
    decide +kernel
  have plain : (listing [.terminated, .error]).bringsRecord = false := rfl
  have recorded : working.sessions.stateOf "s" = some .active := by decide +kernel
  have ended : (working.step (listing [.terminated, .error])).1.sessions.stateOf "s" =
      some .error := by decide +kernel
  obtain ⟨strands, -⟩ := orphaned_of_ended working plain recorded rfl ended rfl
  exact ⟨running, strands "t" running, by decide +kernel⟩

end Steps

end Engine

end SessionSync
