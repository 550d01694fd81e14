import SessionSync.Engine.Step
import SessionSync.Proofs.MessageStore.Changes

/-!
# What the engine does to the logs

Every step of the engine changes the logs by a run of the changes that the logs know
(`precedes_step`), so whatever holds of all runs of the logs holds of the logs of the
engine.
-/

set_option autoImplicit false

namespace SessionSync.Engine

open MessageStore (Precedes)

/-! ## Frames -/

theorem precedes_orphanOn (engine : Engine) (sessionId : String) (transition : Transition) :
    engine.messages.Precedes (engine.orphanOn sessionId transition).1.messages := by
  unfold orphanOn
  split
  · exact .after _ (.sessionState sessionId transition.current)
  · exact .refl _

theorem precedes_upsertSession (engine : Engine) (session : Session) :
    engine.messages.Precedes (engine.upsertSession session).1.messages :=
  precedes_orphanOn { engine with sessions := (engine.sessions.upsert session).1 } _ _

theorem precedes_replaceSessions (engine : Engine) (sessions : List Session) :
    engine.messages.Precedes (engine.replaceSessions sessions).1.messages := by
  unfold replaceSessions
  exact List.foldlRecOn
    (motive := fun outcome : Engine × List StoreEvent =>
      engine.messages.Precedes outcome.1.messages)
    sessions _ (.refl _) fun outcome before session _ =>
      before.trans (precedes_orphanOn outcome.1 _ _)

theorem precedes_changeState (engine : Engine) (sessionId : String) (change : StateChange) :
    engine.messages.Precedes (engine.changeState sessionId change).1.messages := by
  unfold changeState
  split
  · exact precedes_orphanOn { engine with sessions := _ } _ _
  · split
    · exact precedes_orphanOn engine _ _
    · exact .refl _

theorem precedes_deleteSession (engine : Engine) (sessionId : String) :
    engine.messages.Precedes (engine.deleteSession sessionId).1.messages := by
  unfold deleteSession
  dsimp only
  split
  · exact .after _ (.clear sessionId)
  · exact .after _ (.clear sessionId)

theorem precedes_addMessage (engine : Engine) (sessionId : String) (message : Message) :
    engine.messages.Precedes (engine.addMessage sessionId message).1.messages := by
  unfold addMessage
  dsimp only
  split
  · exact .after _ (.addMessage sessionId message)
  · exact .after _ (.addMessage sessionId message)

theorem precedes_applyScoped (engine : Engine) (sessionId : String) (frame : ServerFrame) :
    engine.messages.Precedes (engine.applyScoped sessionId frame).1.messages := by
  cases frame with
  | message explicit message => exact precedes_addMessage engine sessionId message
  | toolCall event => exact .after _ (.tools sessionId (.toolEvent event))
  | permissionRequest request => exact .after _ (.tools sessionId (.permissionRequest request))
  | permissionResponse response =>
      exact .after _ (.tools sessionId (.permissionResponse response))
  | stateChange explicit change => exact precedes_changeState engine sessionId change
  | _ => exact .refl _

theorem precedes_applyFrame (engine : Engine) (channel : Channel) (frame : ServerFrame) :
    engine.messages.Precedes (engine.applyFrame channel frame).1.messages := by
  unfold applyFrame
  split
  · exact precedes_replaceSessions engine _
  · exact precedes_upsertSession engine _
  · exact precedes_upsertSession engine _
  · exact precedes_deleteSession engine _
  · exact .refl _
  · exact .refl _
  · exact .refl _
  · exact .refl _
  · split
    · exact precedes_applyScoped engine _ frame
    · exact .refl _

/-! ## Selections and gaps -/

theorem precedes_loadHistory (engine : Engine) (sessionId : String) (page : Backend.Page) :
    engine.messages.Precedes (engine.loadHistory sessionId page).1.messages :=
  .after _ (.loadHistory sessionId page.messages engine.sessions.stateOf)

theorem precedes_onSelectionStep (engine : Engine) (epoch : Nat) (step : SelectionStep) :
    engine.messages.Precedes (engine.onSelectionStep epoch step).1.messages := by
  unfold onSelectionStep
  split
  · exact .refl _
  · split
    · exact .refl _
    · cases step with
      | session session => exact precedes_upsertSession engine session
      | history page => exact precedes_loadHistory engine _ page
      | failed failure => exact .refl _

theorem precedes_applySync (engine : Engine) (sessionId : String) (generation : Nat)
    (outcome : Except Failure Backend.Page) :
    engine.messages.Precedes (engine.applySync sessionId generation outcome).1.messages := by
  unfold applySync
  split
  · cases outcome with
    | ok page => exact .after _ (.mergeSync sessionId page.messages page.hasMore)
    | error failure => exact .refl _
  · exact .refl _

/-! ## Commands -/

theorem effects_of_sendFrame (engine : Engine) {frame : ClientFrame} {sessionId : String}
    {effects : List Effect} (sent : engine.sendFrame frame = .ok (sessionId, effects)) :
    effects = [.send .session frame] := by
  unfold sendFrame at sent
  cases focus : engine.sessions.currentId with
  | none =>
      rw [focus] at sent
      cases sent
  | some focused =>
      rw [focus] at sent
      cases open? : engine.sessionSlot.canSend with
      | error failure =>
          rw [open?] at sent
          cases sent
      | ok _ =>
          rw [open?] at sent
          cases sent
          rfl

theorem precedes_sendFor (engine : Engine) (caller : Caller) (frame : ClientFrame)
    (success : Answer) {onSent : Engine → String → Engine}
    (keeps : ∀ engine sessionId, (onSent engine sessionId).messages = engine.messages) :
    engine.messages.Precedes (engine.sendFor caller frame success onSent).1.messages := by
  unfold sendFor
  split
  · dsimp only
    rw [keeps]
    exact .refl _
  · exact .refl _

theorem precedes_onCommand (engine : Engine) (caller : Caller) (command : Command) :
    engine.messages.Precedes (engine.onCommand caller command).1.messages := by
  cases command with
  | sendMessage content messageId => exact precedes_sendFor engine _ _ _ fun _ _ => rfl
  | respondPermission answer => exact precedes_sendFor engine _ _ _ fun _ _ => rfl
  | interruptSession => exact precedes_sendFor engine _ _ _ fun _ _ => rfl
  | syncMessages sessionId =>
      unfold onCommand
      dsimp only
      split
      · exact .refl _
      · exact .refl _
  | toggleToolExpanded sessionId toolId => exact .after _ (.toggle sessionId toolId)
  | markToolOrphaned sessionId toolId reason =>
      exact .after _ (.tools sessionId (.markOrphaned toolId reason none))
  | _ => exact .refl _

/-! ## Steps -/

theorem precedes_onChannelEvent (engine : Engine) (event : ChannelEvent) :
    engine.messages.Precedes (engine.onChannelEvent event).1.messages := by
  cases event with
  | status channel generation status => exact .refl _
  | opened channel generation kind => cases channel <;> cases kind <;> exact .refl _
  | frame channel generation frame =>
      have applied := precedes_applyFrame engine channel frame
      unfold onChannelEvent
      dsimp only
      split
      · exact applied
      · exact applied

theorem precedes_handle (engine : Engine) (input : Input) :
    engine.messages.Precedes (engine.handle input).1.messages := by
  cases input with
  | command caller command => exact precedes_onCommand engine caller command
  | sessionsFetched caller outcome =>
      cases outcome with
      | ok sessions => exact precedes_replaceSessions engine sessions
      | error failure => exact .refl _
  | selection epoch step => exact precedes_onSelectionStep engine epoch step
  | syncFetched caller sessionId generation outcome =>
      exact precedes_applySync engine sessionId generation outcome
  | channel event =>
      unfold handle
      dsimp only
      split
      · exact precedes_onChannelEvent engine event
      · exact .refl _

/-- **A step changes the logs by changes of the logs.** -/
theorem precedes_step (engine : Engine) (input : Input) :
    engine.messages.Precedes (engine.step input).1.messages := by
  unfold step
  split
  · exact precedes_handle engine input
  · exact .refl _

/-! ## Frames that are accepted -/

section Accepted

variable {engine : Engine} {channel : Channel} {generation : Nat}

/-- What an accepted frame does to the records and the logs. -/
theorem step_frame (running : engine.running = true) {frame : ServerFrame}
    (accepted : engine.accepts (.frame channel generation frame) = true) :
    (engine.step (.channel (.frame channel generation frame))).1.sessions =
        (engine.applyFrame channel frame).1.sessions ∧
      (engine.step (.channel (.frame channel generation frame))).1.messages =
        (engine.applyFrame channel frame).1.messages := by
  unfold step handle onChannelEvent
  rw [if_pos running]
  dsimp only
  rw [if_pos accepted]
  dsimp only
  split
  · exact ⟨rfl, rfl⟩
  · exact ⟨rfl, rfl⟩

theorem effects_step_frame (running : engine.running = true) {frame : ServerFrame}
    (accepted : engine.accepts (.frame channel generation frame) = true) :
    (engine.step (.channel (.frame channel generation frame))).2 =
      (engine.applyFrame channel frame).2 := by
  unfold step handle onChannelEvent
  rw [if_pos running]
  dsimp only
  rw [if_pos accepted]

end Accepted

end SessionSync.Engine
