import SessionSync.Proofs.Engine.Reachability
import SessionSync.Proofs.Log.Gap

/-!
# Filling a gap

A reconnection, or a caller, makes the engine ask for a page that covers what may have
been missed.  Until the page arrives live messages come over the same connection.  The
page is then merged behind the watermark that these messages have left, not behind the
one that held when the page was asked for.

So a message of the page is in the log exactly once if it was held before, or was live
in between, or the page has it later than the last new message that was live in
between; and else it is lost (`count_afterPage`).
-/

set_option autoImplicit false

namespace SessionSync.Engine

/-! ## When a gap is begun to be filled -/

section Begin

variable (engine : Engine) (job : Job)

theorem begin_not_mem_published (outcome : Engine × List StoreEvent) :
    .begin job ∉ (published outcome).2 := by
  simp [published]

theorem begin_not_mem_deleteSession (sessionId : String) :
    .begin job ∉ (engine.deleteSession sessionId).2 := by
  unfold deleteSession
  dsimp only
  split
  · simp [supersede]
  · simp

theorem begin_not_mem_applyFrame (channel : Channel) (frame : ServerFrame) :
    .begin job ∉ (engine.applyFrame channel frame).2 := by
  unfold applyFrame
  split
  · exact begin_not_mem_published _ _
  · exact begin_not_mem_published _ _
  · exact begin_not_mem_published _ _
  · exact begin_not_mem_deleteSession _ _ _
  · exact begin_not_mem_published _ _
  · simp
  · simp
  · simp
  · split
    · exact begin_not_mem_published _ _
    · simp

theorem begin_not_mem_onSelectionStep (epoch : Nat) (step : SelectionStep) :
    .begin job ∉ (engine.onSelectionStep epoch step).2 := by
  unfold onSelectionStep
  split
  · simp
  · split
    · simp
    · cases step with
      | session session => exact begin_not_mem_published _ _
      | history page =>
          simp [loadHistory, answerSelection, connect]
      | failed failure => simp [failSelection, answerSelection]

theorem begin_not_mem_sendFor (caller : Caller) (frame : ClientFrame) (success : Answer)
    (onSent : Engine → String → Engine) :
    .begin job ∉ (engine.sendFor caller frame success onSent).2 := by
  unfold sendFor
  split
  · rename_i sent
    rw [effects_of_sendFrame engine sent]
    simp
  · simp

end Begin

section Sync

variable {engine : Engine} {asker : Option Caller} {sessionId : String}
  {generation limit offset : Nat}

/-- A step begins to fill a gap: it is for the current connection of the session slot,
and it does nothing else. -/
def Begins (engine : Engine) (sessionId : String) (generation : Nat)
    (outcome : Engine × List Effect) : Prop :=
  engine.syncIsCurrent sessionId generation = true ∧ outcome.1 = { engine with syncing := true }

theorem startSync_of_onCommand {caller : Caller} {command : Command}
    (begun : .begin (.sync asker sessionId generation limit offset) ∈
      (engine.onCommand caller command).2) :
    engine.syncIsCurrent sessionId generation = true ∧
      engine.onCommand caller command = engine.startSync asker sessionId generation := by
  cases command with
  | syncMessages asked =>
      unfold onCommand at begun ⊢
      dsimp only at begun ⊢
      split at begun
      · rename_i held
        simp only [startSync, List.mem_singleton, Effect.begin.injEq, Job.sync.injEq] at begun
        obtain ⟨rfl, rfl, rfl, -, -⟩ := begun
        rw [if_pos held]
        exact ⟨by simp [syncIsCurrent, held], rfl⟩
      · simp at begun
  | sendMessage content messageId => exact absurd begun (begin_not_mem_sendFor _ _ _ _ _ _)
  | respondPermission answer => exact absurd begun (begin_not_mem_sendFor _ _ _ _ _ _)
  | interruptSession => exact absurd begun (begin_not_mem_sendFor _ _ _ _ _ _)
  | selectSession selected =>
      simp [onCommand, beginSelection, supersede] at begun
  | toggleToolExpanded toggled toolId =>
      unfold onCommand at begun
      dsimp only at begun
      split at begun <;> simp at begun
  | shutdown => simp [onCommand, onCommand.andDone, stop, answerSelection] at begun
  | connectUi => simp [onCommand, onCommand.andDone, connect] at begun
  | connectLegion legionId => simp [onCommand, onCommand.andDone, connect] at begun
  | clearSelection => simp [onCommand, onCommand.andDone, clearSelection, supersede] at begun
  | _ => simp [onCommand, onCommand.andDone] at begun

theorem startSync_of_onChannelEvent {event : ChannelEvent}
    (accepted : engine.accepts event = true)
    (begun : .begin (.sync asker sessionId generation limit offset) ∈
      (engine.onChannelEvent event).2) :
    engine.syncIsCurrent sessionId generation = true ∧
      engine.onChannelEvent event = engine.startSync asker sessionId generation := by
  cases event with
  | status channel current status => simp [onChannelEvent] at begun
  | frame channel current frame => exact absurd begun (begin_not_mem_applyFrame _ _ _ _)
  | opened channel current kind =>
      cases kind with
      | initial => cases channel <;> simp [onChannelEvent] at begun
      | reconnect =>
          cases channel with
          | ui => simp [onChannelEvent] at begun
          | legion legionId => simp [onChannelEvent] at begun
          | session opened =>
              simp only [onChannelEvent, startSync, List.mem_singleton, Effect.begin.injEq,
                Job.sync.injEq] at begun
              obtain ⟨rfl, rfl, rfl, -, -⟩ := begun
              exact ⟨accepted, rfl⟩

/-- A step that begins to fill a gap does so for whoever asked, and does no more. -/
theorem startSync_of_step {input : Input}
    (begun : .begin (.sync asker sessionId generation limit offset) ∈ (engine.step input).2) :
    engine.running = true ∧ engine.syncIsCurrent sessionId generation = true ∧
      engine.step input = engine.startSync asker sessionId generation := by
  unfold step at begun ⊢
  cases running : engine.running with
  | false =>
      rw [running] at begun
      simp at begun
  | true =>
      rw [running, if_pos rfl] at begun
      refine ⟨rfl, ?_⟩
      rw [if_pos rfl]
      cases input with
      | command caller command => exact startSync_of_onCommand begun
      | sessionsFetched caller outcome =>
          cases outcome with
          | ok sessions => simp [handle] at begun
          | error failure => simp [handle] at begun
      | selection epoch step => exact absurd begun (begin_not_mem_onSelectionStep _ _ _ _)
      | syncFetched caller fetched current outcome => simp [handle] at begun
      | channel event =>
          unfold handle at begun ⊢
          dsimp only at begun ⊢
          split at begun
          · rename_i accepted
            rw [if_pos accepted]
            exact startSync_of_onChannelEvent accepted begun
          · simp at begun

/-- **A gap is begun to be filled** for the current connection of the session slot
only, by a running engine, and nothing else happens in the step. -/
theorem begins_of_step {input : Input}
    (begun : .begin (.sync asker sessionId generation limit offset) ∈ (engine.step input).2) :
    engine.running = true ∧ engine.Begins sessionId generation (engine.step input) := by
  obtain ⟨running, current, started⟩ := startSync_of_step begun
  rw [started]
  exact ⟨running, current, rfl⟩

/-- The page that is asked for overlaps the end of what is held. -/
theorem window_of_step {input : Input}
    (begun : .begin (.sync asker sessionId generation limit offset) ∈ (engine.step input).2) :
    limit = engine.config.syncWindow ∧
      offset = engine.messages.size sessionId - engine.config.syncOverlap := by
  obtain ⟨-, -, started⟩ := startSync_of_step begun
  rw [started, startSync, List.mem_singleton] at begun
  cases begun
  exact ⟨rfl, rfl⟩

end Sync

/-! ## Live messages in between -/

/-- The input of a live message over the stream of a session.  The frame may name a
session itself. -/
def liveInput (sessionId : String) (generation : Nat) (frame : Option String × Message) :
    Input :=
  .channel (.frame (.session sessionId) generation (.message frame.1 frame.2))

/-- The engine after live messages over the stream of a session. -/
def afterLive (engine : Engine) (sessionId : String) (generation : Nat)
    (frames : List (Option String × Message)) : Engine :=
  engine.run (frames.map (liveInput sessionId generation))

/-- The session that a live message over the stream of a session is about. -/
def frameSession (sessionId : String) (frame : Option String × Message) : String :=
  (frame.1.filter fun explicit => !explicit.isEmpty).getD sessionId

/-- The messages of live frames that are about the session of the stream itself. -/
def liveMessages (sessionId : String) (frames : List (Option String × Message)) : List Message :=
  (frames.filter fun frame => frameSession sessionId frame == sessionId).map Prod.snd

theorem liveMessages_cons (sessionId : String) (frame : Option String × Message)
    (rest : List (Option String × Message)) :
    liveMessages sessionId (frame :: rest) =
      if frameSession sessionId frame = sessionId then frame.2 :: liveMessages sessionId rest
      else liveMessages sessionId rest := by
  unfold liveMessages
  rw [List.filter_cons]
  by_cases here : frameSession sessionId frame = sessionId
  · simp [here]
  · simp [here]

section Stream

variable {engine : Engine} {sessionId : String} {generation : Nat}

theorem accepts_liveInput (frame : Option String × Message) :
    engine.accepts (.frame (.session sessionId) generation (.message frame.1 frame.2)) =
      engine.syncIsCurrent sessionId generation := rfl

/-- A frame of a connection that is not current any more changes nothing. -/
theorem step_liveInput_of_stale (stale : engine.syncIsCurrent sessionId generation = false)
    (frame : Option String × Message) :
    (engine.step (liveInput sessionId generation frame)).1 = engine := by
  unfold step liveInput
  split
  · unfold handle
    dsimp only
    rw [accepts_liveInput, stale]
    rfl
  · rfl

/-- A frame of the current connection brings its message to its session's log. -/
theorem step_liveInput (running : engine.running = true)
    (current : engine.syncIsCurrent sessionId generation = true)
    (frame : Option String × Message) :
    (engine.step (liveInput sessionId generation frame)).1.running = true ∧
      (engine.step (liveInput sessionId generation frame)).1.messages =
        engine.messages.after (.addMessage (frameSession sessionId frame) frame.2) := by
  have named : frameScope (.session sessionId) (.message frame.1 frame.2) =
      some (frameSession sessionId frame) := by
    show scope frame.1 (.session sessionId) = _
    unfold scope frameSession
    cases frame.1.filter fun explicit => !explicit.isEmpty <;> rfl
  have applied : (engine.applyFrame (.session sessionId) (.message frame.1 frame.2)).1 =
      (engine.addMessage (frameSession sessionId frame) frame.2).1 := by
    unfold applyFrame
    dsimp only
    rw [named]
    rfl
  have added : ∀ target message, (engine.addMessage target message).1 =
      { engine with messages := (engine.messages.addMessage target message).1 } := by
    intro target message
    unfold addMessage
    dsimp only
    split <;> rfl
  unfold step liveInput
  rw [running, if_pos rfl]
  unfold handle
  dsimp only
  rw [accepts_liveInput, current, if_pos rfl]
  unfold onChannelEvent
  dsimp only
  rw [applied, added]
  split
  · exact ⟨running, rfl⟩
  · exact ⟨running, rfl⟩

theorem syncIsCurrent_of_afterLive {frames : List (Option String × Message)}
    (current : (engine.afterLive sessionId generation frames).syncIsCurrent sessionId generation =
      true) : engine.syncIsCurrent sessionId generation = true := by
  induction frames generalizing engine with
  | nil => exact current
  | cons frame rest ih =>
      have next : (engine.step (liveInput sessionId generation frame)).1.syncIsCurrent sessionId
          generation = true := ih current
      cases known : engine.syncIsCurrent sessionId generation with
      | true => rfl
      | false =>
          rw [step_liveInput_of_stale known, known] at next
          cases next

/-- **Live messages over the current connection** come to the log one after another. -/
theorem log_afterLive (running : engine.running = true)
    {frames : List (Option String × Message)}
    (current : (engine.afterLive sessionId generation frames).syncIsCurrent sessionId generation =
      true) :
    (engine.afterLive sessionId generation frames).running = true ∧
      (engine.afterLive sessionId generation frames).messages.log sessionId =
        (engine.messages.log sessionId).addAll (liveMessages sessionId frames) := by
  induction frames generalizing engine with
  | nil => exact ⟨running, rfl⟩
  | cons frame rest ih =>
      have held := syncIsCurrent_of_afterLive current
      obtain ⟨goesOn, brought⟩ := step_liveInput running held frame
      obtain ⟨finished, log⟩ := ih goesOn current
      refine ⟨finished, log.trans ?_⟩
      rw [brought, liveMessages_cons]
      by_cases here : frameSession sessionId frame = sessionId
      · rw [here, if_pos rfl, Log.addAll_cons]
        show Log.addAll ((engine.messages.addMessage sessionId frame.2).1.log sessionId) _ = _
        rw [MessageStore.log_addMessage]
      · have elsewhere :
            sessionId ≠ (StoreChange.addMessage (frameSession sessionId frame) frame.2).sessionId :=
          Ne.symm here
        rw [if_neg here, MessageStore.log_after_of_ne engine.messages elsewhere]

end Stream

/-! ## The page -/

/-- The engine once the page for a gap has arrived. -/
def afterPage (engine : Engine) (sessionId : String) (generation : Nat) (asker : Option Caller)
    (page : Backend.Page) : Engine :=
  (engine.step (.syncFetched asker sessionId generation (.ok page))).1

theorem log_afterPage {engine : Engine} {sessionId : String} {generation : Nat}
    (running : engine.running = true)
    (current : engine.syncIsCurrent sessionId generation = true) (asker : Option Caller)
    (page : Backend.Page) :
    (engine.afterPage sessionId generation asker page).messages.log sessionId =
      ((engine.messages.log sessionId).merge page.messages).1 := by
  unfold afterPage step
  rw [running, if_pos rfl]
  unfold handle applySync
  dsimp only
  rw [current, if_pos rfl]
  exact MessageStore.log_mergeSync engine.messages sessionId page.messages page.hasMore

/-- **Filling a gap while messages stream.**  A step of a reachable engine has begun to
fill the gap of a session, live messages have come over the connection, and it is still
current when the page arrives.  Then no id is held twice, and an id is held exactly if it
was held when the page was asked for, or was live in between, or the page has a message
under it that is later than the watermark that the live messages have left. -/
theorem count_afterPage {config : Config} {engine : Engine} {input : Input}
    {asker : Option Caller} {sessionId : String} {generation limit offset : Nat}
    {frames : List (Option String × Message)}
    (reachable : Reachable config engine)
    (begun : .begin (.sync asker sessionId generation limit offset) ∈ (engine.step input).2)
    (current : ((engine.step input).1.afterLive sessionId generation frames).syncIsCurrent
      sessionId generation = true)
    (page : Backend.Page) (id : String) :
    let held := Log.idsOf ((((engine.step input).1.afterLive sessionId generation frames).afterPage
      sessionId generation asker page).messages.log sessionId).messages
    held.count id ≤ 1 ∧ (held.count id = 1 ↔
      ((engine.step input).1.messages.log sessionId).ids.contains id = true ∨
        id ∈ Log.idsOf (liveMessages sessionId frames) ∨
        ∃ message ∈ page.messages, message.messageId = id ∧
          ((((engine.step input).1.messages.log sessionId).markAfter
            (liveMessages sessionId frames)).all fun mark => mark < message.millis) = true) := by
  intro held
  obtain ⟨running, -, started⟩ := begins_of_step begun
  have goesOn : (engine.step input).1.running = true := by
    rw [started]
    exact running
  obtain ⟨streaming, streamed⟩ := log_afterLive goesOn current
  have coherent := (reachable.step input).coherent sessionId
  have merged : held = Log.idsOf (((((engine.step input).1.messages.log sessionId).addAll
      (liveMessages sessionId frames)).merge page.messages).1).messages := by
    rw [← streamed, ← log_afterPage streaming current asker page]
  have complete := Log.coherent_merge
    (Log.coherent_addAll coherent (liveMessages sessionId frames)) page.messages
  rw [merged]
  exact ⟨List.nodup_iff_count.1 complete.unique id, Log.count_merge_addAll coherent _⟩

/-! ### A message that is lost -/

/-- A page of plain messages. -/
def pageOf (messages : List (String × Int)) : Backend.Page :=
  { messages := messages.map fun message => .ofBlocks message.1 .user message.2 []
    totalCount := messages.length, hasMore := false }

/-- The session slot has moved. -/
def withSessionSlot (engine : Engine) (slot : Slot) : Engine :=
  { engine with slots := engine.slots.set slot .session }

/-- An engine that follows a session with one message, and whose stream has ended and
was opened again. -/
def reopened : Engine :=
  let selected := ((Engine.new {}).step (.command 0 (.selectSession "s"))).1
  let loaded := (selected.step (.selection 1 (.history (pageOf [("1", 100000000000)])))).1
  let opened := loaded.withSessionSlot (loaded.sessionSlot.dialed true 0).1
  let ended := opened.withSessionSlot opened.sessionSlot.dropped.1
  let dialing := ended.withSessionSlot ended.sessionSlot.retry.1
  dialing.withSessionSlot (dialing.sessionSlot.dialed true 1000).1

theorem reachable_reopened : Reachable {} reopened := by
  have begins : Reachable {} (Engine.new {}) := .new
  have loaded := (begins.step (.command 0 (.selectSession "s"))).step
    (.selection 1 (.history (pageOf [("1", 100000000000)])))
  have opened := loaded.slot .session (.dialed true 0)
  have ended := opened.slot .session .dropped
  have dialing := ended.slot .session .retry
  exact dialing.slot .session (.dialed true 1000)

/-- The page has a message behind the watermark that held when it was asked for.  But a
later message is live before the page arrives, and so the earlier one is lost. -/
theorem count_afterPage_of_overtaken :
    let input : Input := .channel (.opened (.session "s") 4 .reconnect)
    let frames := [(none, Message.ofBlocks "9" .user 900000000000 [])]
    let page := pageOf [("2", 200000000000), ("9", 900000000000), ("10", 1000000000000)]
    Reachable {} reopened ∧ .begin (.sync none "s" 4 500 0) ∈ (reopened.step input).2 ∧
      ((reopened.step input).1.afterLive "s" 4 frames).syncIsCurrent "s" 4 = true ∧
      ((reopened.step input).1.messages.log "s").watermark = some 100000000000 ∧
      ¬ (Log.idsOf ((((reopened.step input).1.afterLive "s" 4 frames).afterPage "s" 4 none
        page).messages.log "s").messages).count "2" = 1 := by
  intro input frames page
  have begun : .begin (.sync none "s" 4 500 0) ∈ (reopened.step input).2 := by decide +kernel
  have current : ((reopened.step input).1.afterLive "s" 4 frames).syncIsCurrent "s" 4 = true := by
    decide +kernel
  have mark : ((reopened.step input).1.messages.log "s").watermark = some 100000000000 := by
    decide +kernel
  refine ⟨reachable_reopened, begun, current, mark, ?_⟩
  rw [(count_afterPage reachable_reopened begun current page "2").2]
  decide +kernel

end SessionSync.Engine
