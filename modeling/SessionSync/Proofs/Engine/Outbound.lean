import SessionSync.Proofs.Engine.Links

/-!
# What goes out

Three commands send a frame: a message, the answer to a permission request, and an
interruption.  Each is for the session in focus, and the only way out is the socket of the
session slot.  That socket is the one of the session in focus, since along every course the
slot streams it or nothing; in the same way the legion slot follows the legion that was
asked for last (`Course.tracksLegion`).

So a frame either goes out once, to the session in focus, or nothing changes at all
(`sends_to_focus`).
-/

set_option autoImplicit false

namespace SessionSync

/-- The frame that a command sends, and what its caller is answered then. -/
def Command.outbound? : Command → Option (ClientFrame × Answer)
  | .sendMessage content messageId =>
      some (.sendMessage content (some messageId), .sent messageId)
  | .respondPermission answer => some (.permissionResponse answer, .done)
  | .interruptSession => some (.interruptSession, .done)
  | _ => none

/-- Whether a command sends what was written in a draft. -/
def Command.sendsDraft : Command → Bool
  | .sendMessage .. => true
  | _ => false

namespace Slot

variable {slot : Slot}

/-- An open socket is the one of a channel, and the slot is connected. -/
theorem InStep.connected_of_isStreaming (inStep : slot.InStep)
    (streaming : slot.isStreaming = true) :
    slot.status = .connected ∧ ∃ channel, slot.target? = some channel := by
  unfold isStreaming at streaming
  split at streaming
  · rename_i channel generation held
    unfold InStep at inStep
    rw [held] at inStep
    exact ⟨inStep.2.1, channel, congrArg (Option.map Prod.fst) held⟩
  · cases streaming

/-- A slot can send exactly if a socket is open. -/
theorem InStep.canSend_iff (inStep : slot.InStep) :
    slot.canSend = .ok () ↔ slot.isStreaming = true := by
  unfold canSend
  constructor
  · intro able
    split at able
    · rename_i connected
      simp only [Bool.and_eq_true, beq_iff_eq] at connected
      exact inStep.isStreaming_of_connected connected.2
    · cases able
  · intro streaming
    obtain ⟨connected, channel, target⟩ := inStep.connected_of_isStreaming streaming
    have held : slot.active.isSome = true := by
      rw [target?] at target
      simpa using congrArg Option.isSome target
    simp [held, connected]

end Slot

namespace Engine

/-! ## The legion slot -/

/-- What the legion slot holds is the stream of the legion that is followed. -/
def TracksLegion (engine : Engine) : Prop :=
  engine.slots.legion.target? = engine.legionId.map .legion

section Legion

variable {engine : Engine}

/-- A turn that an input makes leaves the legion slot alone, or it has the slot hold the
legion that is followed then, or the engine stops. -/
theorem Makes.tracks {input : Input} {turn : LinkTurn} (makes : engine.Makes input turn)
    (slot : Slot) (before : Option String) :
    ((turn.slot .legion slot).1 = slot ∧ turn.legionId before = before) ∨
      (turn.slot .legion slot).1.target? = (turn.legionId before).map .legion ∨ turn = .stops := by
  cases makes with
  | connectLegion caller legionId => exact Or.inr (Or.inl rfl)
  | disconnectLegion caller => exact Or.inr (Or.inl rfl)
  | shutdown caller => exact Or.inr (Or.inr rfl)
  | _ => exact Or.inl ⟨rfl, rfl⟩

/-- As long as the engine runs, the legion slot follows the legion. -/
theorem TracksLegion.step (tracks : engine.TracksLegion) {input : Input}
    (running : (engine.step input).1.running = true) : (engine.step input).1.TracksLegion := by
  have slot : (engine.step input).1.slots.legion = _ := engine.get_slots_step input .legion
  have followed : (engine.step input).1.legionId = _ :=
    congrArg Links.legionId (engine.relinks_step input).links
  unfold TracksLegion
  cases turned : engine.link? input with
  | none =>
      rw [turned] at slot followed
      rw [slot, followed]
      exact tracks
  | some turn =>
      rw [turned] at slot followed
      rw [slot, followed]
      rcases (makes_of_link? turned).2.tracks engine.slots.legion engine.legionId with
        ⟨same, kept⟩ | tracked | rfl
      · exact (congrArg Slot.target? same).trans (tracks.trans (congrArg _ kept.symm))
      · exact tracked
      · rw [stopped_of_link? turned] at running
        cases running

end Legion

/-- **The legion slot follows the legion that was asked for last**, until the engine stops. -/
theorem Course.tracksLegion {config : Config} {engine : Engine} {past : List (Engine × Input)}
    (course : Course (.new config) past engine) (running : engine.running = true) :
    engine.TracksLegion := by
  induction course with
  | nothing => rfl
  | @step past current before input ih =>
      refine (ih ?_).step running
      by_contra stopped
      rw [step_of_stopped (Bool.eq_false_iff.2 stopped)] at running
      exact stopped running
  | slot before kind moves ih =>
      have tracks := ih running
      cases kind with
      | legion => exact moves.target?.trans tracks
      | _ => exact tracks

/-! ## Who sends -/

/-- No frame is handed to a socket. -/
def SendsNothing (effects : List Effect) : Prop := ∀ kind frame, .send kind frame ∉ effects

section Sends

variable (engine : Engine)

theorem sendsNothing_of_words {effects : List Effect}
    (words : ∀ effect ∈ effects, effect.isWord = true) : SendsNothing effects :=
  fun _ _ sent => Bool.false_ne_true (words _ sent)

theorem sendsNothing_onSelectionStep (epoch : Nat) (step : SelectionStep) :
    SendsNothing (engine.onSelectionStep epoch step).2 := by
  unfold onSelectionStep
  split
  · simp [SendsNothing]
  · split
    · simp [SendsNothing]
    · cases step with
      | session session => simp [SendsNothing, published]
      | history page => simp [SendsNothing, loadHistory, answerSelection, connect]
      | failed failure => simp [SendsNothing, failSelection, answerSelection]

theorem sendsNothing_onChannelEvent (event : ChannelEvent) :
    SendsNothing (engine.onChannelEvent event).2 := by
  cases event with
  | status channel generation status => simp [SendsNothing, onChannelEvent]
  | opened channel generation kind =>
      cases channel <;> cases kind <;> simp [SendsNothing, onChannelEvent, startSync]
  | frame channel generation frame =>
      exact sendsNothing_of_words (engine.words_applyFrame channel frame)

theorem sendsNothing_onCommand (caller : Caller) {command : Command}
    (silent : command.outbound? = none) : SendsNothing (engine.onCommand caller command).2 := by
  cases command with
  | sendMessage content messageId => cases silent
  | respondPermission answer => cases silent
  | interruptSession => cases silent
  | selectSession sessionId => simp [SendsNothing, onCommand, beginSelection, supersede]
  | clearSelection =>
      simp [SendsNothing, onCommand, onCommand.andDone, clearSelection, supersede]
  | shutdown => simp [SendsNothing, onCommand, onCommand.andDone, stop, answerSelection]
  | syncMessages sessionId =>
      unfold onCommand
      dsimp only
      split <;> simp [SendsNothing, startSync]
  | toggleToolExpanded sessionId toolId =>
      unfold onCommand
      dsimp only
      split <;> simp [SendsNothing]
  | _ => simp [SendsNothing, onCommand, onCommand.andDone, connect]

/-- **Nothing but an outbound command sends a frame.** -/
theorem sendsNothing_step {input : Input}
    (silent : ∀ caller command, input = .command caller command → command.outbound? = none) :
    SendsNothing (engine.step input).2 := by
  unfold step
  split
  · cases input with
    | command caller command => exact engine.sendsNothing_onCommand caller (silent _ _ rfl)
    | sessionsFetched caller outcome => cases outcome <;> simp [SendsNothing, handle]
    | selection epoch step => exact engine.sendsNothing_onSelectionStep epoch step
    | syncFetched asker sessionId generation outcome => simp [SendsNothing, handle]
    | channel event =>
        unfold handle
        dsimp only
        split
        · exact engine.sendsNothing_onChannelEvent event
        · simp [SendsNothing]
  · simp [SendsNothing]

end Sends

/-! ## What becomes of an outbound command -/

/-- A frame has gone to the session in focus, once, over the open socket of its stream, and
the caller is told so.  Of all that the engine holds only the draft that was sent is gone. -/
structure Sends (engine : Engine) (caller : Caller) (command : Command) (frame : ClientFrame)
    (success : Answer) (sessionId : String) (outcome : Engine × List Effect) : Prop where
  focused : engine.sessions.currentId = some sessionId
  streams : engine.sessionSlot.target? = some (.session sessionId)
  connected : engine.sessionSlot.status = .connected
  effects : outcome.2 = [.send .session frame, .answer caller success]
  kept : outcome.1 =
    { engine with entities := { engine.entities with drafts := outcome.1.entities.drafts } }
  drafts : ∀ probe, outcome.1.entities.draft? probe =
    if command.sendsDraft ∧ probe = sessionId then none else engine.entities.draft? probe

/-- Nothing has changed, and the caller is told why. -/
def Refuses (engine : Engine) (caller : Caller) (outcome : Engine × List Effect) : Prop :=
  ∃ failure, outcome = (engine, [.answer caller (.failed failure)])

section Outbound

variable {engine : Engine} {caller : Caller} {command : Command} {frame : ClientFrame}
  {success : Answer}

/-- A frame is sent exactly if a session is in focus and its slot can send. -/
theorem sendFor_cases (engine : Engine) (caller : Caller) (frame : ClientFrame)
    (success : Answer) (onSent : Engine → String → Engine) :
    (∃ sessionId, engine.sessions.currentId = some sessionId ∧ engine.sessionSlot.canSend = .ok () ∧
      engine.sendFor caller frame success onSent =
        (onSent engine sessionId, [.send .session frame, .answer caller success])) ∨
    ((engine.sessions.currentId = none ∨ engine.sessionSlot.canSend ≠ .ok ()) ∧
      engine.Refuses caller (engine.sendFor caller frame success onSent)) := by
  unfold sendFor sendFrame
  cases focus : engine.sessions.currentId with
  | none => exact Or.inr ⟨Or.inl rfl, _, rfl⟩
  | some sessionId =>
      cases able : engine.sessionSlot.canSend with
      | error failure => exact Or.inr ⟨Or.inr (by simp), failure, rfl⟩
      | ok _ => exact Or.inl ⟨sessionId, rfl, rfl, rfl⟩

/-- An engine once the frame of a command is sent: a message was the draft of its session. -/
def afterSending (command : Command) (engine : Engine) (sessionId : String) : Engine :=
  match command with
  | .sendMessage .. => { engine with entities := (engine.entities.takeDraft sessionId).1 }
  | _ => engine

theorem onCommand_outbound (engine : Engine) (caller : Caller)
    (outbound : command.outbound? = some (frame, success)) :
    engine.onCommand caller command =
      engine.sendFor caller frame success (afterSending command) := by
  cases command with
  | sendMessage content messageId =>
      cases outbound
      rfl
  | respondPermission answer =>
      cases outbound
      rfl
  | interruptSession =>
      cases outbound
      rfl
  | _ => cases outbound

theorem afterSending_eq (command : Command) (engine : Engine) (sessionId : String) :
    afterSending command engine sessionId = { engine with entities :=
      { engine.entities with
        drafts := (afterSending command engine sessionId).entities.drafts } } := by
  cases command <;> rfl

theorem draft?_afterSending (command : Command) (engine : Engine) (sessionId probe : String) :
    (afterSending command engine sessionId).entities.draft? probe =
      if command.sendsDraft ∧ probe = sessionId then none else engine.entities.draft? probe := by
  cases command with
  | sendMessage content messageId =>
      have taken : (afterSending (.sendMessage content messageId) engine sessionId).entities.draft?
          probe = (engine.entities.drafts.erase sessionId).find? probe := rfl
      rw [taken, Table.find?_erase]
      simp [Command.sendsDraft, EntityStore.draft?]
  | _ => simp [Command.sendsDraft, afterSending]

/-- An outbound command sends its frame while the socket of its slot is open, and is refused
otherwise. -/
theorem step_outbound (running : engine.running = true) (streams : engine.StreamsFocus)
    (inStep : engine.sessionSlot.InStep) (outbound : command.outbound? = some (frame, success)) :
    (engine.sessionSlot.isStreaming = true ∧ ∃ sessionId,
      engine.Sends caller command frame success sessionId
        (engine.step (.command caller command))) ∨
    (engine.sessionSlot.isStreaming = false ∧
      engine.Refuses caller (engine.step (.command caller command))) := by
  have asked : engine.step (.command caller command) =
      engine.sendFor caller frame success (afterSending command) := by
    rw [← engine.onCommand_outbound caller outbound]
    simp [step, running, handle]
  have able := inStep.canSend_iff
  have whenOpen : engine.sessionSlot.isStreaming = true → engine.sessionSlot.status = .connected ∧
      ∃ sessionId, engine.sessionSlot.target? = some (.session sessionId) ∧
        engine.sessions.currentId = some sessionId := by
    intro streaming
    obtain ⟨connected, channel, held⟩ := inStep.connected_of_isStreaming streaming
    obtain ⟨sessionId, rfl, current⟩ := streams channel held
    exact ⟨connected, sessionId, held, current⟩
  rw [asked]
  rcases engine.sendFor_cases caller frame success (afterSending command) with
    ⟨sessionId, focused, can, sends⟩ | ⟨unable, refuses⟩
  · have streaming := able.1 can
    obtain ⟨connected, streamed, held, current⟩ := whenOpen streaming
    cases focused.symm.trans current
    rw [sends]
    exact Or.inl ⟨streaming, sessionId, focused, held, connected, rfl,
      afterSending_eq command engine sessionId, draft?_afterSending command engine sessionId⟩
  · refine Or.inr ⟨?_, refuses⟩
    by_contra streaming
    rw [Bool.not_eq_false] at streaming
    obtain ⟨-, streamed, -, current⟩ := whenOpen streaming
    rcases unable with unfocused | unable
    · rw [current] at unfocused
      cases unfocused
    · exact unable (able.2 streaming)

end Outbound

/-- **Frames go out only to the session in focus.**  Along every course of an engine, until
it stops, the session slot holds the stream of the session in focus or nothing, and the
legion slot exactly that of the legion that is followed.  An outbound command sends its
frame once, to the session that is in focus at that moment and over the open socket of its
stream, and takes only that session's draft; without an open socket it is refused, and the
engine is left as it was.  And no other input sends any frame. -/
theorem sends_to_focus {config : Config} {engine : Engine} {past : List (Engine × Input)}
    (course : Course (.new config) past engine) (running : engine.running = true) :
    (engine.sessionSlot.target? = none ∨ ∃ sessionId,
        engine.sessionSlot.target? = some (.session sessionId) ∧
          engine.sessions.currentId = some sessionId) ∧
      engine.slots.legion.target? = engine.legionId.map .legion ∧
      (∀ caller command frame success, command.outbound? = some (frame, success) →
        (engine.sessionSlot.isStreaming = true ∧ ∃ sessionId,
          engine.Sends caller command frame success sessionId
            (engine.step (.command caller command))) ∨
        (engine.sessionSlot.isStreaming = false ∧
          engine.Refuses caller (engine.step (.command caller command)))) ∧
      ∀ input kind frame, .send kind frame ∈ (engine.step input).2 →
        ∃ caller command, input = .command caller command ∧ command.outbound?.isSome = true := by
  have streams := course.streamsFocus
  have inStep := (course.fits .session).inStep
  refine ⟨?_, course.tracksLegion running, ?_, ?_⟩
  · cases held : engine.sessionSlot.target? with
    | none => exact Or.inl rfl
    | some channel =>
        obtain ⟨sessionId, rfl, current⟩ := streams channel held
        exact Or.inr ⟨sessionId, rfl, current⟩
  · intro caller command frame success outbound
    exact step_outbound running streams inStep outbound
  · intro input kind frame sent
    by_contra other
    refine engine.sendsNothing_step (fun caller command same => ?_) kind frame sent
    rw [← Option.not_isSome_iff_eq_none]
    exact fun outbound => other ⟨caller, command, same, outbound⟩

/-- A session is selected beside a legion, and something is written to it. -/
def written : List Input :=
  [.command 0 (.connectLegion "l"), .command 1 (.selectSession "s"),
    .selection 1 (.history ⟨[], 0, false⟩), .command 2 (.setDraft "s" "hello"),
    .command 3 (.setDraft "t" "later")]

/-- The stream of the session is open. -/
def writing : Engine :=
  let asked := (Engine.new {}).run written
  { asked with slots := asked.slots.set (asked.sessionSlot.dialed true 0).1 .session }

/-- The message goes to the session, and its draft alone is gone. -/
theorem sends_to_focus_of_writing :
    ∃ past, Course (.new {}) past writing ∧ writing.running = true ∧
      writing.slots.legion.target? = some (.legion "l") ∧
      writing.Sends 4 (.sendMessage "hello" "m") (.sendMessage "hello" (some "m")) (.sent "m") "s"
        (writing.step (.command 4 (.sendMessage "hello" "m"))) := by
  have course : Course (.new {}) _ writing :=
    (course_run (.new {}) written).slot .session (.dialed true 0)
  have running : writing.running = true := by decide
  obtain ⟨-, legion, outbound, -⟩ := sends_to_focus course running
  refine ⟨_, course, running, legion, ?_⟩
  rcases outbound 4 (.sendMessage "hello" "m") _ _ rfl with ⟨-, sessionId, sends⟩ | ⟨closed, -⟩
  · have focused : writing.sessions.currentId = some "s" := by decide
    cases focused.symm.trans sends.focused
    exact sends
  · exact absurd closed (by decide)

end Engine

end SessionSync
