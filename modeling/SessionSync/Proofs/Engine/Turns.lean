import SessionSync.Proofs.Engine.Stores

/-!
# Turns of a selection

Many inputs reach the engine, and few of them change anything about its selection: a
command that selects or clears, the last step of the latest selection, the deletion of the
session in focus, and a shutdown (`SelectionTurn`).  A turn says what becomes of the focus
of the engine and what the caller is told who waits for the selection.

Every step of the engine follows its turn, and where there is none it leaves the focus
alone and answers nobody but its own caller (`follows_step`).
-/

set_option autoImplicit false

namespace SessionSync

/-! ## Turns -/

/-- The selection, the session in focus, and whether the engine runs. -/
structure Focus where
  selection : Selection
  currentId : Option String
  running : Bool

/-- What an input does to the selection. -/
inductive SelectionTurn where
  | selects (caller : Caller) (sessionId : String)
  | clears
  /-- The session in focus was deleted; there was a record of it, or there was none. -/
  | deletes (sessionId : String) (recorded : Bool)
  | loads (sessionId : String)
  | fails (sessionId : String) (failure : Failure)
  | stops
  deriving DecidableEq

namespace SelectionTurn

/-- Whether the selection before is given up. -/
def supersedes : SelectionTurn → Bool
  | .selects .. | .clears | .deletes .. => true
  | .loads _ | .fails .. | .stops => false

/-- What the caller is told who has waited until now. -/
@[simp] def answer : SelectionTurn → Answer
  | .selects .. | .clears | .deletes .. => .failed .superseded
  | .loads _ => .done
  | .fails _ failure => .failed failure
  | .stops => .failed .stopped

/-- Who waits from now on. -/
def caller? : SelectionTurn → Option Caller
  | .selects caller _ => some caller
  | _ => none

/-- The phase after a turn on a phase. -/
def phase (before : SelectionPhase) : SelectionTurn → SelectionPhase
  | .selects _ sessionId => .loading sessionId
  | .clears | .deletes .. => .idle
  | .loads sessionId => .ready sessionId
  | .fails sessionId failure => .failed sessionId failure.message
  | .stops => before

/-- The session in focus after a turn.  A session that was deleted keeps the focus if
there was no record of it. -/
def currentId (before : Option String) : SelectionTurn → Option String
  | .selects _ sessionId => some sessionId
  | .clears | .deletes _ true => none
  | .deletes _ false | .loads _ | .fails .. | .stops => before

/-- Whether the engine runs after a turn. -/
def running (before : Bool) : SelectionTurn → Bool
  | .stops => false
  | _ => before

/-- The epoch after a turn. -/
def epoch (before : Nat) (turn : SelectionTurn) : Nat :=
  if turn.supersedes then before + 1 else before

/-- What a turn makes of the focus. -/
def focus (before : Focus) (turn : SelectionTurn) : Focus where
  selection := ⟨turn.epoch before.selection.epoch, turn.caller?,
    turn.phase before.selection.phase⟩
  currentId := turn.currentId before.currentId
  running := turn.running before.running

end SelectionTurn

/-! ## Effects -/

namespace Effect

/-- An answer, with who gets it. -/
@[simp] def answer? : Effect → Option (Caller × Answer)
  | .answer caller said => some (caller, said)
  | _ => none

/-- A selection that is begun. -/
@[simp] def selection? : Effect → Option SelectionTask
  | .begin (.select task) => some task
  | _ => none

end Effect

/-- The answers among effects. -/
def answersIn (effects : List Effect) : List (Caller × Answer) := effects.filterMap Effect.answer?

/-- The selections that are begun among effects. -/
def selectionsIn (effects : List Effect) : List SelectionTask :=
  effects.filterMap Effect.selection?

section Effects

variable (effects more : List Effect)

@[simp] theorem answersIn_nil : answersIn [] = [] := rfl

@[simp] theorem selectionsIn_nil : selectionsIn [] = [] := rfl

@[simp] theorem answersIn_cons (effect : Effect) :
    answersIn (effect :: effects) = effect.answer?.toList ++ answersIn effects := by
  unfold answersIn
  rw [List.filterMap_cons]
  cases effect.answer? <;> rfl

@[simp] theorem selectionsIn_cons (effect : Effect) :
    selectionsIn (effect :: effects) = effect.selection?.toList ++ selectionsIn effects := by
  unfold selectionsIn
  rw [List.filterMap_cons]
  cases effect.selection? <;> rfl

@[simp] theorem answersIn_append :
    answersIn (effects ++ more) = answersIn effects ++ answersIn more :=
  List.filterMap_append

@[simp] theorem selectionsIn_append :
    selectionsIn (effects ++ more) = selectionsIn effects ++ selectionsIn more :=
  List.filterMap_append

@[simp] theorem answersIn_publish (events : List StoreEvent) :
    answersIn (events.map .publish) = [] := by
  simp [answersIn]

@[simp] theorem selectionsIn_publish (events : List StoreEvent) :
    selectionsIn (events.map .publish) = [] := by
  simp [selectionsIn]

@[simp] theorem answersIn_report (events : List ChannelEvent) :
    answersIn (events.map .report) = [] := by
  simp [answersIn]

@[simp] theorem selectionsIn_report (events : List ChannelEvent) :
    selectionsIn (events.map .report) = [] := by
  simp [selectionsIn]

@[simp] theorem answersIn_answer (callers : List Caller) (answer : Answer) :
    answersIn (callers.map fun caller => .answer caller answer) =
      callers.map fun caller => (caller, answer) := by
  simp [answersIn, List.filterMap_map, Function.comp_def]

@[simp] theorem selectionsIn_answer (callers : List Caller) (answer : Answer) :
    selectionsIn (callers.map fun caller => .answer caller answer) = [] := by
  simp [selectionsIn]

end Effects

namespace Engine

variable (engine : Engine)

/-- The focus of an engine. -/
def focus : Focus := ⟨engine.selection, engine.sessions.currentId, engine.running⟩

/-- The turn of an input that is handled. -/
def handledTurn? : Input → Option SelectionTurn
  | .command caller (.selectSession sessionId) => some (.selects caller sessionId)
  | .command _ .clearSelection => some .clears
  | .command _ .shutdown => some .stops
  | .selection epoch (.history _) =>
      if epoch = engine.selection.epoch then engine.sessions.currentId.map .loads else none
  | .selection epoch (.failed failure) =>
      if epoch = engine.selection.epoch then
        engine.sessions.currentId.map fun sessionId => .fails sessionId failure
      else none
  | .channel (.frame channel generation (.sessionDeleted sessionId)) =>
      if engine.accepts (.frame channel generation (.sessionDeleted sessionId)) ∧
          engine.sessions.currentId = some sessionId then
        some (.deletes sessionId (engine.sessions.session? sessionId).isSome)
      else none
  | _ => none

/-- The turn of an input.  An engine that has stopped handles nothing. -/
def turn? (input : Input) : Option SelectionTurn :=
  if engine.running then engine.handledTurn? input else none

/-- What is answered for a turn: whoever has waited for the selection is told of it. -/
def told (turn : SelectionTurn) : List (Caller × Answer) :=
  engine.selection.caller.toList.map fun caller => (caller, turn.answer)

/-- The selections that a turn begins. -/
def begun : SelectionTurn → List SelectionTask
  | .selects _ sessionId => [.start engine.config sessionId (engine.selection.epoch + 1)]
  | _ => []

/-- An outcome is that of a turn, or of none.  Beside what the turn says the input's own
caller is answered. -/
structure Follows (own : Option Caller) (turn : Option SelectionTurn)
    (outcome : Engine × List Effect) : Prop where
  focus : outcome.1.focus = turn.elim engine.focus (SelectionTurn.focus engine.focus)
  answers : ∃ others, answersIn outcome.2 = turn.elim [] engine.told ++ others ∧
    ∀ answered ∈ others, own = some answered.1
  selections : selectionsIn outcome.2 = turn.elim [] engine.begun

/-- An engine stands where another one does: it has the same focus and the same slots. -/
structure Steady (next : Engine) : Prop where
  focus : next.focus = engine.focus
  slots : next.slots = engine.slots

variable {engine}

theorem Steady.refl : engine.Steady engine := ⟨rfl, rfl⟩

theorem Steady.trans {middle next : Engine} (first : engine.Steady middle)
    (second : middle.Steady next) : engine.Steady next :=
  ⟨second.focus.trans first.focus, second.slots.trans first.slots⟩

/-- A store of sessions with the same current id may take the place of another. -/
theorem Steady.sessions {middle : Engine} (steady : engine.Steady middle)
    {sessions : SessionStore} (current : sessions.currentId = engine.sessions.currentId) :
    engine.Steady { middle with sessions } := by
  refine ⟨?_, steady.slots⟩
  have selection : middle.selection = engine.selection := congrArg Focus.selection steady.focus
  have running : middle.running = engine.running := congrArg Focus.running steady.focus
  simp [Engine.focus, selection, running, current]

/-- An outcome without a turn. -/
theorem follows_none {own : Option Caller} {outcome : Engine × List Effect}
    (focus : outcome.1.focus = engine.focus)
    (answers : ∀ answered ∈ answersIn outcome.2, own = some answered.1)
    (selections : selectionsIn outcome.2 = []) : engine.Follows own none outcome :=
  ⟨focus, ⟨_, rfl, answers⟩, selections⟩

/-! ## Frames -/

section Frames

variable (engine)

theorem steady_orphanOn (sessionId : String) (transition : Transition) :
    engine.Steady (engine.orphanOn sessionId transition).1 := by
  unfold orphanOn
  split <;> exact ⟨rfl, rfl⟩

theorem steady_upsertSession (session : Session) :
    engine.Steady (engine.upsertSession session).1 := by
  have written : engine.Steady { engine with sessions := (engine.sessions.upsert session).1 } :=
    Steady.refl.sessions rfl
  exact written.trans (steady_orphanOn _ _ _)

theorem steady_replaceSessions (sessions : List Session) :
    engine.Steady (engine.replaceSessions sessions).1 := by
  unfold replaceSessions
  refine Steady.sessions ?_ rfl
  exact List.foldlRecOn
    (motive := fun outcome : Engine × List StoreEvent => engine.Steady outcome.1)
    sessions _ .refl fun outcome before session _ =>
      before.trans (steady_orphanOn outcome.1 _ _)

theorem steady_changeState (sessionId : String) (change : StateChange) :
    engine.Steady (engine.changeState sessionId change).1 := by
  have kept : (engine.sessions.applyStateChange sessionId change).1.currentId =
      engine.sessions.currentId := by
    unfold SessionStore.applyStateChange
    split
    · rfl
    · split <;> rfl
  unfold changeState
  split
  · rename_i sessions transition changed
    rw [changed] at kept
    have written : engine.Steady { engine with sessions } := Steady.refl.sessions kept
    exact written.trans (steady_orphanOn _ _ _)
  · split
    · exact steady_orphanOn engine _ _
    · exact .refl

theorem steady_addMessage (sessionId : String) (message : Message) :
    engine.Steady (engine.addMessage sessionId message).1 := by
  unfold addMessage
  dsimp only
  split <;> exact ⟨rfl, rfl⟩

theorem steady_applyScoped (sessionId : String) (frame : ServerFrame) :
    engine.Steady (engine.applyScoped sessionId frame).1 := by
  cases frame with
  | message explicit message => exact steady_addMessage engine sessionId message
  | stateChange explicit change => exact steady_changeState engine sessionId change
  | _ => exact ⟨rfl, rfl⟩

/-- A frame that deletes nothing leaves the engine where it stands, and nobody waits for
an answer to it. -/
theorem steady_applyFrame (channel : Channel) {frame : ServerFrame}
    (kept : ∀ sessionId, frame ≠ .sessionDeleted sessionId) :
    engine.Steady (engine.applyFrame channel frame).1 ∧
      answersIn (engine.applyFrame channel frame).2 = [] ∧
      selectionsIn (engine.applyFrame channel frame).2 = [] := by
  have announced : ∀ outcome : Engine × List StoreEvent, engine.Steady outcome.1 →
      engine.Steady (published outcome).1 ∧ answersIn (published outcome).2 = [] ∧
        selectionsIn (published outcome).2 = [] :=
    fun outcome steady => ⟨steady, answersIn_publish _, selectionsIn_publish _⟩
  unfold applyFrame
  split
  · exact announced _ (steady_replaceSessions engine _)
  · exact announced _ (steady_upsertSession engine _)
  · exact announced _ (steady_upsertSession engine _)
  · exact absurd rfl (kept _)
  · exact announced _ ⟨rfl, rfl⟩
  · exact ⟨.refl, by simp, by simp⟩
  · exact ⟨.refl, rfl, rfl⟩
  · exact ⟨.refl, rfl, rfl⟩
  · split
    · exact announced _ (steady_applyScoped engine _ frame)
    · exact ⟨.refl, rfl, rfl⟩

end Frames

/-! ## Turns over channels -/

section Channels

variable (engine)

theorem follows_deleteSession {sessionId : String}
    (current : engine.sessions.currentId = some sessionId) :
    engine.Follows none (some (.deletes sessionId (engine.sessions.session? sessionId).isSome))
      (engine.deleteSession sessionId) := by
  have focused : (engine.sessions.remove sessionId).1.currentId =
      (SelectionTurn.deletes sessionId (engine.sessions.session? sessionId).isSome).currentId
        engine.sessions.currentId := by
    unfold SessionStore.remove
    cases recorded : engine.sessions.session? sessionId with
    | none => rfl
    | some session => simp [current, SelectionTurn.currentId]
  unfold deleteSession
  simp only [current, if_pos]
  refine ⟨?_, ⟨[], ?_, fun _ none => nomatch none⟩, ?_⟩
  · exact congrArg (Focus.mk _ · _) focused
  · simp [supersede, told]
  · simp [supersede, begun]

theorem follows_deleteSession_of_ne {sessionId : String}
    (other : engine.sessions.currentId ≠ some sessionId) :
    engine.Follows none none (engine.deleteSession sessionId) := by
  have focused : (engine.sessions.remove sessionId).1.currentId = engine.sessions.currentId := by
    unfold SessionStore.remove
    split
    · rfl
    · exact if_neg other
  unfold deleteSession
  simp only [other]
  refine follows_none ?_ ?_ ?_
  · exact congrArg (Focus.mk _ · _) focused
  · simp
  · simp

/-- The slots are of no consequence for what a turn says. -/
theorem Follows.slots {engine : Engine} {own : Option Caller} {turn : Option SelectionTurn}
    {outcome : Engine × List Effect} (follows : engine.Follows own turn outcome)
    (slots : PerSlot Slot) : engine.Follows own turn ({ outcome.1 with slots }, outcome.2) :=
  ⟨follows.focus, follows.answers, follows.selections⟩

theorem follows_frame {channel : Channel} {generation : Nat} {frame : ServerFrame}
    (accepted : engine.accepts (.frame channel generation frame) = true) :
    engine.Follows none (engine.handledTurn? (.channel (.frame channel generation frame)))
      (engine.applyFrame channel frame) := by
  by_cases deletes : ∃ sessionId, frame = .sessionDeleted sessionId
  · obtain ⟨sessionId, rfl⟩ := deletes
    unfold handledTurn?
    by_cases current : engine.sessions.currentId = some sessionId
    · dsimp only
      rw [if_pos ⟨accepted, current⟩]
      exact engine.follows_deleteSession current
    · dsimp only
      rw [if_neg fun both => current both.2]
      exact engine.follows_deleteSession_of_ne current
  · have kept : ∀ sessionId, frame ≠ .sessionDeleted sessionId :=
      fun sessionId same => deletes ⟨sessionId, same⟩
    have silent : engine.handledTurn? (.channel (.frame channel generation frame)) = none := by
      cases frame with
      | sessionDeleted sessionId => exact absurd rfl (kept sessionId)
      | _ => rfl
    obtain ⟨steady, answers, selections⟩ := engine.steady_applyFrame channel kept
    rw [silent]
    exact follows_none steady.focus (by simp [answers]) selections

theorem follows_onChannelEvent {event : ChannelEvent} (accepted : engine.accepts event = true) :
    engine.Follows none (engine.handledTurn? (.channel event)) (engine.onChannelEvent event) := by
  cases event with
  | status channel generation status =>
      exact follows_none rfl (by simp [onChannelEvent]) (by simp [onChannelEvent])
  | opened channel generation kind =>
      cases channel <;> cases kind <;>
        exact follows_none rfl (by simp [onChannelEvent, startSync])
          (by simp [onChannelEvent, startSync])
  | frame channel generation frame =>
      have follows := engine.follows_frame accepted
      unfold onChannelEvent
      dsimp only
      split
      · exact follows.slots _
      · exact follows

end Channels

/-! ## Turns of selection tasks -/

section Tasks

variable (engine)

theorem follows_loadHistory (sessionId : String) (page : Backend.Page) :
    engine.Follows none (some (.loads sessionId)) (engine.loadHistory sessionId page) := by
  refine ⟨rfl, ⟨[], ?_, fun _ none => nomatch none⟩, ?_⟩
  · simp [loadHistory, connect, answerSelection, told]
  · simp [loadHistory, connect, answerSelection, begun]

theorem follows_failSelection (sessionId : String) (failure : Failure) :
    engine.Follows none (some (.fails sessionId failure))
      (engine.failSelection sessionId failure) := by
  refine ⟨rfl, ⟨[], ?_, fun _ none => nomatch none⟩, ?_⟩
  · simp [failSelection, answerSelection, told]
  · simp [failSelection, answerSelection, begun]

theorem follows_onSelectionStep (epoch : Nat) (step : SelectionStep) :
    engine.Follows none (engine.handledTurn? (.selection epoch step))
      (engine.onSelectionStep epoch step) := by
  have idle : engine.Follows none none (engine, []) := follows_none rfl (by simp) rfl
  unfold onSelectionStep
  by_cases latest : epoch = engine.selection.epoch
  · rw [if_neg fun stale => stale latest]
    cases current : engine.sessions.currentId with
    | none => cases step <;> simpa [handledTurn?, current] using idle
    | some sessionId =>
        cases step with
        | session session =>
            exact follows_none (engine.steady_upsertSession session).focus
              (by simp [published]) (by simp [published])
        | history page =>
            simpa [handledTurn?, latest, current] using engine.follows_loadHistory sessionId page
        | failed failure =>
            simpa [handledTurn?, latest, current] using
              engine.follows_failSelection sessionId failure
  · rw [if_pos latest]
    cases step <;> simpa [handledTurn?, latest] using idle

end Tasks

/-! ## Turns of commands -/

section Commands

variable (engine) (caller : Caller)

theorem Follows.andDone {engine : Engine} {caller : Caller} {turn : Option SelectionTurn}
    {outcome : Engine × List Effect} (follows : engine.Follows (some caller) turn outcome) :
    engine.Follows (some caller) turn (onCommand.andDone caller outcome) := by
  obtain ⟨others, answers, own⟩ := follows.answers
  refine ⟨follows.focus, ⟨others ++ [(caller, .done)], ?_, ?_⟩, ?_⟩
  · simp [onCommand.andDone, answers]
  · intro answered member
    rcases List.mem_append.1 member with before | last
    · exact own answered before
    · rw [List.mem_singleton.1 last]
  · simp [onCommand.andDone, follows.selections]

theorem follows_beginSelection (sessionId : String) :
    engine.Follows (some caller) (some (.selects caller sessionId))
      (engine.beginSelection caller sessionId) := by
  refine ⟨rfl, ⟨[], ?_, fun _ none => nomatch none⟩, ?_⟩
  · simp [beginSelection, supersede, told]
  · simp [beginSelection, supersede, begun]

theorem follows_clearSelection :
    engine.Follows (some caller) (some .clears) engine.clearSelection := by
  refine ⟨rfl, ⟨[], ?_, fun _ none => nomatch none⟩, ?_⟩
  · simp [clearSelection, supersede, told]
  · simp [clearSelection, supersede, begun]

theorem follows_stop : engine.Follows (some caller) (some .stops) engine.stop := by
  refine ⟨rfl, ⟨[], ?_, fun _ none => nomatch none⟩, ?_⟩
  · simp [stop, SlotKind.all, closeSlot, answerSelection, told]
  · simp [stop, answerSelection, begun]

theorem follows_sendFor (frame : ClientFrame) (success : Answer)
    (onSent : Engine → String → Engine)
    (keeps : ∀ sessionId, (onSent engine sessionId).focus = engine.focus) :
    engine.Follows (some caller) none (engine.sendFor caller frame success onSent) := by
  unfold sendFor
  split
  · rename_i sent
    rw [effects_of_sendFrame engine sent]
    exact follows_none (keeps _) (by simp) (by simp)
  · exact follows_none rfl (by simp) (by simp)

theorem follows_connect (channel : Channel) :
    engine.Follows (some caller) none (engine.connect channel) :=
  follows_none rfl (by simp [connect]) (by simp [connect])

theorem follows_onCommand (command : Command) :
    engine.Follows (some caller) (engine.handledTurn? (.command caller command))
      (engine.onCommand caller command) := by
  cases command with
  | selectSession sessionId => exact engine.follows_beginSelection caller sessionId
  | clearSelection => exact (engine.follows_clearSelection caller).andDone
  | shutdown => exact (engine.follows_stop caller).andDone
  | sendMessage content messageId =>
      apply engine.follows_sendFor caller
      exact fun _ => rfl
  | respondPermission answer =>
      apply engine.follows_sendFor caller
      exact fun _ => rfl
  | interruptSession =>
      apply engine.follows_sendFor caller
      exact fun _ => rfl
  | syncMessages sessionId =>
      unfold onCommand
      dsimp only
      split
      · exact follows_none rfl (by simp [startSync]) (by simp [startSync])
      · exact follows_none rfl (by simp) (by simp)
  | toggleToolExpanded sessionId toolId =>
      refine follows_none rfl ?_ ?_
      · simp only [onCommand]
        split <;> simp
      · simp only [onCommand]
        split <;> simp
  | refreshSessions =>
      exact follows_none rfl (by simp [onCommand]) (by simp [onCommand])
  | orphanInfo sessionId toolId =>
      exact follows_none rfl (by simp [onCommand]) (by simp [onCommand])
  | connectUi => exact (engine.follows_connect caller .ui).andDone
  | connectLegion legionId =>
      have renamed := { engine with legionId := some legionId }.follows_connect caller
        (.legion legionId)
      have follows := renamed.andDone
      exact ⟨follows.focus, follows.answers, follows.selections⟩
  | _ =>
      exact follows_none rfl (by simp [onCommand, onCommand.andDone])
        (by simp [onCommand, onCommand.andDone])

end Commands

/-! ## Steps -/

theorem focus_applySync (engine : Engine) (sessionId : String) (generation : Nat)
    (outcome : Except Failure Backend.Page) :
    (engine.applySync sessionId generation outcome).1.focus = engine.focus := by
  unfold applySync
  split
  · cases outcome <;> rfl
  · rfl

theorem follows_handle (engine : Engine) (input : Input) :
    engine.Follows (waitingCaller input) (engine.handledTurn? input) (engine.handle input) := by
  cases input with
  | command caller command => exact engine.follows_onCommand caller command
  | sessionsFetched caller outcome =>
      cases outcome with
      | ok sessions =>
          exact follows_none (engine.steady_replaceSessions sessions).focus
            (by simp [handle, waitingCaller]) (by simp [handle])
      | error failure =>
          exact follows_none rfl (by simp [handle, waitingCaller]) (by simp [handle])
  | selection epoch step => exact engine.follows_onSelectionStep epoch step
  | syncFetched caller sessionId generation outcome =>
      refine follows_none ?_ (by simp [handle, waitingCaller]) (by simp [handle])
      exact engine.focus_applySync sessionId generation outcome
  | channel event =>
      unfold handle
      dsimp only
      split
      · rename_i accepted
        exact engine.follows_onChannelEvent accepted
      · rename_i refused
        have silent : engine.handledTurn? (.channel event) = none := by
          cases event with
          | frame channel generation frame =>
              cases frame with
              | sessionDeleted sessionId => exact if_neg fun both => refused both.1
              | _ => rfl
          | _ => rfl
        rw [silent]
        exact follows_none rfl (by simp) rfl

/-- **A step follows its turn.** -/
theorem follows_step (engine : Engine) (input : Input) :
    engine.Follows (waitingCaller input) (engine.turn? input)
      (engine.step input) := by
  unfold step turn?
  split
  · exact engine.follows_handle input
  · exact follows_none rfl (by simp) (by simp)

end Engine

end SessionSync
