import SessionSync.Proofs.Engine.Course
import SessionSync.Proofs.Latest

/-!
# The session in focus

Which session is in focus stands in three places: the store of sessions has the current
id, the selection has the session of its phase, and the session slot has its channel.

A phase always names the session in focus, and the slot streams no other session
(`Course.streamsFocus`).  The converse depends on what was deleted: a deletion takes the
current id away only together with a record, but it puts the phase to rest in any case.  So
the phase is idle exactly while no session is in focus, unless the last turn was the
deletion of a session without a record; then the focus stays on what was deleted
(`phase_agrees_unless_unrecorded`).
-/

set_option autoImplicit false

namespace SessionSync

/-! ## Slots that move keep their channel -/

namespace Slot

theorem target?_ended (slot : Slot) (channel : Channel) (generation : Nat) :
    (slot.ended channel generation).1.target? = some channel := by
  unfold ended
  dsimp only
  split <;> rfl

/-- A slot that moves by itself holds the channel that it held. -/
theorem Moves.target? {slot next : Slot} (moves : slot.Moves next) :
    next.target? = slot.target? := by
  cases moves with
  | dialed accepted now =>
      unfold Slot.dialed
      split
      · rename_i channel generation dialing
        have held : slot.target? = some channel := congrArg (Option.map Prod.fst) dialing
        rw [held]
        split
        · split <;> rfl
        · exact target?_ended ..
      · rfl
  | dropped =>
      unfold Slot.dropped
      split
      · rename_i channel generation streaming
        have held : slot.target? = some channel := congrArg (Option.map Prod.fst) streaming
        rw [held]
        exact target?_ended ..
      · rfl
  | retry =>
      unfold Slot.retry
      split
      · rename_i channel generation delay waiting
        have held : slot.target? = some channel := congrArg (Option.map Prod.fst) waiting
        rw [held]
        split <;> rfl
      · rfl
  | receive brought =>
      unfold Slot.receive at brought
      split at brought
      · split at brought
        · cases brought
          rfl
        · cases brought
          rfl
        · split at brought
          · cases brought
            rfl
          · cases brought
            rfl
      · cases brought

end Slot

namespace Engine

/-! ## The stream is that of the session in focus -/

/-- What the session slot holds is the stream of the session in focus. -/
def StreamsFocus (engine : Engine) : Prop :=
  ∀ channel, engine.sessionSlot.target? = some channel →
    ∃ sessionId, channel = .session sessionId ∧ engine.sessions.currentId = some sessionId

section Streams

variable {engine next : Engine}

theorem streamsFocus_of_silent (silent : engine.sessionSlot.target? = none) :
    engine.StreamsFocus := by
  intro channel held
  rw [silent] at held
  cases held

theorem StreamsFocus.of_same (streams : engine.StreamsFocus)
    (target : next.sessionSlot.target? = engine.sessionSlot.target?)
    (current : next.sessions.currentId = engine.sessions.currentId) : next.StreamsFocus := by
  intro channel held
  rw [target] at held
  rw [current]
  exact streams channel held

theorem StreamsFocus.steady (streams : engine.StreamsFocus) (steady : engine.Steady next) :
    next.StreamsFocus :=
  streams.of_same (by rw [sessionSlot, steady.slots]; rfl) (congrArg Focus.currentId steady.focus)

theorem StreamsFocus.silent (streams : engine.StreamsFocus)
    (unfocused : engine.sessions.currentId = none) : engine.sessionSlot.target? = none := by
  cases held : engine.sessionSlot.target? with
  | none => rfl
  | some channel =>
      obtain ⟨sessionId, -, current⟩ := streams channel held
      rw [unfocused] at current
      cases current

theorem StreamsFocus.streamsAnother (streams : engine.StreamsFocus) :
    engine.streamsAnother = false := by
  unfold Engine.streamsAnother
  split
  · rename_i sessionId held
    obtain ⟨focused, same, current⟩ := streams _ held
    cases same
    simp [current]
  · rfl

theorem StreamsFocus.onCommand (streams : engine.StreamsFocus) (caller : Caller)
    (command : Command) : (engine.onCommand caller command).1.StreamsFocus := by
  have sent : ∀ frame success (onSent : Engine → String → Engine),
      (∀ sessionId, (onSent engine sessionId).StreamsFocus) →
      (engine.sendFor caller frame success onSent).1.StreamsFocus := by
    intro frame success onSent keeps
    unfold sendFor
    split
    · exact keeps _
    · exact streams
  cases command with
  | selectSession sessionId => exact streamsFocus_of_silent rfl
  | clearSelection => exact streamsFocus_of_silent rfl
  | shutdown => exact streamsFocus_of_silent rfl
  | sendMessage content messageId =>
      apply sent
      exact fun _ => streams.of_same rfl rfl
  | respondPermission answer =>
      apply sent
      exact fun _ => streams
  | interruptSession =>
      apply sent
      exact fun _ => streams
  | syncMessages sessionId =>
      unfold Engine.onCommand
      dsimp only
      split
      · exact streams.of_same rfl rfl
      · exact streams
  | _ => exact streams.of_same rfl rfl

theorem StreamsFocus.onSelectionStep (streams : engine.StreamsFocus) (epoch : Nat)
    (step : SelectionStep) : (engine.onSelectionStep epoch step).1.StreamsFocus := by
  unfold Engine.onSelectionStep
  split
  · exact streams
  · split
    · exact streams
    · rename_i sessionId current
      cases step with
      | session session => exact streams.steady (engine.steady_upsertSession session)
      | history page =>
          intro channel held
          cases held
          exact ⟨sessionId, rfl, current⟩
      | failed failure => exact streams.of_same rfl rfl

/-- After a frame the slot is closed if it streams what has lost the focus. -/
theorem streamsFocus_of_frame (streams : engine.StreamsFocus) {applied : Engine}
    (slots : applied.slots = engine.slots) :
    (if applied.streamsAnother then applied.closeSlot .session else applied).StreamsFocus := by
  split
  · exact streamsFocus_of_silent rfl
  · rename_i kept
    intro channel held
    have before : engine.sessionSlot.target? = some channel := by
      rw [← held, sessionSlot, sessionSlot, slots]
    obtain ⟨sessionId, rfl, -⟩ := streams channel before
    refine ⟨sessionId, rfl, ?_⟩
    simpa [Engine.streamsAnother, held] using kept

theorem slots_deleteSession (engine : Engine) (sessionId : String) :
    (engine.deleteSession sessionId).1.slots = engine.slots := by
  unfold deleteSession
  dsimp only
  split <;> rfl

theorem slots_applyFrame (engine : Engine) (channel : Channel) (frame : ServerFrame) :
    (engine.applyFrame channel frame).1.slots = engine.slots := by
  by_cases deletes : ∃ sessionId, frame = .sessionDeleted sessionId
  · obtain ⟨sessionId, rfl⟩ := deletes
    exact slots_deleteSession engine sessionId
  · have kept : ∀ sessionId, frame ≠ .sessionDeleted sessionId :=
      fun sessionId same => deletes ⟨sessionId, same⟩
    exact (engine.steady_applyFrame channel kept).1.slots

theorem StreamsFocus.onChannelEvent (streams : engine.StreamsFocus) (event : ChannelEvent) :
    (engine.onChannelEvent event).1.StreamsFocus := by
  cases event with
  | status channel generation status => exact streams.of_same rfl rfl
  | opened channel generation kind =>
      cases channel <;> cases kind <;> exact streams.of_same rfl rfl
  | frame channel generation frame =>
      exact streamsFocus_of_frame streams (slots_applyFrame engine channel frame)

theorem StreamsFocus.step (streams : engine.StreamsFocus) (input : Input) :
    (engine.step input).1.StreamsFocus := by
  unfold Engine.step
  split
  · cases input with
    | command caller command => exact streams.onCommand caller command
    | sessionsFetched caller outcome =>
        cases outcome with
        | ok sessions => exact streams.steady (engine.steady_replaceSessions sessions)
        | error failure => exact streams
    | selection epoch step => exact streams.onSelectionStep epoch step
    | syncFetched caller sessionId generation outcome =>
        refine streams.of_same ?_ ?_
        · unfold handle applySync
          dsimp only
          split
          · cases outcome <;> rfl
          · rfl
        · exact congrArg Focus.currentId (engine.focus_applySync sessionId generation outcome)
    | channel event =>
        unfold handle
        dsimp only
        split
        · exact streams.onChannelEvent event
        · exact streams
  · exact streams

end Streams

/-- **The session slot streams the session in focus, or nothing.** -/
theorem Course.streamsFocus {config : Config} {engine : Engine} {past : List (Engine × Input)}
    (course : Course (.new config) past engine) : engine.StreamsFocus := by
  induction course with
  | nothing => exact streamsFocus_of_silent rfl
  | step before input ih => exact ih.step input
  | slot before kind moves ih =>
      refine ih.of_same ?_ rfl
      cases kind with
      | session => exact moves.target?
      | _ => rfl

/-! ## The phase names the session in focus -/

/-- A turn, unless it is a shutdown. -/
def placing? : SelectionTurn → Option SelectionTurn
  | .stops => none
  | turn => some turn

/-- The last turn of steps, a shutdown aside. -/
def lastTurn? (past : List (Engine × Input)) : Option SelectionTurn :=
  latest? placing? (turns past)

/-- Phase and focus as a last turn leaves them. -/
def AgreesAfter (last : Option SelectionTurn) (focus : Focus) : Prop :=
  match last with
  | some (.deletes sessionId false) =>
      focus.selection.phase = .idle ∧ focus.currentId = some sessionId
  | _ => focus.selection.phase.sessionId? = focus.currentId

theorem Course.agreesAfter {config : Config} {engine : Engine} {past : List (Engine × Input)}
    (course : Course (.new config) past engine) : AgreesAfter (lastTurn? past) engine.focus := by
  refine course.turnsRec
    (motive := fun earlier focus => AgreesAfter (latest? placing? earlier) focus) rfl ?_
  intro earlier focus turn agrees apt
  rw [latest?_concat]
  cases turn with
  | stops => exact agrees
  | deletes sessionId recorded =>
      -- Only the current session's deletion is a turn, so what stays in focus is what was deleted.
      cases recorded with
      | true => rfl
      | false => exact ⟨rfl, apt.2⟩
  | loads sessionId => exact apt.2.symm
  | fails sessionId failure => exact apt.2.symm
  | _ => rfl

theorem AgreesAfter.names {last : Option SelectionTurn} {focus : Focus}
    (agrees : AgreesAfter last focus) {sessionId : String}
    (named : focus.selection.phase.sessionId? = some sessionId) :
    focus.currentId = some sessionId := by
  unfold AgreesAfter at agrees
  split at agrees
  · rw [agrees.1] at named
    cases named
  · rw [← agrees, named]

theorem AgreesAfter.idle_iff {last : Option SelectionTurn} {focus : Focus}
    (agrees : AgreesAfter last focus) :
    (focus.selection.phase = .idle ↔ focus.currentId = none) ↔
      ∀ sessionId, last ≠ some (.deletes sessionId false) := by
  unfold AgreesAfter at agrees
  split at agrees
  · rename_i deleted
    obtain ⟨idle, current⟩ := agrees
    simp [idle, current]
  · rename_i other
    rw [← agrees]
    refine iff_of_true ?_ other
    cases focus.selection.phase <;> simp [SelectionPhase.sessionId?]

/-! ## Deletions -/

section Deletions

variable {engine : Engine} {channel : Channel} {generation : Nat} {sessionId : String}

theorem focus_deletion (running : engine.running = true)
    (accepted : engine.accepts (.frame channel generation (.sessionDeleted sessionId)) = true)
    (current : engine.sessions.currentId = some sessionId) :
    (engine.step (.channel (.frame channel generation (.sessionDeleted sessionId)))).1.focus =
      SelectionTurn.focus engine.focus
        (.deletes sessionId (engine.sessions.session? sessionId).isSome) := by
  have turned : engine.turn? (.channel (.frame channel generation (.sessionDeleted sessionId))) =
      some (.deletes sessionId (engine.sessions.session? sessionId).isSome) := by
    simp [turn?, handledTurn?, running, accepted, current]
  have follows := engine.follows_step
    (.channel (.frame channel generation (.sessionDeleted sessionId)))
  rw [turned] at follows
  exact follows.focus

/-- The deletion of the session in focus takes the current id only with a record. -/
theorem currentId_deletion (running : engine.running = true)
    (accepted : engine.accepts (.frame channel generation (.sessionDeleted sessionId)) = true)
    (current : engine.sessions.currentId = some sessionId) :
    (engine.step (.channel
        (.frame channel generation (.sessionDeleted sessionId)))).1.sessions.currentId =
      if (engine.sessions.session? sessionId).isSome then none else some sessionId := by
  have same := congrArg Focus.currentId (focus_deletion running accepted current)
  refine same.trans ?_
  cases (engine.sessions.session? sessionId).isSome with
  | true => rfl
  | false => exact current

/-- The stream of a session that is deleted ends when its record goes, and goes on when
there was none. -/
theorem StreamsFocus.target?_deletion (streams : engine.StreamsFocus)
    (running : engine.running = true)
    (accepted : engine.accepts (.frame channel generation (.sessionDeleted sessionId)) = true)
    (current : engine.sessions.currentId = some sessionId) :
    (engine.step (.channel
        (.frame channel generation (.sessionDeleted sessionId)))).1.sessionSlot.target? =
      if (engine.sessions.session? sessionId).isSome then none
      else engine.sessionSlot.target? := by
  have focused := currentId_deletion running accepted current
  cases recorded : (engine.sessions.session? sessionId).isSome with
  | true =>
      -- Nothing is in focus after the step, and the slot streams only what is in focus.
      rw [recorded] at focused
      exact (streams.step _).silent focused
  | false =>
      have deleted : (engine.step (.channel
          (.frame channel generation (.sessionDeleted sessionId)))).1 =
            if (engine.deleteSession sessionId).1.streamsAnother then
              (engine.deleteSession sessionId).1.closeSlot .session
            else (engine.deleteSession sessionId).1 := by
        unfold Engine.step handle
        rw [if_pos running]
        dsimp only
        rw [if_pos accepted]
        rfl
      have kept : (engine.deleteSession sessionId).1.sessions.currentId =
          engine.sessions.currentId := by
        have follows := engine.follows_deleteSession current
        rw [recorded] at follows
        exact congrArg Focus.currentId follows.focus
      have target : (engine.deleteSession sessionId).1.sessionSlot.target? =
          engine.sessionSlot.target? := by
        rw [sessionSlot, slots_deleteSession]
        rfl
      rw [deleted, (streams.of_same target kept).streamsAnother]
      exact target

end Deletions

/-! ## Agreement -/

/-- **The phase agrees with the session in focus unless what was deleted had no record.**
Along every course of an engine the phase of a selection names the session in focus.  It is
idle exactly while there is none, unless the last turn, a shutdown aside, was a deletion
without a record: then it is idle while the session stays in focus.  And a deletion of the
session in focus always puts the phase to rest, but only one with a record also takes the
current id away and ends the stream. -/
theorem phase_agrees_unless_unrecorded {config : Config} {engine : Engine}
    {past : List (Engine × Input)} (course : Course (.new config) past engine) :
    (∀ sessionId, engine.selection.phase.sessionId? = some sessionId →
      engine.sessions.currentId = some sessionId) ∧
    ((engine.selection.phase = .idle ↔ engine.sessions.currentId = none) ↔
      ∀ sessionId, lastTurn? past ≠ some (.deletes sessionId false)) ∧
    ∀ channel generation sessionId, engine.running = true →
      engine.accepts (.frame channel generation (.sessionDeleted sessionId)) = true →
      engine.sessions.currentId = some sessionId →
      (engine.step (.channel
          (.frame channel generation (.sessionDeleted sessionId)))).1.selection.phase = .idle ∧
      (engine.step (.channel
          (.frame channel generation (.sessionDeleted sessionId)))).1.sessions.currentId =
        (if (engine.sessions.session? sessionId).isSome then none else some sessionId) ∧
      (engine.step (.channel
          (.frame channel generation (.sessionDeleted sessionId)))).1.sessionSlot.target? =
        if (engine.sessions.session? sessionId).isSome then none
        else engine.sessionSlot.target? := by
  have agrees := course.agreesAfter
  refine ⟨fun sessionId named => agrees.names named, agrees.idle_iff, ?_⟩
  intro channel generation sessionId running accepted current
  have focus := focus_deletion running accepted current
  have idle := congrArg (fun focus => focus.selection.phase) focus
  exact ⟨idle, currentId_deletion running accepted current,
    course.streamsFocus.target?_deletion running accepted current⟩

/-- A session is selected and followed, and a new list of all sessions leaves it out. -/
def unlisted : List Input :=
  [.command 0 .connectUi, .command 1 (.selectSession "s"),
    .selection 1 (.session ⟨"s", "", .active, .default, 0, none, none, none⟩),
    .selection 1 (.history ⟨[], 0, false⟩), .channel (.frame .ui 2 (.sessionsList []))]

/-- A session that is no longer listed is deleted: it stays in focus, and its stream goes
on. -/
theorem phase_disagrees_of_unlisted :
    Course (.new {}) ((Engine.new {}).recorded unlisted) ((Engine.new {}).run unlisted) ∧
      (((Engine.new {}).run unlisted).step
        (.channel (.frame .ui 2 (.sessionDeleted "s")))).1.selection.phase = .idle ∧
      (((Engine.new {}).run unlisted).step
        (.channel (.frame .ui 2 (.sessionDeleted "s")))).1.sessions.currentId = some "s" ∧
      (((Engine.new {}).run unlisted).step
        (.channel (.frame .ui 2 (.sessionDeleted "s")))).1.sessionSlot.target? =
          some (.session "s") := by
  have course := course_run (.new {}) unlisted
  obtain ⟨-, -, deletion⟩ := phase_agrees_unless_unrecorded course
  obtain ⟨idle, current, target⟩ := deletion .ui 2 "s" (by decide) (by decide) (by decide)
  exact ⟨course, idle, current, target⟩

end Engine

end SessionSync
