import SessionSync.Proofs.Channel.InStep
import SessionSync.Proofs.Engine.GapFilling
import SessionSync.Proofs.Engine.SessionInFocus

/-!
# Turns of the connections

The connections of an engine are its slots, what is shown of them, the legion that is
followed, and the flag that a gap is being filled.  Frames leave all of this alone; what
changes it are a few commands, the last step of a selection, the page for a gap, and news
of the slots themselves (`LinkTurn`).

Only a few inputs make a turn (`makes_of_link?`).  Every step of the engine relinks it as its
turn says (`relinks_step`): the turn gives the connections afterwards, the events that the
slots report and the gap that is begun to be filled.
-/

set_option autoImplicit false

namespace SessionSync

/-! ## Turns -/

/-- A gap that is being filled: who has asked for it, and for which connection. -/
structure GapFill where
  asker : Option Caller
  sessionId : String
  generation : Nat
  deriving DecidableEq

/-- What an engine knows of its connections. -/
structure Links where
  config : Config
  slots : PerSlot Slot
  legionId : Option String
  connections : PerSlot ConnectionStatus
  syncing : Bool

/-- What an input does to the connections. -/
inductive LinkTurn where
  /-- A session is selected, and the stream of the one before ends. -/
  | selects
  | connects (channel : Channel)
  /-- The communications of a legion are followed from now on. -/
  | tracks (legionId : String)
  | untracks
  /-- The stream of the session in focus ends. -/
  | leaves
  | stops
  | shows (kind : SlotKind) (status : ConnectionStatus)
  | fills (fill : GapFill)
  /-- The page for the gap of the current connection has come, or could not be fetched. -/
  | filled
  deriving DecidableEq

namespace LinkTurn

/-- What a turn does to a slot. -/
def slotTurn? (kind : SlotKind) : LinkTurn → Option SlotTurn
  | .selects | .leaves => if kind = .session then some .close else none
  | .untracks => if kind = .legion then some .close else none
  | .stops => some .close
  | .connects channel => if kind = channel.slot then some (.connect channel) else none
  | .tracks legionId => if kind = .legion then some (.connect (.legion legionId)) else none
  | .shows .. | .fills _ | .filled => none

/-- A slot after a turn, and what it reports. -/
def slot (kind : SlotKind) (before : Slot) (turn : LinkTurn) : Slot × List ChannelEvent :=
  (turn.slotTurn? kind).elim (before, []) before.turned

/-- The legion that is followed after a turn. -/
def legionId (before : Option String) : LinkTurn → Option String
  | .tracks legionId => some legionId
  | .untracks => none
  | _ => before

/-- What is shown of the slots after a turn. -/
def connections (before : PerSlot ConnectionStatus) : LinkTurn → PerSlot ConnectionStatus
  | .shows kind status => before.set status kind
  | _ => before

/-- Whether a gap is shown as being filled after a turn. -/
def syncing (before : Bool) : LinkTurn → Bool
  | .fills _ => true
  | .selects | .filled => false
  | _ => before

/-- What a turn makes of the connections. -/
def links (before : Links) (turn : LinkTurn) : Links where
  config := before.config
  slots := ⟨(turn.slot .ui before.slots.ui).1, (turn.slot .session before.slots.session).1,
    (turn.slot .legion before.slots.legion).1⟩
  legionId := turn.legionId before.legionId
  connections := turn.connections before.connections
  syncing := turn.syncing before.syncing

/-- What the slots report in a turn. -/
def reports (before : Links) (turn : LinkTurn) : List ChannelEvent :=
  SlotKind.all.flatMap fun kind => (turn.slot kind (before.slots.get kind)).2

/-- The gap that a turn begins to fill. -/
def fill? : LinkTurn → Option GapFill
  | .fills fill => some fill
  | _ => none

theorem get_links (before : Links) (turn : LinkTurn) (kind : SlotKind) :
    (turn.links before).slots.get kind = (turn.slot kind (before.slots.get kind)).1 := by
  cases kind <;> rfl

end LinkTurn

/-! ## Slots that go on -/

namespace Slot

variable {slot next : Slot}

/-- What slots do by themselves are their own turns. -/
theorem Moves.exists_turn (moves : slot.Moves next) :
    ∃ turn, turn.isOwn = true ∧ (slot.turned turn).1 = next := by
  cases moves with
  | dialed accepted now => exact ⟨.dialed accepted now, rfl, rfl⟩
  | dropped => exact ⟨.dropped, rfl, rfl⟩
  | retry => exact ⟨.retry, rfl, rfl⟩
  | @receive text now received next brought =>
      refine ⟨.receive text now, rfl, ?_⟩
      simp [turned, brought]

theorem moves_turned (slot : Slot) {turn : SlotTurn} (own : turn.isOwn = true) :
    slot.Moves (slot.turned turn).1 := by
  cases turn with
  | dialed accepted now => exact .dialed accepted now
  | dropped => exact .dropped
  | retry => exact .retry
  | receive text now =>
      rcases brought : slot.receive text now with _ | ⟨next, received⟩
      · -- Without an open socket there is nothing that could end.
        have silent : slot.dropped.1 = slot := by
          unfold receive at brought
          unfold dropped
          split at brought
          · split at brought
            · cases brought
            · cases brought
            · split at brought <;> cases brought
          · rfl
        have ended : slot.Moves slot.dropped.1 := .dropped
        rw [silent] at ended
        simpa [turned, brought] using ended
      · simpa [turned, brought] using Moves.receive brought
  | _ => cases own

/-- A slot that has gone on: its generation did not fall, and as long as it is the same the
slot holds the same channel, and what was opened stays so. -/
structure Continues (slot next : Slot) : Prop where
  le : slot.generation ≤ next.generation
  target : next.generation = slot.generation → next.target? = slot.target?
  opened : next.generation = slot.generation → slot.machine.openedOnce = true →
    next.machine.openedOnce = true

theorem Continues.refl (slot : Slot) : slot.Continues slot :=
  ⟨Nat.le_refl _, fun _ => rfl, fun _ => id⟩

theorem InStep.continues (inStep : slot.InStep) {turn : SlotTurn} (own : turn.isOwn = true) :
    slot.Continues (slot.turned turn).1 :=
  ⟨slot.generation_le_turned turn, fun _ => (slot.moves_turned own).target?,
    fun _ => (inStep.turned own).opened⟩

theorem continues_of_lt (raised : slot.generation < next.generation) : slot.Continues next :=
  ⟨Nat.le_of_lt raised, fun same => absurd same (Nat.ne_of_gt raised),
    fun same => absurd same (Nat.ne_of_gt raised)⟩

/-! ### Slots in their places -/

/-- A slot in its place: in step, and with a channel of its own kind. -/
structure Fits (slot : Slot) (kind : SlotKind) : Prop where
  inStep : slot.InStep
  placed : ∀ channel, slot.target? = some channel → channel.slot = kind

theorem fits_new (kind : SlotKind) (policy : RetryPolicy) : (Slot.new kind policy).Fits kind :=
  ⟨inStep_new kind policy, fun _ none => nomatch none⟩

theorem fits_close (slot : Slot) (kind : SlotKind) : slot.close.Fits kind :=
  ⟨slot.inStep_close, fun _ none => nomatch none⟩

theorem fits_connect (slot : Slot) (channel : Channel) :
    (slot.connect channel).1.Fits channel.slot := by
  refine ⟨slot.inStep_connect channel, fun held same => ?_⟩
  cases same
  rfl

theorem Fits.turned {kind : SlotKind} (fits : slot.Fits kind) {turn : SlotTurn}
    (own : turn.isOwn = true) : (slot.turned turn).1.Fits kind := by
  refine ⟨(fits.inStep.turned own).inStep, fun channel held => ?_⟩
  rw [(slot.moves_turned own).target?] at held
  exact fits.placed channel held

/-! ### What is heard of a slot -/

/-- An event that a slot has reported, now or before: it is of no later generation, it does
not say that the slot is disconnected, and while it counts for a slot that was not opened
yet it is a status. -/
structure Heard (slot : Slot) (event : ChannelEvent) : Prop where
  le : event.generation ≤ slot.generation
  shows : ∀ channel generation, event ≠ .status channel generation .disconnected
  opened : slot.accepts event = true → slot.machine.openedOnce = true ∨ event.isStatus = true

theorem accepts_iff {event : ChannelEvent} :
    slot.accepts event = true ↔
      slot.target? = some event.channel ∧ slot.generation = event.generation := by
  simp [accepts]

theorem Heard.continues {event : ChannelEvent} (heard : slot.Heard event)
    (goesOn : slot.Continues next) : next.Heard event := by
  refine ⟨Nat.le_trans heard.le goesOn.le, heard.shows, fun accepted => ?_⟩
  obtain ⟨target, generation⟩ := accepts_iff.1 accepted
  -- An event counts for a later slot only if the generation is still the one it had.
  have same : next.generation = slot.generation :=
    Nat.le_antisymm (generation ▸ heard.le) goesOn.le
  have before : slot.accepts event = true :=
    accepts_iff.2 ⟨(goesOn.target same).symm.trans target, same.symm.trans generation⟩
  exact (heard.opened before).imp_left (goesOn.opened same)

theorem Fits.heard {kind : SlotKind} (fits : slot.Fits kind) {turn : SlotTurn}
    (own : turn.isOwn = true) {event : ChannelEvent} (reported : event ∈ (slot.turned turn).2) :
    event.channel.slot = kind ∧ (slot.turned turn).1.Heard event := by
  obtain ⟨target, shows⟩ := slot.tells_turned turn event reported
  have turns := fits.inStep.turned own
  refine ⟨(fits.turned own).placed _ target, ?_, shows, fun _ => ?_⟩
  · exact (fits.inStep.dated.turned turn).2 event reported
  · cases opened : (slot.turned turn).1.machine.openedOnce with
    | true => exact Or.inl rfl
    | false => exact Or.inr (turns.statuses opened event reported)

end Slot

namespace LinkTurn

/-- A turn that touches a slot closes it, or connects a channel in its place. -/
theorem slotTurn?_cases (turn : LinkTurn) (kind : SlotKind) :
    turn.slotTurn? kind = none ∨ turn.slotTurn? kind = some .close ∨
      ∃ channel, kind = channel.slot ∧ turn.slotTurn? kind = some (.connect channel) := by
  fun_cases slotTurn? kind turn <;> simp_all [Channel.slot]

theorem continues_slot (turn : LinkTurn) (kind : SlotKind) (slot : Slot) :
    slot.Continues (turn.slot kind slot).1 := by
  unfold LinkTurn.slot
  rcases turn.slotTurn?_cases kind with untouched | closes | ⟨channel, -, connects⟩
  · rw [untouched]
    exact .refl slot
  · have ends : slot.supersedes .close = true := rfl
    rw [closes]
    exact Slot.continues_of_lt (slot.generation_lt_of_supersedes ends)
  · have ends : slot.supersedes (.connect channel) = true := rfl
    rw [connects]
    exact Slot.continues_of_lt (slot.generation_lt_of_supersedes ends)

theorem fits_slot {kind : SlotKind} {slot : Slot} (fits : slot.Fits kind) (turn : LinkTurn) :
    (turn.slot kind slot).1.Fits kind := by
  unfold LinkTurn.slot
  rcases turn.slotTurn?_cases kind with untouched | closes | ⟨channel, rfl, connects⟩
  · rw [untouched]
    exact fits
  · rw [closes]
    exact slot.fits_close kind
  · rw [connects]
    exact slot.fits_connect channel

theorem heard_slot {kind : SlotKind} {slot : Slot} {turn : LinkTurn} {event : ChannelEvent}
    (reported : event ∈ (turn.slot kind slot).2) :
    event.channel.slot = kind ∧ event.isStatus = true ∧ (turn.slot kind slot).1.Heard event := by
  unfold LinkTurn.slot at reported ⊢
  rcases turn.slotTurn?_cases kind with untouched | closes | ⟨channel, rfl, connects⟩
  · rw [untouched] at reported
    cases reported
  · rw [closes] at reported
    cases reported
  · rw [connects] at reported ⊢
    cases List.mem_singleton.1 reported
    exact ⟨rfl, rfl, Nat.le_refl _, by simp, fun _ => Or.inr rfl⟩

end LinkTurn

/-! ## Effects -/

theorem filterMap_cons_eq {α γ : Type} (brings : α → Option γ) (first : α) (rest : List α) :
    (first :: rest).filterMap brings = (brings first).toList ++ rest.filterMap brings := by
  rw [List.filterMap_cons]
  cases brings first <;> rfl

/-- The gap that a job fills. -/
def Job.fill? : Job → Option GapFill
  | .sync asker sessionId generation _ _ => some ⟨asker, sessionId, generation⟩
  | _ => none

namespace Effect

/-- A gap that is begun to be filled. -/
@[simp] def fill? : Effect → Option GapFill
  | .begin job => job.fill?
  | _ => none

/-- What a slot has reported. -/
@[simp] def report? : Effect → Option ChannelEvent
  | .report event => some event
  | _ => none

/-- An effect that lets somebody know something, and nothing else. -/
@[simp] def isWord : Effect → Bool
  | .publish _ | .answer .. => true
  | .begin _ | .send .. | .report _ => false

end Effect

/-- The gaps that are begun to be filled among effects. -/
def fillsIn (effects : List Effect) : List GapFill := effects.filterMap Effect.fill?

/-- What slots have reported among effects. -/
def reportsIn (effects : List Effect) : List ChannelEvent := effects.filterMap Effect.report?

section Effects

variable (effects more : List Effect)

@[simp] theorem fillsIn_nil : fillsIn [] = [] := rfl

@[simp] theorem reportsIn_nil : reportsIn [] = [] := rfl

@[simp] theorem fillsIn_cons (effect : Effect) :
    fillsIn (effect :: effects) = effect.fill?.toList ++ fillsIn effects :=
  filterMap_cons_eq _ effect effects

@[simp] theorem reportsIn_cons (effect : Effect) :
    reportsIn (effect :: effects) = effect.report?.toList ++ reportsIn effects :=
  filterMap_cons_eq _ effect effects

@[simp] theorem fillsIn_append : fillsIn (effects ++ more) = fillsIn effects ++ fillsIn more :=
  List.filterMap_append

@[simp] theorem reportsIn_append :
    reportsIn (effects ++ more) = reportsIn effects ++ reportsIn more :=
  List.filterMap_append

@[simp] theorem fillsIn_publish (events : List StoreEvent) : fillsIn (events.map .publish) = [] := by
  simp [fillsIn]

@[simp] theorem reportsIn_publish (events : List StoreEvent) :
    reportsIn (events.map .publish) = [] := by
  simp [reportsIn]

@[simp] theorem fillsIn_answer (callers : List Caller) (answer : Answer) :
    fillsIn (callers.map fun caller => .answer caller answer) = [] := by
  simp [fillsIn]

@[simp] theorem reportsIn_answer (callers : List Caller) (answer : Answer) :
    reportsIn (callers.map fun caller => .answer caller answer) = [] := by
  simp [reportsIn]

@[simp] theorem fillsIn_report (events : List ChannelEvent) : fillsIn (events.map .report) = [] := by
  simp [fillsIn]

@[simp] theorem reportsIn_report (events : List ChannelEvent) :
    reportsIn (events.map .report) = events := by
  simp [reportsIn, List.filterMap_map, Function.comp_def]

theorem quiet_of_words {effects : List Effect}
    (words : ∀ effect ∈ effects, effect.isWord = true) :
    fillsIn effects = [] ∧ reportsIn effects = [] := by
  unfold fillsIn reportsIn
  rw [List.filterMap_eq_nil_iff, List.filterMap_eq_nil_iff, ← forall₂_and]
  intro effect member
  have word := words effect member
  cases effect with
  | publish event => exact ⟨rfl, rfl⟩
  | answer caller answer => exact ⟨rfl, rfl⟩
  | _ => cases word

end Effects

namespace Engine

variable (engine : Engine)

/-- What an engine knows of its connections. -/
def links : Links :=
  ⟨engine.config, engine.slots, engine.legionId, engine.connections, engine.syncing⟩

/-- What an accepted event does to the connections. -/
def newsLink? : ChannelEvent → Option LinkTurn
  | .status channel _ status => some (.shows channel.slot status)
  | .opened (.session sessionId) generation .reconnect =>
      some (.fills ⟨none, sessionId, generation⟩)
  | .opened .. => none
  | .frame channel _ frame =>
      if (engine.applyFrame channel frame).1.streamsAnother then some .leaves else none

/-- What a command does to the connections. -/
def commandLink? (caller : Caller) : Command → Option LinkTurn
  | .selectSession _ => some .selects
  | .clearSelection => some .leaves
  | .connectUi => some (.connects .ui)
  | .connectLegion legionId => some (.tracks legionId)
  | .disconnectLegion => some .untracks
  | .syncMessages sessionId =>
      if engine.sessionSlot.target? = some (.session sessionId) then
        some (.fills ⟨some caller, sessionId, engine.sessionSlot.generation⟩)
      else none
  | .shutdown => some .stops
  | _ => none

/-- The turn of an input that is handled. -/
def handledLink? : Input → Option LinkTurn
  | .command caller command => engine.commandLink? caller command
  | .sessionsFetched .. => none
  | .selection epoch (.history _) =>
      if epoch = engine.selection.epoch then
        engine.sessions.currentId.map fun sessionId => .connects (.session sessionId)
      else none
  | .selection .. => none
  | .syncFetched _ sessionId generation _ =>
      if engine.syncIsCurrent sessionId generation then some .filled else none
  | .channel event => if engine.accepts event then engine.newsLink? event else none

/-- The turn of an input.  An engine that has stopped handles nothing. -/
def link? (input : Input) : Option LinkTurn :=
  if engine.running then engine.handledLink? input else none

/-- The turns that inputs make. -/
inductive Makes : Input → LinkTurn → Prop
  | selectSession (caller : Caller) (sessionId : String) :
      Makes (.command caller (.selectSession sessionId)) .selects
  | clearSelection (caller : Caller) : Makes (.command caller .clearSelection) .leaves
  | connectUi (caller : Caller) : Makes (.command caller .connectUi) (.connects .ui)
  | connectLegion (caller : Caller) (legionId : String) :
      Makes (.command caller (.connectLegion legionId)) (.tracks legionId)
  | disconnectLegion (caller : Caller) : Makes (.command caller .disconnectLegion) .untracks
  | syncMessages (caller : Caller) {sessionId : String}
      (held : engine.sessionSlot.target? = some (.session sessionId)) :
      Makes (.command caller (.syncMessages sessionId))
        (.fills ⟨some caller, sessionId, engine.sessionSlot.generation⟩)
  | shutdown (caller : Caller) : Makes (.command caller .shutdown) .stops
  | history (page : Backend.Page) {sessionId : String}
      (current : engine.sessions.currentId = some sessionId) :
      Makes (.selection engine.selection.epoch (.history page)) (.connects (.session sessionId))
  | page (asker : Option Caller) {sessionId : String} {generation : Nat}
      (outcome : Except Failure Backend.Page)
      (current : engine.syncIsCurrent sessionId generation = true) :
      Makes (.syncFetched asker sessionId generation outcome) .filled
  | status {channel : Channel} {generation : Nat} {status : ConnectionStatus}
      (accepted : engine.accepts (.status channel generation status) = true) :
      Makes (.channel (.status channel generation status)) (.shows channel.slot status)
  | reopened {sessionId : String} {generation : Nat}
      (accepted : engine.accepts (.opened (.session sessionId) generation .reconnect) = true) :
      Makes (.channel (.opened (.session sessionId) generation .reconnect))
        (.fills ⟨none, sessionId, generation⟩)
  | frame {channel : Channel} {generation : Nat} {frame : ServerFrame}
      (accepted : engine.accepts (.frame channel generation frame) = true) :
      Makes (.channel (.frame channel generation frame)) .leaves

/-- An outcome is that of a turn, or of none. -/
structure Relinks (turn : Option LinkTurn) (outcome : Engine × List Effect) : Prop where
  links : outcome.1.links = turn.elim engine.links (LinkTurn.links engine.links)
  reports : reportsIn outcome.2 = turn.elim [] (LinkTurn.reports engine.links)
  fills : fillsIn outcome.2 = (turn.bind LinkTurn.fill?).toList

variable {engine}

/-! ## Where turns come from -/

section Makes

variable {turn : LinkTurn}

theorem makes_of_commandLink? {caller : Caller} {command : Command}
    (turned : engine.commandLink? caller command = some turn) :
    engine.Makes (.command caller command) turn := by
  cases command with
  | selectSession sessionId =>
      cases turned
      exact .selectSession caller sessionId
  | clearSelection =>
      cases turned
      exact .clearSelection caller
  | connectUi =>
      cases turned
      exact .connectUi caller
  | connectLegion legionId =>
      cases turned
      exact .connectLegion caller legionId
  | disconnectLegion =>
      cases turned
      exact .disconnectLegion caller
  | syncMessages sessionId =>
      unfold commandLink? at turned
      dsimp only at turned
      split at turned
      · rename_i held
        cases turned
        exact .syncMessages caller held
      · cases turned
  | shutdown =>
      cases turned
      exact .shutdown caller
  | _ => cases turned

theorem makes_of_newsLink? {event : ChannelEvent} (accepted : engine.accepts event = true)
    (turned : engine.newsLink? event = some turn) : engine.Makes (.channel event) turn := by
  unfold newsLink? at turned
  split at turned
  · cases turned
    exact .status accepted
  · cases turned
    exact .reopened accepted
  · cases turned
  · split at turned
    · cases turned
      exact .frame accepted
    · cases turned

/-- **A turn is made by its input**, while the engine runs. -/
theorem makes_of_link? {input : Input} (turned : engine.link? input = some turn) :
    engine.running = true ∧ engine.Makes input turn := by
  unfold link? at turned
  split at turned
  · rename_i running
    refine ⟨running, ?_⟩
    unfold handledLink? at turned
    split at turned
    · exact makes_of_commandLink? turned
    · cases turned
    · split at turned
      · rename_i epoch page latest
        obtain ⟨sessionId, current, rfl⟩ := Option.map_eq_some_iff.1 turned
        rw [latest]
        exact .history page current
      · cases turned
    · cases turned
    · split at turned
      · rename_i current
        cases turned
        exact .page _ _ current
      · cases turned
    · split at turned
      · rename_i accepted
        exact makes_of_newsLink? accepted turned
      · cases turned
  · cases turned

end Makes

/-! ## Frames -/

section Frames

variable (engine)

theorem links_orphanOn (sessionId : String) (transition : Transition) :
    (engine.orphanOn sessionId transition).1.links = engine.links := by
  unfold orphanOn
  split <;> rfl

theorem links_upsertSession (session : Session) :
    (engine.upsertSession session).1.links = engine.links :=
  links_orphanOn { engine with sessions := (engine.sessions.upsert session).1 } _ _

theorem links_replaceSessions (sessions : List Session) :
    (engine.replaceSessions sessions).1.links = engine.links := by
  unfold replaceSessions
  exact List.foldlRecOn
    (motive := fun outcome : Engine × List StoreEvent => outcome.1.links = engine.links)
    sessions _ rfl fun outcome before session _ =>
      (links_orphanOn outcome.1 _ _).trans before

theorem links_changeState (sessionId : String) (change : StateChange) :
    (engine.changeState sessionId change).1.links = engine.links := by
  unfold changeState
  split
  · exact links_orphanOn { engine with sessions := _ } _ _
  · split
    · exact links_orphanOn engine _ _
    · rfl

theorem links_addMessage (sessionId : String) (message : Message) :
    (engine.addMessage sessionId message).1.links = engine.links := by
  unfold addMessage
  dsimp only
  split <;> rfl

theorem links_deleteSession (sessionId : String) :
    (engine.deleteSession sessionId).1.links = engine.links := by
  unfold deleteSession
  dsimp only
  split <;> rfl

theorem links_applyScoped (sessionId : String) (frame : ServerFrame) :
    (engine.applyScoped sessionId frame).1.links = engine.links := by
  cases frame with
  | message explicit message => exact links_addMessage engine sessionId message
  | stateChange explicit change => exact links_changeState engine sessionId change
  | _ => rfl

/-- **A frame leaves the connections alone.** -/
theorem links_applyFrame (channel : Channel) (frame : ServerFrame) :
    (engine.applyFrame channel frame).1.links = engine.links := by
  unfold applyFrame
  split
  · exact links_replaceSessions engine _
  · exact links_upsertSession engine _
  · exact links_upsertSession engine _
  · exact links_deleteSession engine _
  · rfl
  · rfl
  · rfl
  · rfl
  · split
    · exact links_applyScoped engine _ frame
    · rfl

theorem words_deleteSession (sessionId : String) :
    ∀ effect ∈ (engine.deleteSession sessionId).2, effect.isWord = true := by
  unfold deleteSession
  dsimp only
  split <;> simp [supersede, or_imp, forall_and]

/-- What a frame makes an engine do is to let others know. -/
theorem words_applyFrame (channel : Channel) (frame : ServerFrame) :
    ∀ effect ∈ (engine.applyFrame channel frame).2, effect.isWord = true := by
  have words : ∀ outcome : Engine × List StoreEvent,
      ∀ effect ∈ (published outcome).2, effect.isWord = true := by
    simp [published]
  unfold applyFrame
  split
  · exact words _
  · exact words _
  · exact words _
  · exact engine.words_deleteSession _
  · exact words _
  · simp
  · simp
  · simp
  · split
    · exact words _
    · simp

end Frames

/-! ## Turns -/

section Turns

variable (engine)

theorem relinks_none {outcome : Engine × List Effect} (links : outcome.1.links = engine.links)
    (reports : reportsIn outcome.2 = []) (fills : fillsIn outcome.2 = []) :
    engine.Relinks none outcome :=
  ⟨links, reports, fills⟩

theorem Relinks.andDone {engine : Engine} {caller : Caller} {turn : Option LinkTurn}
    {outcome : Engine × List Effect} (relinks : engine.Relinks turn outcome) :
    engine.Relinks turn (onCommand.andDone caller outcome) := by
  refine ⟨relinks.links, ?_, ?_⟩
  · simp [onCommand.andDone, relinks.reports]
  · simp [onCommand.andDone, relinks.fills]

theorem relinks_connect (channel : Channel) :
    engine.Relinks (some (.connects channel)) (engine.connect channel) := by
  refine ⟨?_, (reportsIn_report _).trans ?_, fillsIn_report _⟩
  · cases channel <;> rfl
  · cases channel <;> rfl

theorem relinks_startSync (asker : Option Caller) (sessionId : String) (generation : Nat) :
    engine.Relinks (some (.fills ⟨asker, sessionId, generation⟩))
      (engine.startSync asker sessionId generation) :=
  ⟨rfl, rfl, rfl⟩

theorem relinks_sendFor (caller : Caller) (frame : ClientFrame) (success : Answer)
    (onSent : Engine → String → Engine)
    (keeps : ∀ sessionId, (onSent engine sessionId).links = engine.links) :
    engine.Relinks none (engine.sendFor caller frame success onSent) := by
  unfold sendFor
  split
  · rename_i sent
    rw [effects_of_sendFrame engine sent]
    exact engine.relinks_none (keeps _) rfl rfl
  · exact engine.relinks_none rfl rfl rfl

theorem relinks_beginSelection (caller : Caller) (sessionId : String) :
    engine.Relinks (some .selects) (engine.beginSelection caller sessionId) := by
  have silent : LinkTurn.selects.reports engine.links = [] := rfl
  refine ⟨rfl, ?_, ?_⟩
  · simp [beginSelection, supersede, silent]
  · simp [beginSelection, supersede, LinkTurn.fill?, Job.fill?]

theorem relinks_clearSelection : engine.Relinks (some .leaves) engine.clearSelection :=
  ⟨rfl, reportsIn_answer _ _, fillsIn_answer _ _⟩

theorem relinks_stop : engine.Relinks (some .stops) engine.stop :=
  ⟨rfl, reportsIn_answer _ _, fillsIn_answer _ _⟩

theorem relinks_onCommand (caller : Caller) (command : Command) :
    engine.Relinks (engine.commandLink? caller command) (engine.onCommand caller command) := by
  cases command with
  | selectSession sessionId => exact engine.relinks_beginSelection caller sessionId
  | clearSelection => exact engine.relinks_clearSelection.andDone
  | shutdown => exact engine.relinks_stop.andDone
  | connectUi => exact (engine.relinks_connect .ui).andDone
  | connectLegion legionId =>
      refine Relinks.andDone ⟨rfl, (reportsIn_report _).trans rfl, fillsIn_report _⟩
  | disconnectLegion => exact Relinks.andDone ⟨rfl, rfl, rfl⟩
  | sendMessage content messageId =>
      apply engine.relinks_sendFor caller
      exact fun _ => rfl
  | respondPermission answer =>
      apply engine.relinks_sendFor caller
      exact fun _ => rfl
  | interruptSession =>
      apply engine.relinks_sendFor caller
      exact fun _ => rfl
  | syncMessages sessionId =>
      unfold onCommand commandLink?
      dsimp only
      split
      · exact engine.relinks_startSync _ _ _
      · exact engine.relinks_none rfl rfl rfl
  | toggleToolExpanded sessionId toolId =>
      unfold onCommand
      dsimp only
      split <;> exact engine.relinks_none rfl rfl rfl
  | _ => exact engine.relinks_none rfl rfl rfl

theorem relinks_onSelectionStep (epoch : Nat) (step : SelectionStep) :
    engine.Relinks (engine.handledLink? (.selection epoch step))
      (engine.onSelectionStep epoch step) := by
  unfold onSelectionStep
  by_cases latest : epoch = engine.selection.epoch
  · rw [if_neg fun stale => stale latest]
    cases current : engine.sessions.currentId with
    | none => cases step <;> simpa [handledLink?, current] using engine.relinks_none rfl rfl rfl
    | some sessionId =>
        cases step with
        | session session =>
            exact engine.relinks_none (engine.links_upsertSession session) (by simp [published])
              (by simp [published])
        | history page =>
            have connects := engine.relinks_connect (.session sessionId)
            have turned : engine.handledLink? (.selection epoch (.history page)) =
                some (.connects (.session sessionId)) := by
              simp [handledLink?, latest, current]
            rw [turned]
            refine ⟨connects.links, ?_, ?_⟩
            · have reports := connects.reports
              simpa [loadHistory, answerSelection, connect] using reports
            · simp [loadHistory, answerSelection, connect, LinkTurn.fill?]
        | failed failure =>
            exact engine.relinks_none rfl (by simp [failSelection, answerSelection])
              (by simp [failSelection, answerSelection])
  · rw [if_pos latest]
    cases step <;> simpa [handledLink?, latest] using engine.relinks_none rfl rfl rfl

theorem relinks_applySync (asker : Option Caller) (sessionId : String) (generation : Nat)
    (outcome : Except Failure Backend.Page) :
    engine.Relinks (engine.handledLink? (.syncFetched asker sessionId generation outcome))
      (engine.handle (.syncFetched asker sessionId generation outcome)) := by
  have silent : LinkTurn.filled.reports engine.links = [] := rfl
  unfold handledLink? handle applySync
  dsimp only
  split
  · cases outcome with
    | ok page => exact ⟨rfl, by simp [silent], by simp [LinkTurn.fill?]⟩
    | error failure => exact ⟨rfl, by simp [silent], by simp [LinkTurn.fill?]⟩
  · exact engine.relinks_none rfl (by simp) (by simp)

theorem relinks_onChannelEvent (event : ChannelEvent) :
    engine.Relinks (engine.newsLink? event) (engine.onChannelEvent event) := by
  cases event with
  | status channel generation status => exact ⟨rfl, rfl, rfl⟩
  | opened channel generation kind =>
      cases channel <;> cases kind <;> exact ⟨rfl, rfl, rfl⟩
  | frame channel generation frame =>
      have links := engine.links_applyFrame channel frame
      obtain ⟨fills, reports⟩ := quiet_of_words (engine.words_applyFrame channel frame)
      unfold onChannelEvent newsLink?
      dsimp only
      split
      · refine ⟨?_, reports, fills⟩
        show ((engine.applyFrame channel frame).1.closeSlot .session).links = _
        rw [Option.elim_some, ← links]
        rfl
      · exact engine.relinks_none links reports fills

theorem relinks_handle (input : Input) :
    engine.Relinks (engine.handledLink? input) (engine.handle input) := by
  cases input with
  | command caller command => exact engine.relinks_onCommand caller command
  | sessionsFetched caller outcome =>
      cases outcome with
      | ok sessions =>
          exact engine.relinks_none (engine.links_replaceSessions sessions) (by simp [handle])
            (by simp [handle])
      | error failure => exact engine.relinks_none rfl (by simp [handle]) (by simp [handle])
  | selection epoch step => exact engine.relinks_onSelectionStep epoch step
  | syncFetched asker sessionId generation outcome =>
      exact engine.relinks_applySync asker sessionId generation outcome
  | channel event =>
      unfold handle handledLink?
      dsimp only
      split
      · exact engine.relinks_onChannelEvent event
      · exact engine.relinks_none rfl rfl rfl

/-- **A step relinks the engine as its turn says.** -/
theorem relinks_step (input : Input) :
    engine.Relinks (engine.link? input) (engine.step input) := by
  unfold step link?
  split
  · exact engine.relinks_handle input
  · exact engine.relinks_none rfl (by simp) (by simp)

end Turns

/-! ## Slots over a step -/

section Slots

variable (engine : Engine) (input : Input)

theorem get_slots_step (kind : SlotKind) :
    (engine.step input).1.slots.get kind =
      (engine.link? input).elim (engine.slots.get kind)
        fun turn => (turn.slot kind (engine.slots.get kind)).1 := by
  have slots : (engine.step input).1.slots = _ :=
    congrArg Links.slots (engine.relinks_step input).links
  rw [slots]
  cases engine.link? input with
  | none => rfl
  | some turn => exact turn.get_links engine.links kind

theorem continues_step (kind : SlotKind) :
    (engine.slots.get kind).Continues ((engine.step input).1.slots.get kind) := by
  rw [get_slots_step]
  cases engine.link? input with
  | none => exact .refl _
  | some turn => exact turn.continues_slot kind _

variable {engine}

theorem fits_step {kind : SlotKind} (fits : (engine.slots.get kind).Fits kind) :
    ((engine.step input).1.slots.get kind).Fits kind := by
  rw [get_slots_step]
  cases engine.link? input with
  | none => exact fits
  | some turn => exact turn.fits_slot fits

variable {input}

/-- What slots report in a step is that they dial. -/
theorem heard_of_step {event : ChannelEvent}
    (reported : event ∈ reportsIn (engine.step input).2) :
    event.isStatus = true ∧
      ((engine.step input).1.slots.get event.channel.slot).Heard event := by
  rw [(engine.relinks_step input).reports] at reported
  rw [get_slots_step]
  cases turned : engine.link? input with
  | none =>
      rw [turned] at reported
      cases reported
  | some turn =>
      rw [turned] at reported
      obtain ⟨kind, -, told⟩ := List.mem_flatMap.1 reported
      obtain ⟨placed, status, heard⟩ := LinkTurn.heard_slot told
      rw [placed]
      exact ⟨status, heard⟩

end Slots

/-! ## Over a course -/

/-- The turns of the connections over steps. -/
def linkTurns (past : List (Engine × Input)) : List LinkTurn :=
  past.filterMap fun entry => entry.1.link? entry.2

@[simp] theorem linkTurns_append (past more : List (Engine × Input)) :
    linkTurns (past ++ more) = linkTurns past ++ linkTurns more :=
  List.filterMap_append

@[simp] theorem linkTurns_singleton (entry : Engine × Input) :
    linkTurns [entry] = (entry.1.link? entry.2).toList := by
  unfold linkTurns
  rw [filterMap_cons_eq, List.filterMap_nil, List.append_nil]

/-- **The slots of an engine are in their places**, and in step with their machines. -/
theorem Course.fits {config : Config} {engine : Engine} {past : List (Engine × Input)}
    (course : Course (.new config) past engine) :
    ∀ kind, (engine.slots.get kind).Fits kind := by
  induction course with
  | nothing =>
      intro kind
      cases kind <;> exact Slot.fits_new _ _
  | step before input ih => exact fun kind => fits_step input (ih kind)
  | slot before moved moves ih =>
      intro kind
      rw [PerSlot.get_set]
      split
      · rename_i same
        obtain ⟨turn, own, rfl⟩ := moves.exists_turn
        rw [same]
        exact (ih moved).turned own
      · exact ih kind

/-! ## The end -/

section Stopped

variable {engine : Engine} {input : Input}

theorem step_of_stopped (stopped : engine.running = false) (input : Input) :
    (engine.step input).1 = engine := by
  simp [Engine.step, stopped]

/-- An engine stops only by a turn that ends all its connections. -/
theorem link?_of_stopped (running : engine.running = true)
    (stopped : (engine.step input).1.running = false) : engine.link? input = some .stops := by
  have focus := (engine.follows_step input).focus
  cases turned : engine.turn? input with
  | none =>
      rw [turned] at focus
      have kept := congrArg Focus.running focus
      exact absurd (stopped.symm.trans (kept.trans running)) (by decide)
  | some turn =>
      rw [turned] at focus
      have running_eq : (engine.step input).1.running = turn.running engine.running :=
        congrArg Focus.running focus
      rw [stopped, running] at running_eq
      cases turn with
      | stops =>
          simp only [turn?, running, if_true] at turned
          unfold handledTurn? at turned
          split at turned
          · cases turned
          · cases turned
          · simp [link?, running, handledLink?, commandLink?]
          all_goals simp at turned
      | _ => cases running_eq

theorem stopped_of_link? (stops : engine.link? input = some .stops) :
    (engine.step input).1.running = false := by
  obtain ⟨running, makes⟩ := makes_of_link? stops
  cases makes with
  | shutdown caller => simp [Engine.step, running, handle, onCommand, onCommand.andDone, stop]

/-- An engine that has stopped holds no channel. -/
theorem Course.idle_of_stopped {config : Config} {past : List (Engine × Input)}
    (course : Course (.new config) past engine) (stopped : engine.running = false) :
    ∀ kind, (engine.slots.get kind).target? = none := by
  induction course with
  | nothing => cases stopped
  | @step past current before input ih =>
      cases running : current.running with
      | false =>
          rw [step_of_stopped running]
          exact ih running
      | true =>
          intro kind
          rw [get_slots_step, link?_of_stopped running stopped]
          rfl
  | slot before moved moves ih =>
      intro kind
      rw [PerSlot.get_set]
      split
      · rw [moves.target?]
        exact ih stopped moved
      · exact ih stopped kind

end Stopped

end Engine

end SessionSync
