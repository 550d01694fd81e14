import SessionSync.Proofs.Engine.SessionEnds

/-!
# Changes of state

A frame that changes the state of a session names it up to three times: the frame, the change
in it and the channel may carry its id, and the first of these that is not empty counts
(`addressee?`).  The change may also bring a record, with an id of its own.

A change is right when the session that it names is the one that is addressed, and when it
hits this session and no other one (`Engine.HitsOnly`).  The first fails for an empty id of the
frame.  The second holds exactly when a record that the change brings is that of the session,
or both sessions have the state already (`hitsOnly_iff`).
-/

set_option autoImplicit false

namespace SessionSync

namespace SessionStore

/-- What a change of state writes: nothing for a session without a record, and otherwise the
state of one session, which is that of the record where the change brings one. -/
theorem applyStateChange_cases (store : SessionStore) (sessionId : String)
    (change : StateChange) :
    change.session = none ∧ store.applyStateChange sessionId change = (store, none) ∨
    ∃ written, written = (change.session.map Session.sessionId).getD sessionId ∧
      (store.applyStateChange sessionId change).2 =
        some { previous := store.stateOf written, current := change.state } ∧
      ∀ probe, (store.applyStateChange sessionId change).1.stateOf probe =
        if probe = written then some change.state else store.stateOf probe := by
  unfold applyStateChange
  cases brought : change.session with
  | some record =>
      exact Or.inr ⟨record.sessionId, rfl, rfl, store.stateOf_insert record.sessionId _⟩
  | none =>
      cases held : store.session? sessionId with
      | none => exact Or.inl ⟨rfl, rfl⟩
      | some session =>
          have known : store.stateOf sessionId = some session.state :=
            congrArg (Option.map Session.state) held
          exact Or.inr ⟨sessionId, rfl, by rw [known], store.stateOf_insert sessionId _⟩

end SessionStore

namespace Engine

/-- The session that a change of state names: the first id that is not empty, of the frame,
the change and the channel. -/
def addressee? (channel : Channel) (explicit : Option String) (change : StateChange) :
    Option String :=
  [explicit, change.sessionId, channel.sessionId?].findSome? fun id =>
    id.filter fun sessionId => !sessionId.isEmpty

/-- A change to a state hits one session: the records and the logs of the others are the ones
before, the transition that is returned is that of the session, and where there is none
nothing is recorded. -/
structure HitsOnly (engine next : Engine) (returned : Option Transition) (sessionId : String)
    (state : SessionState) : Prop where
  records : ∀ other ≠ sessionId, next.sessions.stateOf other = engine.sessions.stateOf other
  logs : ∀ other ≠ sessionId, next.messages.log other = engine.messages.log other
  transition : ∀ transition ∈ returned,
    transition = { previous := engine.sessions.stateOf sessionId, current := state } ∧
      next.sessions.stateOf sessionId = some state
  silent : returned = none → next.sessions = engine.sessions

section Changes

variable (engine : Engine) (sessionId : String) (change : StateChange)

theorem sessions_changeState :
    (engine.changeState sessionId change).1.sessions =
      (engine.sessions.applyStateChange sessionId change).1 := by
  rcases engine.sessions.applyStateChange_cases sessionId change with
    ⟨-, silent⟩ | ⟨written, -, returned, -⟩
  · unfold changeState
    rw [silent]
    dsimp only
    split
    · exact engine.sessions_orphanOn _ _
    · rfl
  · unfold changeState
    cases applied : engine.sessions.applyStateChange sessionId change with
    | mk sessions transition =>
        rw [applied] at returned
        cases returned
        exact sessions_orphanOn _ _ _

theorem log_changeState {other : String} (elsewhere : other ≠ sessionId) :
    (engine.changeState sessionId change).1.messages.log other = engine.messages.log other := by
  have spared : ∀ (engine : Engine) (transition : Transition),
      (engine.orphanOn sessionId transition).1.messages.log other = engine.messages.log other :=
    fun engine transition => (spares_orphanOn (Or.inl elsewhere)).log
  unfold changeState
  split
  · exact spared _ _
  · split
    · exact spared engine _
    · rfl

variable {engine sessionId change}

/-- What writes the state of one session hits only the session that is named if it is the
same one, or if both have the state already. -/
theorem hitsOnly_of_written {next : Engine} {written : String} {state : SessionState}
    (logs : ∀ other ≠ sessionId, next.messages.log other = engine.messages.log other)
    (found : ∀ probe, next.sessions.stateOf probe =
      if probe = written then some state else engine.sessions.stateOf probe) :
    engine.HitsOnly next (some { previous := engine.sessions.stateOf written, current := state })
        sessionId state ↔
      written = sessionId ∨ engine.sessions.stateOf written = some state ∧
        engine.sessions.stateOf sessionId = some state := by
  constructor
  · intro hits
    obtain ⟨same, recorded⟩ := hits.transition _ rfl
    by_cases here : written = sessionId
    · exact Or.inl here
    · right
      have before := hits.records written here
      rw [found, if_pos rfl] at before
      rw [found, if_neg fun there => here there.symm] at recorded
      exact ⟨before.symm, recorded⟩
  · rintro (rfl | ⟨there, here⟩)
    · refine ⟨fun other elsewhere => ?_, logs, ?_, nofun⟩
      · rw [found, if_neg elsewhere]
      · rintro _ ⟨⟩
        exact ⟨rfl, by rw [found, if_pos rfl]⟩
    · have kept : ∀ probe, next.sessions.stateOf probe = engine.sessions.stateOf probe := by
        intro probe
        rw [found]
        split
        · rename_i same
          rw [same, there]
        · rfl
      refine ⟨fun other _ => kept other, logs, ?_, nofun⟩
      rintro _ ⟨⟩
      exact ⟨by rw [there, here], by rw [kept, here]⟩

theorem hitsOnly_changeState {next : Engine}
    (sameRecords : next.sessions = (engine.changeState sessionId change).1.sessions)
    (sameLogs : next.messages = (engine.changeState sessionId change).1.messages) :
    engine.HitsOnly next (engine.sessions.applyStateChange sessionId change).2 sessionId
        change.state ↔
      ∀ record, change.session = some record → record.sessionId = sessionId ∨
        engine.sessions.stateOf record.sessionId = some change.state ∧
          engine.sessions.stateOf sessionId = some change.state := by
  have sessions := sameRecords.trans (engine.sessions_changeState sessionId change)
  have logs : ∀ other ≠ sessionId, next.messages.log other = engine.messages.log other := by
    intro other elsewhere
    rw [sameLogs]
    exact engine.log_changeState sessionId change elsewhere
  rcases engine.sessions.applyStateChange_cases sessionId change with
    ⟨plain, silent⟩ | ⟨written, which, returned, found⟩
  · rw [silent] at sessions ⊢
    refine iff_of_true ⟨fun other _ => by rw [sessions], logs, nofun, fun _ => sessions⟩ ?_
    intro record brought
    rw [plain] at brought
    cases brought
  · rw [← sessions] at found
    rw [returned, hitsOnly_of_written logs found]
    cases brought : change.session with
    | none =>
        rw [brought] at which
        refine iff_of_true (Or.inl which) fun record same => ?_
        cases same
    | some record =>
        have own : written = record.sessionId := by rw [which, brought]; rfl
        subst own
        constructor
        · rintro right _ ⟨⟩
          exact right
        · exact fun right => right record rfl

end Changes

/-! ## Which session is changed -/

section Naming

variable {channel : Channel} {explicit : Option String} {change : StateChange}
  {sessionId : String}

/-- The session that is changed is the one that is named, unless the frame carries an empty id
and the channel is not that of the session. -/
theorem frameScope_stateChange_iff (named : addressee? channel explicit change = some sessionId) :
    frameScope channel (.stateChange explicit change) = some sessionId ↔
      (explicit = some "" → channel.sessionId? = some sessionId) := by
  show scope (explicit.or change.sessionId) channel = some sessionId ↔ _
  unfold scope
  unfold addressee? at named
  cases explicit with
  | none =>
      refine iff_of_true ?_ nofun
      show ((change.sessionId.filter fun sessionId => !sessionId.isEmpty).or _) = _
      simp only [List.findSome?_cons, List.findSome?_nil, Option.filter_none] at named
      cases inner : change.sessionId.filter fun sessionId => !sessionId.isEmpty with
      | some id =>
          rw [inner] at named
          exact named
      | none =>
          rw [inner] at named
          cases own : channel.sessionId?.filter fun sessionId => !sessionId.isEmpty with
          | none =>
              rw [own] at named
              cases named
          | some id =>
              rw [own] at named
              cases named
              exact (Option.filter_eq_some_iff.1 own).1
  | some id =>
      by_cases empty : id = ""
      · subst empty
        simp
      · have filled : (some id).filter (fun sessionId => !sessionId.isEmpty) = some id := by
          simp [Option.filter, empty]
        simp only [List.findSome?_cons, filled] at named
        refine iff_of_true ?_ fun same => absurd (Option.some.inj same) empty
        rw [Option.some_or, filled]
        exact named

end Naming

/-! ## Steps -/

section Steps

variable {engine : Engine} {channel : Channel} {generation : Nat} {explicit : Option String}
  {change : StateChange}

/-- **When a change of state hits the session that it names.**  The session that is named is
the one that is addressed, unless the frame carries an empty id.  The change hits the session
that is addressed and no other one if every record that it brings is of that session, or of one
that has the state already, as the session has; and in no other case.  A change that addresses
no session changes nothing. -/
theorem hitsOnly_iff (running : engine.running = true)
    (accepted : engine.accepts (.frame channel generation (.stateChange explicit change)) = true)
    {sessionId : String} (named : addressee? channel explicit change = some sessionId)
    {next : Engine} (stepped : next =
      (engine.step (.channel (.frame channel generation (.stateChange explicit change)))).1) :
    (frameScope channel (.stateChange explicit change) = some sessionId ↔
      (explicit = some "" → channel.sessionId? = some sessionId)) ∧
    (∀ addressed, frameScope channel (.stateChange explicit change) = some addressed →
      (engine.HitsOnly next (engine.sessions.applyStateChange addressed change).2 addressed
          change.state ↔
        ∀ record, change.session = some record → record.sessionId = addressed ∨
          engine.sessions.stateOf record.sessionId = some change.state ∧
            engine.sessions.stateOf addressed = some change.state)) ∧
    (frameScope channel (.stateChange explicit change) = none →
      next.sessions = engine.sessions ∧ next.messages = engine.messages) := by
  obtain ⟨sessions, messages⟩ := step_frame running accepted
  rw [← stepped] at sessions messages
  refine ⟨frameScope_stateChange_iff named, fun addressed reaches => ?_, fun nowhere => ?_⟩
  · have applied : engine.applyFrame channel (.stateChange explicit change) =
        published (engine.changeState addressed change) := by
      unfold applyFrame
      dsimp only
      rw [reaches]
      rfl
    rw [applied] at sessions messages
    exact hitsOnly_changeState sessions messages
  · have applied : engine.applyFrame channel (.stateChange explicit change) = (engine, []) := by
      unfold applyFrame
      dsimp only
      rw [nowhere]
    rw [applied] at sessions messages
    exact ⟨sessions, messages⟩

/-- The record of a session that is active. -/
def activeRecord (sessionId : String) : Session :=
  ⟨sessionId, "", .active, .default, 0, none, none, none⟩

/-- Two sessions are active. -/
def twoActive : Engine :=
  (Engine.new {}).run [.command 0 .connectUi,
    .channel (.frame .ui 2 (.sessionsList [activeRecord "a", activeRecord "b"]))]

/-- A session is over, but the record is that of the other one. -/
def crossedChange : StateChange := ⟨none, .terminated, none, none, some (activeRecord "b")⟩

/-- The end of one session is recorded for the other one. -/
theorem crossedChange_misses :
    let frame : ServerFrame := .stateChange (some "a") crossedChange
    let next := (twoActive.step (.channel (.frame .ui 2 frame))).1
    addressee? .ui (some "a") crossedChange = some "a" ∧
      next.sessions.stateOf "a" = some .active ∧ next.sessions.stateOf "b" = some .terminated ∧
      ¬ twoActive.HitsOnly next (twoActive.sessions.applyStateChange "a" crossedChange).2 "a"
        .terminated := by
  intro frame next
  have named : addressee? .ui (some "a") crossedChange = some "a" := by decide
  have running : twoActive.running = true := by decide +kernel
  have accepted : twoActive.accepts (.frame .ui 2 frame) = true := by decide +kernel
  have other : twoActive.sessions.stateOf "b" ≠ some .terminated := by decide +kernel
  obtain ⟨addressed, hits, -⟩ := hitsOnly_iff running accepted named (show next = _ from rfl)
  refine ⟨named, by decide +kernel, by decide +kernel, fun right => ?_⟩
  rcases (hits "a" (addressed.2 nofun)).1 right (activeRecord "b") rfl with same | ⟨ended, -⟩
  · exact absurd same (by decide)
  · exact other ended

end Steps

end Engine

end SessionSync
