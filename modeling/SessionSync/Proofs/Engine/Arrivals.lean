import SessionSync.Proofs.Engine.GapFilling
import SessionSync.Proofs.MessageStore.Changes

/-!
# Where the messages of a log come from

Messages come to a log by a page of history, by a live message and by a page for a gap;
nothing else that happens adds any (`MessageStore.messages_after`).  So every message that a
log holds after a step of the engine was held before, or the input has brought it for this
session (`messages_step`).
-/

set_option autoImplicit false

namespace SessionSync

/-! ## Changes of the logs -/

/-- The messages that a change brings. -/
def StoreChange.messages : StoreChange → List Message
  | .loadHistory _ page _ | .mergeSync _ page _ => page
  | .addMessage _ message => [message]
  | _ => []

namespace Log

theorem ofPage_subset (page : List Message) : ofPage page ⊆ page := fun _ member =>
  (firstOfEach_sublist {} page).mem ((sortByKey_perm _ _).mem_iff.1 member)

theorem missing_subset (log : Log) (page : List Message) : log.missing page ⊆ page := by
  intro message member
  have kept := (firstOfEach_sublist log.ids _).mem ((sortByKey_perm _ _).mem_iff.1 member)
  exact (List.mem_filter.1 kept).1

theorem messages_loadPage_subset (log : Log) (page : List Message) :
    (log.loadPage page).messages ⊆ page := by
  rw [loadPage_eq]
  exact ofPage_subset page

theorem messages_add_subset (log : Log) (message : Message) :
    (log.add message).1.messages ⊆ log.messages ++ [message] := by
  intro held member
  cases known : log.ids.contains message.messageId with
  | true =>
      rw [add_of_contains known] at member
      exact List.mem_append_left _ member
  | false =>
      rw [add_eq known] at member
      rcases List.mem_cons.1 ((place_perm message log.messages).mem_iff.1 member) with rfl | old
      · exact List.mem_append_right _ (List.mem_singleton_self _)
      · exact List.mem_append_left _ old

theorem messages_merge_subset (log : Log) (page : List Message) :
    (log.merge page).1.messages ⊆ log.messages ++ page := by
  intro held member
  by_cases nothing : log.missing page = []
  · rw [merge_of_nothing nothing] at member
    exact List.mem_append_left _ member
  · rw [merge_eq nothing] at member
    rcases List.mem_append.1 ((join_perm _ _).mem_iff.1 member) with old | fetched
    · exact List.mem_append_left _ old
    · exact List.mem_append_right _ (log.missing_subset page fetched)

/-- Nothing comes to a log but what a change brings. -/
theorem messages_after_subset (log : Log) (change : StoreChange) :
    (log.after change).messages ⊆ log.messages ++ change.messages := by
  have nothing : log.messages ⊆ log.messages ++ change.messages := List.subset_append_left _ _
  cases change with
  | loadHistory sessionId page stateOf =>
      refine List.Subset.trans ?_ (List.subset_append_right _ _)
      unfold after
      dsimp only
      split
      · exact log.messages_loadPage_subset page
      · exact log.messages_loadPage_subset page
  | addMessage sessionId message => exact log.messages_add_subset message
  | mergeSync sessionId page truncated => exact log.messages_merge_subset page
  | clear sessionId => exact List.nil_subset _
  | sessionState sessionId state =>
      unfold after
      dsimp only
      split
      · exact nothing
      · exact nothing
  | _ => exact nothing

end Log

namespace MessageStore

/-- **Nothing comes to the logs but what a change brings**, and that only to the log of its
own session. -/
theorem messages_after (store : MessageStore) (change : StoreChange) (probe : String) :
    ((store.after change).log probe).messages ⊆
      (store.log probe).messages ++ if probe = change.sessionId then change.messages else [] := by
  by_cases here : probe = change.sessionId
  · rw [if_pos here, here, log_after]
    exact (store.log change.sessionId).messages_after_subset change
  · rw [if_neg here, log_after_of_ne store here]
    exact List.subset_append_left _ _

/-- The logs hold nothing that they have not held before. -/
def AddsNothing (before after : MessageStore) : Prop :=
  ∀ sessionId, (after.log sessionId).messages ⊆ (before.log sessionId).messages

namespace AddsNothing

variable {first second third : MessageStore}

theorem refl (store : MessageStore) : store.AddsNothing store := fun _ => List.Subset.refl _

theorem trans (earlier : first.AddsNothing second) (later : second.AddsNothing third) :
    first.AddsNothing third :=
  fun sessionId => List.Subset.trans (later sessionId) (earlier sessionId)

/-- A change that brings nothing. -/
theorem after (store : MessageStore) (change : StoreChange) (nothing : change.messages = []) :
    store.AddsNothing (store.after change) := by
  intro sessionId
  have held := store.messages_after change sessionId
  rw [nothing, ite_self, List.append_nil] at held
  exact held

end AddsNothing

end MessageStore

/-! ## Inputs -/

namespace Engine

open MessageStore (AddsNothing)

/-- The messages that an input brings for a session. -/
def brings (engine : Engine) (sessionId : String) : Input → List Message
  | .selection epoch (.history page) =>
      if epoch = engine.selection.epoch ∧ engine.sessions.currentId = some sessionId then
        page.messages
      else []
  | .syncFetched _ fetched generation (.ok page) =>
      if sessionId = fetched ∧ engine.syncIsCurrent fetched generation then page.messages else []
  | .channel (.frame channel generation (.message explicit message)) =>
      if engine.accepts (.frame channel generation (.message explicit message)) ∧
          scope explicit channel = some sessionId then
        [message]
      else []
  | _ => []

variable (engine : Engine)

/-! ### Frames -/

theorem addsNothing_orphanOn (sessionId : String) (transition : Transition) :
    engine.messages.AddsNothing (engine.orphanOn sessionId transition).1.messages := by
  unfold orphanOn
  split
  · exact .after _ (.sessionState sessionId transition.current) rfl
  · exact .refl _

theorem addsNothing_upsertSession (session : Session) :
    engine.messages.AddsNothing (engine.upsertSession session).1.messages :=
  addsNothing_orphanOn { engine with sessions := (engine.sessions.upsert session).1 } _ _

theorem addsNothing_replaceSessions (sessions : List Session) :
    engine.messages.AddsNothing (engine.replaceSessions sessions).1.messages := by
  unfold replaceSessions
  exact List.foldlRecOn
    (motive := fun outcome : Engine × List StoreEvent =>
      engine.messages.AddsNothing outcome.1.messages)
    sessions _ (.refl _) fun outcome before session _ =>
      before.trans (addsNothing_orphanOn outcome.1 _ _)

theorem addsNothing_changeState (sessionId : String) (change : StateChange) :
    engine.messages.AddsNothing (engine.changeState sessionId change).1.messages := by
  unfold changeState
  split
  · exact addsNothing_orphanOn { engine with sessions := _ } _ _
  · split
    · exact addsNothing_orphanOn engine _ _
    · exact .refl _

theorem addsNothing_deleteSession (sessionId : String) :
    engine.messages.AddsNothing (engine.deleteSession sessionId).1.messages := by
  unfold deleteSession
  dsimp only
  split <;> exact .after _ (.clear sessionId) rfl

theorem messages_addMessage (sessionId : String) (message : Message) :
    (engine.addMessage sessionId message).1.messages =
      engine.messages.after (.addMessage sessionId message) := by
  unfold addMessage
  dsimp only
  split <;> rfl

/-- A frame about a session brings nothing unless it is a message. -/
theorem addsNothing_applyScoped (sessionId : String) {frame : ServerFrame}
    (other : ∀ explicit message, frame ≠ .message explicit message) :
    engine.messages.AddsNothing (engine.applyScoped sessionId frame).1.messages := by
  cases frame with
  | message explicit message => exact absurd rfl (other explicit message)
  | toolCall event => exact .after _ (.tools sessionId (.toolEvent event)) rfl
  | permissionRequest request => exact .after _ (.tools sessionId (.permissionRequest request)) rfl
  | permissionResponse response =>
      exact .after _ (.tools sessionId (.permissionResponse response)) rfl
  | stateChange explicit change => exact addsNothing_changeState engine sessionId change
  | _ => exact .refl _

theorem addsNothing_applyFrame (channel : Channel) {frame : ServerFrame}
    (other : ∀ explicit message, frame ≠ .message explicit message) :
    engine.messages.AddsNothing (engine.applyFrame channel frame).1.messages := by
  unfold applyFrame
  split
  · exact addsNothing_replaceSessions engine _
  · exact addsNothing_upsertSession engine _
  · exact addsNothing_upsertSession engine _
  · exact addsNothing_deleteSession engine _
  · exact .refl _
  · exact .refl _
  · exact .refl _
  · exact .refl _
  · split
    · exact addsNothing_applyScoped engine _ other
    · exact .refl _

theorem messages_applyFrame_message (channel : Channel) (explicit : Option String)
    (message : Message) :
    (engine.applyFrame channel (.message explicit message)).1.messages =
      (scope explicit channel).elim engine.messages
        fun sessionId => engine.messages.after (.addMessage sessionId message) := by
  cases named : scope explicit channel with
  | none => simp [applyFrame, frameScope, named]
  | some sessionId =>
      simp [applyFrame, frameScope, named, published, applyScoped, messages_addMessage]

/-! ### Commands -/

theorem addsNothing_onCommand (caller : Caller) (command : Command) :
    engine.messages.AddsNothing (engine.onCommand caller command).1.messages := by
  have sent : ∀ frame success (onSent : Engine → String → Engine),
      (∀ sessionId, (onSent engine sessionId).messages = engine.messages) →
      engine.messages.AddsNothing (engine.sendFor caller frame success onSent).1.messages := by
    intro frame success onSent keeps
    unfold sendFor
    split
    · rw [keeps]
      exact .refl _
    · exact .refl _
  cases command with
  | sendMessage content messageId =>
      apply sent
      exact fun _ => rfl
  | respondPermission answer =>
      apply sent
      exact fun _ => rfl
  | interruptSession =>
      apply sent
      exact fun _ => rfl
  | syncMessages sessionId =>
      unfold onCommand
      dsimp only
      split
      · exact .refl _
      · exact .refl _
  | toggleToolExpanded sessionId toolId => exact .after _ (.toggle sessionId toolId) rfl
  | markToolOrphaned sessionId toolId reason =>
      exact .after _ (.tools sessionId (.markOrphaned toolId reason none)) rfl
  | _ => exact .refl _

/-! ### Steps -/

/-- What an outcome may hold: the messages of before and what the input brings. -/
def HoldsOnly (input : Input) (outcome : Engine) : Prop :=
  ∀ sessionId, (outcome.messages.log sessionId).messages ⊆
    (engine.messages.log sessionId).messages ++ engine.brings sessionId input

variable {engine}

theorem holdsOnly_of_addsNothing (input : Input) {outcome : Engine}
    (nothing : engine.messages.AddsNothing outcome.messages) : engine.HoldsOnly input outcome :=
  fun sessionId => List.Subset.trans (nothing sessionId) (List.subset_append_left _ _)

/-- A change brings what the input brings for its session. -/
theorem holdsOnly_of_after {input : Input} {outcome : Engine} {change : StoreChange}
    (changed : outcome.messages = engine.messages.after change)
    (brought : change.messages ⊆ engine.brings change.sessionId input) :
    engine.HoldsOnly input outcome := by
  intro sessionId
  rw [changed]
  refine List.Subset.trans (engine.messages.messages_after change sessionId) ?_
  refine List.append_subset.2 ⟨List.subset_append_left _ _, ?_⟩
  refine List.Subset.trans ?_ (List.subset_append_right _ _)
  split
  · rename_i here
    rw [here]
    exact brought
  · exact List.nil_subset _

variable (engine)

theorem holdsOnly_onSelectionStep (epoch : Nat) (step : SelectionStep) :
    engine.HoldsOnly (.selection epoch step) (engine.onSelectionStep epoch step).1 := by
  unfold onSelectionStep
  by_cases latest : epoch = engine.selection.epoch
  · rw [if_neg fun stale => stale latest]
    cases current : engine.sessions.currentId with
    | none => exact holdsOnly_of_addsNothing _ (.refl _)
    | some sessionId =>
        cases step with
        | session session => exact holdsOnly_of_addsNothing _ (engine.addsNothing_upsertSession session)
        | history page =>
            have changed : (engine.loadHistory sessionId page).1.messages =
                engine.messages.after
                  (.loadHistory sessionId page.messages engine.sessions.stateOf) := rfl
            refine holdsOnly_of_after changed ?_
            simp [StoreChange.messages, StoreChange.sessionId, brings, latest, current]
        | failed failure => exact holdsOnly_of_addsNothing _ (.refl _)
  · rw [if_pos latest]
    exact holdsOnly_of_addsNothing _ (.refl _)

theorem holdsOnly_applySync (asker : Option Caller) (sessionId : String) (generation : Nat)
    (outcome : Except Failure Backend.Page) :
    engine.HoldsOnly (.syncFetched asker sessionId generation outcome)
      (engine.applySync sessionId generation outcome).1 := by
  unfold applySync
  split
  · rename_i current
    cases outcome with
    | ok page =>
        have changed : (engine.messages.mergeSync sessionId page.messages page.hasMore).1 =
            engine.messages.after (.mergeSync sessionId page.messages page.hasMore) := rfl
        refine holdsOnly_of_after changed ?_
        simp [StoreChange.messages, StoreChange.sessionId, brings, current]
    | error failure => exact holdsOnly_of_addsNothing _ (.refl _)
  · exact holdsOnly_of_addsNothing _ (.refl _)

theorem holdsOnly_frame {channel : Channel} {generation : Nat} {frame : ServerFrame}
    (accepted : engine.accepts (.frame channel generation frame) = true) :
    engine.HoldsOnly (.channel (.frame channel generation frame))
      (engine.applyFrame channel frame).1 := by
  cases frame with
  | message explicit message =>
      have applied := engine.messages_applyFrame_message channel explicit message
      cases named : scope explicit channel with
      | none =>
          rw [named] at applied
          refine holdsOnly_of_addsNothing _ ?_
          rw [applied]
          exact .refl _
      | some sessionId =>
          rw [named, Option.elim_some] at applied
          refine holdsOnly_of_after applied ?_
          simp [StoreChange.messages, StoreChange.sessionId, brings, accepted, named]
  | _ =>
      refine holdsOnly_of_addsNothing _ (engine.addsNothing_applyFrame channel ?_)
      intro explicit message same
      cases same

theorem holdsOnly_onChannelEvent {event : ChannelEvent} (accepted : engine.accepts event = true) :
    engine.HoldsOnly (.channel event) (engine.onChannelEvent event).1 := by
  cases event with
  | status channel generation status => exact holdsOnly_of_addsNothing _ (.refl _)
  | opened channel generation kind =>
      cases channel <;> cases kind <;> exact holdsOnly_of_addsNothing _ (.refl _)
  | frame channel generation frame =>
      have applied := engine.holdsOnly_frame accepted
      unfold onChannelEvent
      dsimp only
      split
      · exact applied
      · exact applied

/-- **What a log holds after a step** was held before, or the input has brought it. -/
theorem messages_step (input : Input) : engine.HoldsOnly input (engine.step input).1 := by
  unfold step
  split
  · cases input with
    | command caller command =>
        exact holdsOnly_of_addsNothing _ (engine.addsNothing_onCommand caller command)
    | sessionsFetched caller outcome =>
        cases outcome with
        | ok sessions => exact holdsOnly_of_addsNothing _ (engine.addsNothing_replaceSessions sessions)
        | error failure => exact holdsOnly_of_addsNothing _ (.refl _)
    | selection epoch step => exact engine.holdsOnly_onSelectionStep epoch step
    | syncFetched asker sessionId generation outcome =>
        exact engine.holdsOnly_applySync asker sessionId generation outcome
    | channel event =>
        unfold handle
        dsimp only
        split
        · rename_i accepted
          exact engine.holdsOnly_onChannelEvent accepted
        · exact holdsOnly_of_addsNothing _ (.refl _)
  · exact holdsOnly_of_addsNothing _ (.refl _)

end Engine

end SessionSync
