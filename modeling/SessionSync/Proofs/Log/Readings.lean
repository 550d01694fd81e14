import Mathlib.Data.List.Forall2
import SessionSync.Proofs.Log.Delivery
import SessionSync.Proofs.Tracker.DisplayOrder

/-!
# Messages that are read more than once

A message that comes on two ways is read on each of them.  The readings have the same parts,
but the states of a display block may be walked in another order
(`Message.AlikeButOrder`).  So two readings of a list of messages have the same ids and
times, bring the same data of the session's start and take the same part in what is known
and what is new; only the tool calls can tell them apart.

They cannot where each block that is new meets a tracker to which the order of its states
does not matter (`OrderFree`, `trackerAfter_eq_of_alike`): of the tool uses that the block shows
at most one has no call yet, and no request is spoken of twice.  Nothing less will do.  The
first block for which this fails can be read in two orders, and the ranks of its calls or
the link of its request tell which it was (`orderFree_of_readings`).
-/

set_option autoImplicit false

namespace SessionSync

namespace Message

/-- A message without its display block. -/
def undisplayed (message : Message) : Message :=
  { message with metadata := { message.metadata with display := none } }

/-- A message with another display block. -/
def displaying (message : Message) (display : Display) : Message :=
  { message with metadata := { message.metadata with display := some display } }

/-- Two readings of one message: they may walk the states of the display block in different
orders. -/
structure AlikeButOrder (left right : Message) : Prop where
  undisplayed : left.undisplayed = right.undisplayed
  display : Option.Rel Display.AlikeButOrder left.metadata.display right.metadata.display

/-- What a message says before the states of its display block. -/
def changesBeforeStates (message : Message) : List TrackerChange :=
  (Log.display? message).toList.map .displayLinks ++
    (message.payload?.map Payload.changes).getD []

theorem changes_eq (message : Message) :
    message.changes = message.changesBeforeStates ++
      (Log.display? message).toList.map .displayStates := rfl

namespace AlikeButOrder

theorem refl (message : Message) : message.AlikeButOrder message := by
  refine ⟨rfl, ?_⟩
  cases message.metadata.display with
  | none => exact .none
  | some display => exact .some (.refl display)

/-- A message with a display block is read again with the block read again. -/
theorem displaying {message : Message} {display again : Display}
    (shown : message.metadata.display = some display) (alike : display.AlikeButOrder again) :
    message.AlikeButOrder (message.displaying again) := by
  refine ⟨rfl, ?_⟩
  rw [shown]
  exact .some alike

/-- The block is not empty in any reading. -/
theorem display?_displaying {message : Message} {display again : Display}
    (shown : Log.display? message = some display) (alike : display.AlikeButOrder again) :
    Log.display? (message.displaying again) = some again := by
  obtain ⟨-, filled⟩ := Option.filter_eq_some_iff.1 shown
  refine Option.filter_eq_some_iff.2 ⟨rfl, ?_⟩
  rw [← alike.isEmpty]
  exact filled

variable {left right : Message} (alike : left.AlikeButOrder right)
include alike

theorem messageId : left.messageId = right.messageId :=
  show left.undisplayed.messageId = right.undisplayed.messageId from congrArg _ alike.undisplayed

theorem millis : left.millis = right.millis :=
  show left.undisplayed.millis = right.undisplayed.millis from congrArg _ alike.undisplayed

theorem payload? : left.payload? = right.payload? :=
  show left.undisplayed.payload? = right.undisplayed.payload? from congrArg _ alike.undisplayed

theorem initData? : left.initData? = right.initData? :=
  show left.undisplayed.initData? = right.undisplayed.initData? from congrArg _ alike.undisplayed

theorem display? : Option.Rel Display.AlikeButOrder (Log.display? left) (Log.display? right) := by
  have same := alike.display
  unfold Log.display?
  generalize left.metadata.display = shown at same
  generalize right.metadata.display = shown' at same
  cases same with
  | none => exact .none
  | @some display display' alike =>
      rw [Option.filter_some, Option.filter_some, alike.isEmpty]
      cases display'.isEmpty with
      | true => exact .none
      | false => exact .some alike

theorem run_changesBeforeStates (tracker : Tracker) :
    tracker.run left.changesBeforeStates = tracker.run right.changesBeforeStates := by
  have blocks := alike.display?
  unfold changesBeforeStates
  rw [alike.payload?]
  generalize Log.display? left = shown at blocks
  generalize Log.display? right = shown' at blocks
  cases blocks with
  | none => rfl
  | some alike =>
      simp only [Option.toList_some, List.map_cons, List.map_nil, List.singleton_append,
        Tracker.run_cons, Tracker.after]
      rw [Tracker.applyDisplayLinks_congr alike.links]

/-- **One message**, read twice, says the same to a tracker to which the order of its states
does not matter. -/
theorem run_changes {tracker : Tracker}
    (free : ∀ display, Log.display? left = some display →
      ((tracker.run left.changesBeforeStates).unseen display.shown).length ≤ 1 ∧
        (requestsOf display.shown).Nodup) :
    tracker.run left.changes = tracker.run right.changes := by
  have blocks := alike.display?
  have before := alike.run_changesBeforeStates tracker
  rw [changes_eq, changes_eq, Tracker.run_append, Tracker.run_append, ← before]
  generalize tracker.run left.changesBeforeStates = met at free
  generalize Log.display? left = shown at blocks free
  generalize Log.display? right = shown' at blocks
  cases blocks with
  | none => rfl
  | @some display display' alike =>
      obtain ⟨single, unshared⟩ := free display rfl
      exact Tracker.applyDisplayStates_eq_of_alike alike single unshared

end AlikeButOrder

end Message

namespace Log

open Message (AlikeButOrder)

/-! ## Lists of messages -/

section Lists

variable {left right : List Message} (alike : List.Forall₂ AlikeButOrder left right)
include alike

theorem map_millis_eq : left.map Message.millis = right.map Message.millis := by
  induction alike with
  | nil => rfl
  | cons same _ ih => rw [List.map_cons, List.map_cons, same.millis, ih]

theorem ascending_of_alike (ascending : Ascending Message.millis left) :
    Ascending Message.millis right := by
  have times := List.pairwise_map.2 ascending
  rw [map_millis_eq alike] at times
  exact List.pairwise_map.1 times

theorem lastMillis?_alike : lastMillis? left = lastMillis? right := by
  unfold lastMillis?
  rw [← List.getLast?_map, ← List.getLast?_map, map_millis_eq alike]

theorem withIds_alike (held : KeySet) : withIds held left = withIds held right := by
  induction alike generalizing held with
  | nil => rfl
  | @cons message message' rest rest' same _ ih =>
      show withIds (held.add message.messageId) rest = withIds (held.add message'.messageId) rest'
      rw [ih, same.messageId]

theorem initDataAfter_alike (known : Option Json) :
    initDataAfter known left = initDataAfter known right := by
  induction alike generalizing known with
  | nil => rfl
  | @cons message message' rest rest' same _ ih =>
      show initDataAfter (message.initData?.or known) rest =
        initDataAfter (message'.initData?.or known) rest'
      rw [ih, same.initData?]

/-- What is new in one reading is new in the other. -/
theorem firstOfEach_alike (held : KeySet) :
    List.Forall₂ AlikeButOrder (firstOfEach held left) (firstOfEach held right) := by
  induction alike generalizing held with
  | nil => exact .nil
  | @cons message message' rest rest' same _ ih =>
      cases known : held.contains message.messageId with
      | true =>
          rw [firstOfEach_cons_of_contains rest known,
            firstOfEach_cons_of_contains rest' (same.messageId ▸ known)]
          exact ih held
      | false =>
          rw [firstOfEach_cons_of_not_contains rest known,
            firstOfEach_cons_of_not_contains rest' (same.messageId ▸ known), ← same.messageId]
          exact .cons same (ih _)

end Lists

/-! ## Where the order does not matter -/

/-- What a new tracker makes of messages. -/
def trackerAfter (sessionId : String) (messages : List Message) : Tracker :=
  (Tracker.new sessionId).run ((firstOfEach {} messages).flatMap Message.changes)

/-- The tracker that the states of a message's display block meet. -/
def trackerMet (sessionId : String) (before : List Message) (message : Message) : Tracker :=
  (trackerAfter sessionId before).run message.changesBeforeStates

/-- **The order of the states matters nowhere**: each block that is new meets a tracker in
which at most one of the tool uses that it shows has no call, and its states speak of
different requests. -/
def OrderFree (sessionId : String) (messages : List Message) : Prop :=
  ∀ before message, before ++ [message] <+: messages →
    (withIds {} before).contains message.messageId = false →
    ∀ display, display? message = some display →
      ((trackerMet sessionId before message).unseen display.shown).length ≤ 1 ∧
        (requestsOf display.shown).Nodup

section Meeting

variable {sessionId : String} {before : List Message} {message : Message}

theorem trackerAfter_concat_of_contains
    (known : (withIds {} before).contains message.messageId = true) :
    trackerAfter sessionId (before ++ [message]) = trackerAfter sessionId before := by
  unfold trackerAfter
  rw [firstOfEach_append, firstOfEach_cons_of_contains [] known]
  simp [firstOfEach]

theorem trackerAfter_concat_of_not_contains
    (fresh : (withIds {} before).contains message.messageId = false) :
    trackerAfter sessionId (before ++ [message]) =
      (trackerAfter sessionId before).run message.changes := by
  unfold trackerAfter
  rw [firstOfEach_append, firstOfEach_cons_of_not_contains [] fresh]
  simp [firstOfEach, Tracker.run_append]

/-- What a message that is new leaves in another reading of its block. -/
theorem trackerAfter_displaying {display again : Display}
    (fresh : (withIds {} before).contains message.messageId = false)
    (shown : display? message = some display) (alike : display.AlikeButOrder again) :
    trackerAfter sessionId (before ++ [message.displaying again]) =
      (trackerMet sessionId before message).applyDisplayStates again := by
  have given : message.metadata.display = some display := (Option.filter_eq_some_iff.1 shown).1
  have fresh' : (withIds {} before).contains (message.displaying again).messageId = false := fresh
  rw [trackerAfter_concat_of_not_contains fresh', Message.changes_eq, Tracker.run_append,
    ← (AlikeButOrder.displaying given alike).run_changesBeforeStates,
    AlikeButOrder.display?_displaying shown alike]
  rfl

/-- What a block meets has a history. -/
theorem exists_roster_trackerMet (sessionId : String) (before : List Message)
    (message : Message) :
    ∃ seen, Tracker.Roster sessionId seen (trackerMet sessionId before message) := by
  have history : trackerMet sessionId before message = (Tracker.new sessionId).run
      ((firstOfEach {} before).flatMap Message.changes ++ message.changesBeforeStates) :=
    (Tracker.run_append _ _ _).symm
  rw [history]
  exact ⟨_, Tracker.roster_run sessionId _⟩

end Meeting

/-! ## Two readings of a list -/

variable {sessionId : String}

theorem OrderFree.of_prefix {earlier messages : List Message}
    (free : OrderFree sessionId messages) (begins : earlier <+: messages) :
    OrderFree sessionId earlier :=
  fun before message front => free before message (front.trans begins)

/-- A reading of a list that ends with a message ends with a reading of that message. -/
theorem exists_concat_of_alike {before : List Message} {message : Message}
    {again : List Message} (alike : List.Forall₂ AlikeButOrder (before ++ [message]) again) :
    ∃ before' message', again = before' ++ [message'] ∧
      List.Forall₂ AlikeButOrder before before' ∧ message.AlikeButOrder message' := by
  have reversed := List.forall₂_reverse_iff.2 alike
  rw [List.reverse_append, List.reverse_singleton, List.singleton_append] at reversed
  obtain ⟨message', rest, last, front, same⟩ := List.forall₂_cons_left_iff.1 reversed
  refine ⟨rest.reverse, message', ?_, ?_, last⟩
  · rw [← List.reverse_cons, ← same, List.reverse_reverse]
  · rw [← List.reverse_reverse before]
    exact List.forall₂_reverse_iff.2 front

/-- **A list of messages**, read twice, leaves the same tracker, if the order of the states
matters nowhere. -/
theorem trackerAfter_eq_of_alike {messages again : List Message}
    (free : OrderFree sessionId messages)
    (alike : List.Forall₂ AlikeButOrder messages again) :
    trackerAfter sessionId messages = trackerAfter sessionId again := by
  induction messages using List.reverseRecOn generalizing again with
  | nil =>
      cases alike
      rfl
  | append_singleton before message ih =>
      obtain ⟨before', message', rfl, front, last⟩ := exists_concat_of_alike alike
      have earlier := ih (free.of_prefix (List.prefix_append before [message])) front
      have held : (withIds {} before').contains message'.messageId =
          (withIds {} before).contains message.messageId := by
        rw [withIds_alike front, last.messageId]
      cases known : (withIds {} before).contains message.messageId with
      | true =>
          rw [trackerAfter_concat_of_contains known,
            trackerAfter_concat_of_contains (held.trans known), earlier]
      | false =>
          rw [trackerAfter_concat_of_not_contains known,
            trackerAfter_concat_of_not_contains (held.trans known), ← earlier]
          exact last.run_changes (free before message (List.prefix_refl _) known)

/-- **Nothing less will do.**  If all readings of every beginning of a list leave the same
calls and the same links, the order of the states matters nowhere in it. -/
theorem orderFree_of_readings {messages : List Message}
    (same : ∀ begun again, begun <+: messages → List.Forall₂ AlikeButOrder begun again →
      (trackerAfter sessionId begun).calls = (trackerAfter sessionId again).calls ∧
        (trackerAfter sessionId begun).links = (trackerAfter sessionId again).links) :
    OrderFree sessionId messages := by
  intro before message begins fresh display shown
  have given : message.metadata.display = some display := (Option.filter_eq_some_iff.1 shown).1
  let begun := trackerAfter sessionId (before ++ [message])
  let met := trackerMet sessionId before message
  -- The list up to the message is read again with the block in another order.
  have reread : ∀ again, display.AlikeButOrder again →
      (met.applyDisplayStates again).calls = begun.calls ∧
        (met.applyDisplayStates again).links = begun.links := by
    intro again alike
    have readings : List.Forall₂ AlikeButOrder (before ++ [message])
        (before ++ [message.displaying again]) :=
      List.rel_append (List.forall₂_same.2 fun earlier _ => .refl earlier)
        (.cons (.displaying given alike) .nil)
    obtain ⟨calls, links⟩ := same _ _ begins readings
    rw [trackerAfter_displaying fresh shown alike] at calls links
    exact ⟨calls.symm, links.symm⟩
  have ranked : ∀ order, order.Perm display.shown → ∀ toolId,
      (met.applyStatesIn display order).identity? toolId = begun.identity? toolId := by
    intro order perm toolId
    obtain ⟨again, alike, told⟩ := Tracker.exists_reading display perm met
    rw [told]
    unfold Tracker.identity? Tracker.call?
    rw [(reread again alike).1]
  have linked : ∀ order, order.Perm display.shown → ∀ requestId,
      (met.applyStatesIn display order).requested? requestId = begun.requested? requestId := by
    intro order perm requestId
    obtain ⟨again, alike, told⟩ := Tracker.exists_reading display perm met
    rw [told]
    unfold Tracker.requested?
    rw [(reread again alike).2]
  obtain ⟨seen, roster⟩ := exists_roster_trackerMet sessionId before message
  exact ⟨Tracker.length_unseen_le_one display roster ranked,
    Tracker.nodup_requestsOf display linked⟩

end Log

end SessionSync
