import SessionSync.Proofs.Log.Coherence
import SessionSync.Proofs.Tracker.Counting

/-!
# What a log makes of messages in order

Messages that come in the order of their times leave one and the same log, whichever
way they come (`Holds`): the first message of each id, in order, and what these
messages say, one after another.  Each of the three ways extends such a log by what it
brings: a page of history that comes first (`holds_loadPage`), a live message
(`holds_add`), and a page for a gap, if it begins later than everything before
(`holds_merge`).
-/

set_option autoImplicit false

namespace SessionSync.Log

/-- A session's log is what a list of messages makes of a new log: it holds the first
message of each id and has read these messages in order. -/
structure Holds (log : Log) (sessionId : String) (brought : List Message) : Prop where
  messages : log.messages = firstOfEach {} brought
  ids : log.ids = withIds {} brought
  watermark : log.watermark = lastMillis? (firstOfEach {} brought)
  initData : log.initData = initDataAfter none (firstOfEach {} brought)
  tracker : Tracker.AlikeButCount
    ((Tracker.new sessionId).run ((firstOfEach {} brought).flatMap Message.changes)) log.tracker

theorem holds_new (sessionId : String) : (new sessionId).Holds sessionId [] :=
  ⟨rfl, rfl, rfl, rfl, Tracker.AlikeButCount.refl _⟩

section Extending

variable {log : Log} {sessionId : String} {brought : List Message}

theorem Holds.mem_brought (holds : log.Holds sessionId brought) {message : Message}
    (member : message ∈ log.messages) : message ∈ brought := by
  rw [holds.messages] at member
  exact (firstOfEach_sublist _ _).subset member

/-- A log with a batch of new messages behind its own. -/
def extended (log : Log) (batch : List Message) : Log :=
  { messages := log.messages ++ batch
    ids := withIds log.ids batch
    watermark := (lastMillis? batch).or log.watermark
    tracker := log.tracker.run (batch.flatMap Message.changes)
    initData := initDataAfter log.initData batch }

theorem extended_nil (log : Log) : log.extended [] = log := by
  unfold extended
  rw [List.append_nil]
  rfl

/-- **What a log makes of more messages** is what it makes of those whose ids it
does not hold. -/
theorem Holds.extended (holds : log.Holds sessionId brought) (chunk : List Message) :
    (log.extended (firstOfEach log.ids chunk)).Holds sessionId (brought ++ chunk) := by
  have split : firstOfEach {} (brought ++ chunk) = log.messages ++ firstOfEach log.ids chunk := by
    rw [firstOfEach_append, holds.messages, holds.ids]
  refine ⟨split.symm, ?_, ?_, ?_, ?_⟩
  · show withIds log.ids (firstOfEach log.ids chunk) = _
    rw [withIds_firstOfEach, withIds_append, holds.ids]
  · rw [split, lastMillis?_append, holds.messages, ← holds.watermark]
    rfl
  · rw [split, initDataAfter_append, holds.messages, ← holds.initData]
    rfl
  · rw [split, List.flatMap_append, Tracker.run_append, holds.messages]
    refine holds.tracker.run fun change member => ?_
    obtain ⟨message, -, said⟩ := List.mem_flatMap.1 member
    exact Message.looksAtCount_changes said

/-! ## History first -/

/-- A page in order is already what a log takes from it, but for repetitions. -/
theorem ofPage_of_ascending {page : List Message} (ascending : Ascending Message.millis page) :
    ofPage page = firstOfEach {} page :=
  sortByKey_of_ascending _ (ascending.sublist (firstOfEach_sublist _ _))

/-- **A page of history for a new log** brings what the page has. -/
theorem holds_loadPage {page : List Message} (ascending : Ascending Message.millis page) :
    ((new sessionId).loadPage page).Holds sessionId page := by
  rw [loadPage_eq, ofPage_of_ascending ascending]
  exact ⟨rfl, withIds_firstOfEach _ _, rfl, rfl, Tracker.alikeButCount_recountUnfinished _⟩

/-! ## A live message -/

theorem place_of_latest {message : Message} {messages : List Message}
    (latest : ∀ earlier ∈ messages, earlier.millis ≤ message.millis) :
    place message messages = messages ++ [message] := by
  induction messages with
  | nil => rfl
  | cons head rest ih =>
      rw [place_cons_of_le (latest head List.mem_cons_self), ih fun earlier member =>
        latest earlier (List.mem_cons_of_mem _ member)]
      rfl

/-- **A live message that is not earlier than any before** goes behind them, or is
known. -/
theorem holds_add (holds : log.Holds sessionId brought) {message : Message}
    (latest : ∀ earlier ∈ brought, earlier.millis ≤ message.millis) :
    (log.add message).1.Holds sessionId (brought ++ [message]) := by
  have extended := holds.extended [message]
  cases known : log.ids.contains message.messageId with
  | true =>
      rw [firstOfEach_cons_of_contains [] known] at extended
      rw [add_of_contains known, ← log.extended_nil]
      exact extended
  | false =>
      have behind : place message log.messages = log.messages ++ [message] :=
        place_of_latest fun earlier member => latest earlier (holds.mem_brought member)
      rw [firstOfEach_cons_of_not_contains [] known] at extended
      rw [add_eq known, behind]
      simpa [Log.extended, firstOfEach, withIds, lastMillis?, initDataAfter] using extended

/-! ## A page for a gap -/

/-- A page brings a chunk of messages, and before, between and behind them it may
repeat messages whose ids are held. -/
inductive Refetched (held : KeySet) : List Message → List Message → Prop
  | nil : Refetched held [] []
  | fresh (message : Message) {chunk page : List Message} (rest : Refetched held chunk page) :
      Refetched held (message :: chunk) (message :: page)
  | known (message : Message) (contained : held.contains message.messageId = true)
      {chunk page : List Message} (rest : Refetched held chunk page) :
      Refetched held chunk (message :: page)

/-- What is repeated is passed over, also once more ids are held. -/
theorem Refetched.firstOfEach_filter {held : KeySet} {chunk page : List Message}
    (refetched : Refetched held chunk page) {passes : Message → Bool}
    (allPass : ∀ message ∈ chunk, passes message = true) {more : KeySet}
    (grown : ∀ id, held.contains id = true → more.contains id = true) :
    firstOfEach more (page.filter passes) = firstOfEach more chunk := by
  induction refetched generalizing more with
  | nil => rfl
  | @fresh message chunk page rest ih =>
      have later := fun other member => allPass other (List.mem_cons_of_mem message member)
      rw [List.filter_cons_of_pos (allPass message List.mem_cons_self)]
      cases known : more.contains message.messageId with
      | true =>
          rw [firstOfEach_cons_of_contains _ known, firstOfEach_cons_of_contains _ known,
            ih later grown]
      | false =>
          rw [firstOfEach_cons_of_not_contains _ known, firstOfEach_cons_of_not_contains _ known,
            ih later fun id contained => ?_]
          rw [KeySet.contains_add, grown id contained, Bool.or_true]
  | @known message contained chunk page rest ih =>
      rw [List.filter_cons]
      split
      · rw [firstOfEach_cons_of_contains _ (grown _ contained), ih allPass grown]
      · exact ih allPass grown

/-- **A page for a gap that begins later than everything before** brings its chunk,
whatever it repeats. -/
theorem holds_merge (holds : log.Holds sessionId brought) {chunk page : List Message}
    (refetched : Refetched log.ids chunk page) (ascending : Ascending Message.millis chunk)
    (later : ∀ earlier ∈ brought, ∀ message ∈ chunk, earlier.millis < message.millis) :
    (log.merge page).1.Holds sessionId (brought ++ chunk) := by
  have extended := holds.extended chunk
  have behindMark : ∀ message ∈ chunk,
      (log.watermark.all fun mark => mark < message.millis) = true := by
    intro message member
    rw [holds.watermark]
    cases last : lastMillis? (firstOfEach {} brought) with
    | none => rfl
    | some mark =>
        obtain ⟨earlier, held, rfl⟩ := mem_of_lastMillis? last
        simpa using later earlier ((firstOfEach_sublist _ _).subset held) message member
  have missing : log.missing page = firstOfEach log.ids chunk := by
    unfold Log.missing
    dsimp only
    rw [refetched.firstOfEach_filter behindMark fun _ contained => contained]
    exact sortByKey_of_ascending _ (ascending.sublist (firstOfEach_sublist _ _))
  by_cases nothing : log.missing page = []
  · rw [← missing, nothing, log.extended_nil] at extended
    rw [merge_of_nothing nothing]
    exact extended
  · have behind : join log.messages (log.missing page) = log.messages ++ log.missing page := by
      unfold join
      split
      · rename_i last first atEnd atFront
        have before := holds.mem_brought (List.mem_of_getLast? atEnd)
        have after := List.mem_of_head? atFront
        rw [missing] at after
        have apart := later last before first ((firstOfEach_sublist _ _).subset after)
        rw [if_pos (Int.le_of_lt apart)]
      · rfl
    obtain ⟨mark, last⟩ : ∃ mark, lastMillis? (log.missing page) = some mark :=
      Option.ne_none_iff_exists'.1 fun none => nothing (lastMillis?_eq_none_iff.1 none)
    rw [← missing] at extended
    rw [merge_eq nothing, behind]
    simpa [Log.extended, last] using extended

end Extending

end SessionSync.Log
