import SessionSync.Proofs.Log.Readings
import SessionSync.Proofs.MessageStore.Changes

/-!
# The ways of delivery lead to one log

Messages in the order of their times may be cut into chunks anywhere.  The first chunk
reaches an unseen session as a page of history or message by message, and every later
chunk message by message or as one page for a gap, where a page may begin only at a
later time than everything before it and may repeat what is held.

Deliveries of the same readings leave the same log (`log_eq_of_delivered`), but for what is
counted as unfinished: the messages, the ids, the watermark, the data of the session's start,
the calls, the links and the orphans.

But a message that comes on two ways is read on each of them, and each reading of a display
block has its own order.  The messages, the ids, the watermark and the data of the session's
start are still the same on all ways.  The calls, the links and the orphans are the same at
every moment exactly where the order of the states matters nowhere
(`delivered_alike_iff`).
-/

set_option autoImplicit false

namespace SessionSync.MessageStore

/-- A session has been brought a list of messages, and nothing else since it was
unseen. -/
inductive Delivered (sessionId : String) : List Message → MessageStore → Prop
  /-- Nothing has been brought yet. -/
  | unseen {store : MessageStore} (new : store.log? sessionId = none) :
      Delivered sessionId [] store
  /-- The first chunk is a page of history, of a session that is live or unknown. -/
  | history {store : MessageStore} (new : store.log? sessionId = none) (page : List Message)
      {stateOf : String → Option SessionState}
      (lives : (stateOf sessionId).all SessionState.isLive = true) :
      Delivered sessionId page (store.loadHistory sessionId page stateOf).1
  /-- One more message is live. -/
  | live {brought : List Message} {store : MessageStore}
      (before : Delivered sessionId brought store) (message : Message) :
      Delivered sessionId (brought ++ [message]) (store.addMessage sessionId message).1
  /-- One more chunk is brought by a page for a gap, behind a strict increase of the
  times. -/
  | sync {brought : List Message} {store : MessageStore}
      (before : Delivered sessionId brought store) {chunk page : List Message}
      (refetched : Log.Refetched (store.log sessionId).ids chunk page)
      (cut : ∀ last first, brought.getLast? = some last → chunk.head? = some first →
        last.millis < first.millis)
      (truncated : Bool) :
      Delivered sessionId (brought ++ chunk) (store.mergeSync sessionId page truncated).1

/-- **A log after a delivery** holds what was brought. -/
theorem Delivered.holds {sessionId : String} {messages : List Message} {store : MessageStore}
    (delivered : Delivered sessionId messages store)
    (ordered : Ascending Message.millis messages) :
    (store.log sessionId).Holds sessionId messages := by
  induction delivered with
  | unseen new =>
      rw [log_of_unseen new]
      exact Log.holds_new sessionId
  | @history store new page stateOf lives =>
      have goesOn : isOver stateOf sessionId = false := by
        unfold isOver
        cases known : stateOf sessionId with
        | none => rfl
        | some state => simpa [known] using lives
      rw [log_loadHistory, goesOn, log_of_unseen new, if_neg Bool.false_ne_true]
      exact Log.holds_loadPage ordered
  | @live brought store before message ih =>
      obtain ⟨front, -, latest⟩ := List.pairwise_append.1 ordered
      rw [log_addMessage]
      exact Log.holds_add (ih front) fun earlier member =>
        latest earlier member message List.mem_cons_self
  | @sync brought store before chunk page refetched cut truncated ih =>
      obtain ⟨front, back, -⟩ := List.pairwise_append.1 ordered
      rw [log_mergeSync]
      refine Log.holds_merge (ih front) refetched back fun earlier held message member => ?_
      obtain ⟨last, atEnd⟩ : ∃ last, brought.getLast? = some last :=
        ⟨_, List.getLast?_eq_some_getLast (List.ne_nil_of_mem held)⟩
      obtain ⟨first, atFront⟩ : ∃ first, chunk.head? = some first :=
        ⟨_, List.head?_eq_some_head (List.ne_nil_of_mem member)⟩
      have below := Ascending.le_getLast front atEnd held
      have above := Ascending.head_le back atFront member
      have apart := cut last first atEnd atFront
      omega

section Ways

variable {sessionId : String} {messages : List Message} {first second : MessageStore}

/-- **The same readings**: whatever way a list of messages in the order of their times is cut
and brought to a session, its log is the same in the end. -/
theorem log_eq_of_delivered (ordered : Ascending Message.millis messages)
    (one : Delivered sessionId messages first) (other : Delivered sessionId messages second) :
    (first.log sessionId).messages = (second.log sessionId).messages ∧
      (first.log sessionId).ids = (second.log sessionId).ids ∧
      (first.log sessionId).watermark = (second.log sessionId).watermark ∧
      (first.log sessionId).initData = (second.log sessionId).initData ∧
      (first.log sessionId).tracker.calls = (second.log sessionId).tracker.calls ∧
      (first.log sessionId).tracker.links = (second.log sessionId).tracker.links ∧
      (first.log sessionId).tracker.orphans = (second.log sessionId).tracker.orphans := by
  have left := one.holds ordered
  have right := other.holds ordered
  have alike := left.tracker.symm.trans right.tracker
  exact ⟨left.messages.trans right.messages.symm, left.ids.trans right.ids.symm,
    left.watermark.trans right.watermark.symm, left.initData.trans right.initData.symm,
    alike.calls, alike.links, alike.orphans⟩

/-- **Path independence.**  A list of messages in the order of their times is cut and brought
to a session in any two ways.

The same readings leave the same log.  Two readings leave the same messages, but for the order
in which the states of their display blocks are walked, and the same ids, watermark and data of
the session's start.  They leave the same calls, links and orphans, after the list and after
every beginning of it, exactly if the order of the states matters nowhere in it. -/
theorem delivered_alike_iff (ordered : Ascending Message.millis messages) :
    (∀ first second, Delivered sessionId messages first → Delivered sessionId messages second →
        let left := first.log sessionId
        let right := second.log sessionId
        left.messages = right.messages ∧ left.tracker.calls = right.tracker.calls ∧
          left.tracker.links = right.tracker.links ∧
          left.tracker.orphans = right.tracker.orphans) ∧
      (∀ again first second, List.Forall₂ Message.AlikeButOrder messages again →
        Delivered sessionId messages first → Delivered sessionId again second →
        let left := first.log sessionId
        let right := second.log sessionId
        List.Forall₂ Message.AlikeButOrder left.messages right.messages ∧
          left.ids = right.ids ∧ left.watermark = right.watermark ∧
          left.initData = right.initData) ∧
      ((∀ begun again first second, begun <+: messages →
          List.Forall₂ Message.AlikeButOrder begun again →
          Delivered sessionId begun first → Delivered sessionId again second →
          let left := (first.log sessionId).tracker
          let right := (second.log sessionId).tracker
          left.calls = right.calls ∧ left.links = right.links ∧ left.orphans = right.orphans) ↔
        Log.OrderFree sessionId messages) := by
  refine ⟨fun first second one other => ?same, fun again first second alike one other => ?log,
    fun always => ?free, fun free begun again first second begins alike one other => ?tools⟩
  case same =>
    obtain ⟨messages, -, -, -, tools⟩ := log_eq_of_delivered ordered one other
    exact ⟨messages, tools⟩
  case log =>
    have left := one.holds ordered
    have right := other.holds (Log.ascending_of_alike alike ordered)
    have news := Log.firstOfEach_alike alike {}
    refine ⟨?messages, ?ids, ?watermark, ?initData⟩
    case messages => rwa [left.messages, right.messages]
    case ids => rw [left.ids, right.ids, Log.withIds_alike alike]
    case watermark => rw [left.watermark, right.watermark, Log.lastMillis?_alike news]
    case initData => rw [left.initData, right.initData, Log.initDataAfter_alike news]
  case free =>
    -- Pages of history alone bring every beginning in every reading.
    refine Log.orderFree_of_readings fun begun again begins alike => ?_
    have ordered : Ascending Message.millis begun := ordered.sublist begins.sublist
    have one : Delivered sessionId begun (empty.loadHistory sessionId begun fun _ => none).1 :=
      .history rfl begun rfl
    have other : Delivered sessionId again (empty.loadHistory sessionId again fun _ => none).1 :=
      .history rfl again rfl
    obtain ⟨calls, links, -⟩ := always begun again _ _ begins alike one other
    have left := (one.holds ordered).tracker
    have right := (other.holds (Log.ascending_of_alike alike ordered)).tracker
    exact ⟨left.calls.trans (calls.trans right.calls.symm),
      left.links.trans (links.trans right.links.symm)⟩
  case tools =>
    have ordered : Ascending Message.millis begun := ordered.sublist begins.sublist
    have left := (one.holds ordered).tracker
    have right := (other.holds (Log.ascending_of_alike alike ordered)).tracker
    have same : Log.trackerAfter sessionId begun = Log.trackerAfter sessionId again :=
      Log.trackerAfter_eq_of_alike (free.of_prefix begins) alike
    unfold Log.trackerAfter at same
    rw [same] at left
    have tools := left.symm.trans right
    exact ⟨tools.calls, tools.links, tools.orphans⟩

end Ways

/-! ### Two ways for two tool uses -/

/-- A tool is used. -/
def toolUsed : Message :=
  Message.ofBlocks "1" .assistant 1000000000000
    [.toolUse { toolId := "t", name := "Bash", input := .null }]

/-- A second message under the same id, at the same time. -/
def toolRepeated : Message := Message.ofBlocks "1" .user 1000000000000 []

/-- Two more tool uses wait, and the block that shows them is walked from the first of them or
from the last. -/
def toolsShown (backwards : Bool) : Message :=
  let waits : DisplayedTool := { state := .pending, toolName := none, requestId := none }
  (Message.ofBlocks "2" .user 1000000001000 []).displaying
    { tools := some (if backwards then ⟨[("v", waits), ("u", waits)], by simp⟩
        else ⟨[("u", waits), ("v", waits)], by simp⟩)
      orphans := none
      links := none }

/-- History and then a page for a gap that repeats the end of it, or three live messages: the
block that shows two new tool uses is read on each way, and the calls get the ranks of its
order. -/
theorem delivered_alike_iff_of_two_new :
    let messages := [toolUsed, toolRepeated, toolsShown false]
    let again := [toolUsed, toolRepeated, toolsShown true]
    let paged := ((empty.loadHistory "s" [toolUsed, toolRepeated] fun _ => none).1.mergeSync "s"
      [toolRepeated, toolsShown false] false).1
    let streamed := (((empty.addMessage "s" toolUsed).1.addMessage "s" toolRepeated).1.addMessage
      "s" (toolsShown true)).1
    Ascending Message.millis messages ∧
      List.Forall₂ Message.AlikeButOrder messages again ∧
      Delivered "s" messages paged ∧ Delivered "s" again streamed ∧
      (paged.log "s").ids = (streamed.log "s").ids ∧
      (paged.log "s").tracker.inOrder.map ToolCall.toolId = ["t", "u", "v"] ∧
      (streamed.log "s").tracker.inOrder.map ToolCall.toolId = ["t", "v", "u"] ∧
      ¬ Log.OrderFree "s" messages := by
  intro messages again paged streamed
  have ordered : Ascending Message.millis messages := by
    unfold Ascending
    decide +kernel
  have alike : List.Forall₂ Message.AlikeButOrder messages again := by
    have last : (toolsShown false).AlikeButOrder (toolsShown true) :=
      .displaying rfl ⟨rfl, List.Perm.swap _ _ _, rfl, rfl⟩
    exact .cons (.refl toolUsed) (.cons (.refl toolRepeated) (.cons last .nil))
  have held :
      ((empty.loadHistory "s" [toolUsed, toolRepeated] fun _ => none).1.log "s").ids.contains
        toolRepeated.messageId = true := by decide +kernel
  have one : Delivered "s" messages paged := by
    refine .sync (.history rfl [toolUsed, toolRepeated] rfl)
      (.known toolRepeated held (.fresh (toolsShown false) .nil)) ?_ false
    intro last first atEnd atFront
    cases atEnd
    cases atFront
    decide +kernel
  have other : Delivered "s" again streamed :=
    .live (.live (.live (.unseen rfl) toolUsed) toolRepeated) (toolsShown true)
  obtain ⟨-, log, exactly⟩ := delivered_alike_iff ordered
  have different : (paged.log "s").tracker.calls ≠ (streamed.log "s").tracker.calls := by
    decide +kernel
  refine ⟨ordered, alike, one, other, (log again paged streamed alike one other).2.1,
    by decide +kernel, by decide +kernel, fun free => different ?_⟩
  exact (exactly.2 free messages again paged streamed (List.prefix_refl _) alike one other).1

end SessionSync.MessageStore
