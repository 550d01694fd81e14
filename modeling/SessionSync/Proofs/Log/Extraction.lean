import SessionSync.Log
import SessionSync.Proofs.Tracker.Changes

/-!
# What messages say

A message that is read changes the tool calls of its log by a fixed list of
changes (`Message.changes`), and it may bring the data of the session's start.
Reading touches nothing else of a log (`Log.extract_eq`), so the three ways on
which messages come differ only in which messages they read
(`Log.loadPage_eq`, `Log.add_eq`, `Log.merge_eq`).
-/

set_option autoImplicit false

namespace SessionSync

/-- What a payload says about tool uses. -/
def Payload.changes : Payload → List TrackerChange
  | .assistant uses => uses.map .toolUse
  | .user results => results.map .toolResult
  | .permissionRequest request => [.permissionRequest request]
  | .permissionResponse response => [.permissionResponse response]
  | .toolCall event => [.toolEvent event]
  | .system .. | .unknown => []

/-- What a message says about tool uses: the links of its display block, its
payload, and the states of its display block. -/
def Message.changes (message : Message) : List TrackerChange :=
  let display := (Log.display? message).toList
  display.map .displayLinks ++ (message.payload?.map Payload.changes).getD [] ++
    display.map .displayStates

/-- Whether messages bring changes of this kind. -/
def TrackerChange.isRead : TrackerChange → Bool
  | .toolUse _ | .permissionRequest _ | .permissionResponse _ | .toolResult _ | .toolEvent _
  | .displayLinks _ | .displayStates _ => true
  | .markOrphaned .. | .orphanUnfinished _ | .recount | .toggle _ => false

theorem Message.isRead_changes {message : Message} {change : TrackerChange}
    (member : change ∈ message.changes) : change.isRead = true := by
  unfold Message.changes at member
  rcases List.mem_append.1 member with member | member
  · rcases List.mem_append.1 member with member | member
    · obtain ⟨display, -, rfl⟩ := List.mem_map.1 member
      rfl
    · cases told : message.payload? with
      | none => simp [told] at member
      | some payload =>
          rw [told, Option.map_some, Option.getD_some] at member
          cases payload with
          | assistant uses =>
              obtain ⟨toolUse, -, rfl⟩ := List.mem_map.1 member
              rfl
          | user results =>
              obtain ⟨result, -, rfl⟩ := List.mem_map.1 member
              rfl
          | permissionRequest request => cases List.mem_singleton.1 member; rfl
          | permissionResponse response => cases List.mem_singleton.1 member; rfl
          | toolCall event => cases List.mem_singleton.1 member; rfl
          | system subtype initData => cases member
          | unknown => cases member
  · obtain ⟨display, -, rfl⟩ := List.mem_map.1 member
    rfl

/-- A message with nothing but an id, a type, a time and blocks. -/
def Message.ofBlocks (messageId : String) (type : MessageType) (millis : Int)
    (blocks : List ContentBlock) : Message :=
  { messageId, sessionId := "s", type, content := "", timestamp := .ofMillis millis
    metadata := { Metadata.none with blocks } }

namespace Log

/-- The data of a session's start after messages were read: the last that they
bring, or those that were known. -/
def initDataAfter (known : Option Json) (messages : List Message) : Option Json :=
  messages.foldl (fun known message => message.initData?.or known) known

theorem initDataAfter_append (known : Option Json) (front back : List Message) :
    initDataAfter known (front ++ back) = initDataAfter (initDataAfter known front) back :=
  List.foldl_append

/-- The data of a session's start that a payload brings. -/
def payloadInitData : Payload → Option Json
  | .system (some "init") initData => initData
  | _ => none

theorem run_map {α : Type} (change : α → TrackerChange) (step : Tracker → α → Tracker)
    (same : ∀ tracker item, tracker.after (change item) = step tracker item) (items : List α)
    (tracker : Tracker) : tracker.run (items.map change) = items.foldl step tracker := by
  induction items generalizing tracker with
  | nil => rfl
  | cons item rest ih => rw [List.map_cons, Tracker.run_cons, ih, same, List.foldl_cons]

theorem extractPayload_eq (log : Log) (payload : Payload) :
    log.extractPayload payload =
      { log with
        tracker := log.tracker.run payload.changes
        initData := (payloadInitData payload).or log.initData } := by
  cases payload with
  | user results =>
      unfold extractPayload Payload.changes
      rw [run_map .toolResult Tracker.onToolResult fun _ _ => rfl]
      rfl
  | assistant uses =>
      unfold extractPayload Payload.changes
      rw [run_map .toolUse Tracker.onToolUse fun _ _ => rfl]
      rfl
  | system subtype initData =>
      unfold extractPayload payloadInitData
      by_cases started : subtype = some "init"
      · subst started
        cases initData <;> simp [Payload.changes]
      · simp [started, Payload.changes]
  | permissionRequest request => rfl
  | permissionResponse response => rfl
  | toolCall event => rfl
  | unknown => rfl

theorem initData?_eq (message : Message) :
    message.initData? = message.payload?.bind payloadInitData := by
  unfold Message.initData?
  cases message.payload? with
  | none => rfl
  | some payload =>
      show _ = payloadInitData payload
      unfold payloadInitData
      split <;> split <;> simp_all

/-- **Reading a message** changes the tool calls and the data of the session's
start, and nothing else. -/
theorem extract_eq (log : Log) (message : Message) :
    log.extract message =
      { log with
        tracker := log.tracker.run message.changes
        initData := message.initData?.or log.initData } := by
  unfold extract Message.changes
  rw [initData?_eq]
  cases display? message with
  | none =>
      cases message.payload? with
      | none => rfl
      | some payload => simp [extractPayload_eq]
  | some display =>
      cases message.payload? with
      | none => rfl
      | some payload =>
          simp only [extractPayload_eq, Option.toList_some, List.map_cons, List.map_nil,
            Option.map_some, Option.getD_some, Tracker.run_append]
          rfl

/-- Messages that are read one after another. -/
theorem foldl_extract_eq (log : Log) (messages : List Message) :
    messages.foldl extract log =
      { log with
        tracker := log.tracker.run (messages.flatMap Message.changes)
        initData := initDataAfter log.initData messages } := by
  induction messages generalizing log with
  | nil => rfl
  | cons message rest ih =>
      rw [List.foldl_cons, ih, extract_eq, List.flatMap_cons, Tracker.run_append]
      rfl

/-! ## The three ways -/

/-- The messages of a page of history: the first of each id, in order. -/
def ofPage (page : List Message) : List Message :=
  sortByKey Message.millis (firstOfEach {} page)

theorem loadPage_eq (log : Log) (page : List Message) :
    log.loadPage page =
      { messages := ofPage page
        ids := withIds {} (ofPage page)
        watermark := lastMillis? (ofPage page)
        tracker := (log.tracker.run ((ofPage page).flatMap Message.changes)).recountUnfinished
        initData := initDataAfter log.initData (ofPage page) } := by
  unfold loadPage
  dsimp only
  rw [foldl_extract_eq]
  rfl

theorem add_of_contains {log : Log} {message : Message}
    (known : log.ids.contains message.messageId = true) : log.add message = (log, false) := by
  unfold add
  rw [if_pos known]

theorem add_eq {log : Log} {message : Message}
    (fresh : log.ids.contains message.messageId = false) :
    log.add message =
      ({ messages := place message log.messages
         ids := log.ids.add message.messageId
         watermark := some message.millis
         tracker := log.tracker.run message.changes
         initData := message.initData?.or log.initData }, true) := by
  unfold add
  rw [fresh, extract_eq]
  rfl

theorem merge_of_nothing {log : Log} {page : List Message} (nothing : log.missing page = []) :
    log.merge page = (log, 0) := by
  unfold merge
  rw [nothing]
  rfl

/-- The messages of a log with a batch behind them, in order. -/
def join (messages batch : List Message) : List Message :=
  match messages.getLast?, batch.head? with
  | some last, some first =>
      if last.millis ≤ first.millis then messages ++ batch
      else sortByKey Message.millis (messages ++ batch)
  | _, _ => messages ++ batch

theorem merge_eq {log : Log} {page : List Message} (something : log.missing page ≠ []) :
    log.merge page =
      ({ messages := join log.messages (log.missing page)
         ids := withIds log.ids (log.missing page)
         watermark := lastMillis? (log.missing page)
         tracker := log.tracker.run ((log.missing page).flatMap Message.changes)
         initData := initDataAfter log.initData (log.missing page) },
        (log.missing page).length) := by
  obtain ⟨last, atEnd⟩ : ∃ last, (log.missing page).getLast? = some last :=
    ⟨_, List.getLast?_eq_some_getLast something⟩
  have filled : (log.missing page).isEmpty = false := by simpa using something
  unfold merge join lastMillis?
  simp only [filled, atEnd, foldl_extract_eq]
  cases log.messages.getLast? <;> cases (log.missing page).head? <;> simp

end Log

end SessionSync
