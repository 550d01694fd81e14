import SessionSync.Sorting
import SessionSync.Tool.Tracker
import SessionSync.Wire.Message
import SessionSync.Wire.Session

/-!
# The log of a session

The messages of a session in the order of their milliseconds, with what follows
from them: the ids that are held, the watermark up to which the log is known to
be complete, the tool calls and the data of the session's start.

Messages come on three ways, and each way keeps the log in order and without
repetition: a page of history replaces the log, a live message is put in its
place, and a page that was fetched after a reconnection is merged behind the
watermark.  Every message that is new to the log is read once for what it says
about tools (`Log.extract`), whichever way it came.
-/

set_option autoImplicit false

namespace SessionSync

/-- A session's messages and what follows from them. -/
structure Log where
  messages : List Message
  ids : KeySet
  /-- The milliseconds of the last message that was taken in. -/
  watermark : Option Int
  tracker : Tracker
  initData : Option Json
  deriving DecidableEq, Repr

namespace Log

/-- A log that has seen nothing. -/
def new (sessionId : String) : Log :=
  { messages := [], ids := {}, watermark := none, tracker := Tracker.new sessionId,
    initData := none }

/-- Change the tool calls only. -/
def onTracker (log : Log) (change : Tracker → Tracker) : Log :=
  { log with tracker := change log.tracker }

/-! ## What a message says about tools -/

/-- A message's display block, unless it says nothing. -/
def display? (message : Message) : Option Display :=
  message.metadata.display.filter fun display => !display.isEmpty

/-- Take in what the payload of a message says. -/
def extractPayload (log : Log) : Payload → Log
  | .assistant uses => log.onTracker fun tracker => uses.foldl Tracker.onToolUse tracker
  | .user results => log.onTracker fun tracker => results.foldl Tracker.onToolResult tracker
  | .system subtype initData =>
      if subtype = some "init" ∧ initData.isSome then { log with initData } else log
  | .permissionRequest request =>
      log.onTracker fun tracker => (tracker.onPermissionRequest request).1
  | .permissionResponse response =>
      log.onTracker fun tracker => (tracker.onPermissionResponse response).1
  | .toolCall event => log.onTracker fun tracker => tracker.onToolEvent event
  | .unknown => log

/-- Take in what a message says: the links of its display block, then its
payload, then the states of its display block, so that the backend's own view
stays. -/
def extract (log : Log) (message : Message) : Log :=
  let linked := match display? message with
    | some display => log.onTracker fun tracker => tracker.applyDisplayLinks display
    | none => log
  let told := match message.payload? with
    | some payload => linked.extractPayload payload
    | none => linked
  match display? message with
  | some display => told.onTracker fun tracker => tracker.applyDisplayStates display
  | none => told

/-! ## Order and repetition -/

/-- Keep the first message of each id that is not held already. -/
def firstOfEach (held : KeySet) : List Message → List Message
  | [] => []
  | message :: rest =>
      if held.contains message.messageId then firstOfEach held rest
      else message :: firstOfEach (held.add message.messageId) rest

/-- Add the ids of messages. -/
def withIds (held : KeySet) (messages : List Message) : KeySet :=
  messages.foldl (fun held message => held.add message.messageId) held

/-- Put a message behind all messages that are not later. -/
def place (message : Message) (messages : List Message) : List Message :=
  messages.takeWhile (fun other => other.millis ≤ message.millis) ++
    message :: messages.dropWhile fun other => other.millis ≤ message.millis

/-- The milliseconds of the last message of a list. -/
def lastMillis? (messages : List Message) : Option Int := messages.getLast?.map Message.millis

/-! ## The three ways -/

/-- Replace the messages by a page of history and read it.  Tool calls that
were seen before stay, and the unfinished ones are counted anew. -/
def loadPage (log : Log) (page : List Message) : Log :=
  let messages := sortByKey Message.millis (firstOfEach {} page)
  let started := { log with
    ids := withIds {} messages
    watermark := lastMillis? messages }
  let read := messages.foldl extract started
  { read.onTracker Tracker.recountUnfinished with messages }

/-- Take in one live message; whether it was new comes second. -/
def add (log : Log) (message : Message) : Log × Bool :=
  if log.ids.contains message.messageId then (log, false)
  else
    let read := { log with
      ids := log.ids.add message.messageId
      watermark := some message.millis }.extract message
    ({ read with messages := place message read.messages }, true)

/-- The messages of a page that lie behind the watermark and are not held, the
first of each id, in order. -/
def missing (log : Log) (page : List Message) : List Message :=
  let later := page.filter fun message => log.watermark.all fun mark => mark < message.millis
  sortByKey Message.millis (firstOfEach log.ids later)

/-- Merge a page that was fetched after a reconnection; the number of messages
that were missing comes second. -/
def merge (log : Log) (page : List Message) : Log × Nat :=
  let batch := log.missing page
  if batch.isEmpty then (log, 0)
  else
    let read := batch.foldl extract log
    let joined := log.messages ++ batch
    let appendable := match log.messages.getLast?, batch.head? with
      | some last, some first => decide (last.millis ≤ first.millis)
      | _, _ => true
    ({ read with
        messages := if appendable then joined else sortByKey Message.millis joined
        ids := withIds log.ids batch
        watermark := (lastMillis? batch).or log.watermark },
      batch.length)

end Log

end SessionSync
