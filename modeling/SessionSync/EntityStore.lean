import SessionSync.Sorting
import SessionSync.Wire.Entity

/-!
# What sessions hold beside their messages

Two kinds of caches, each divided into scopes: one keeps items by id, the other
keeps a list that is replaced as a whole.  A scope is a session or a legion.
Every change says whether the cache was changed by it, and a value that was
already there is left alone.  Two values are the same when they are written the
same, the sign of a zero aside.
-/

set_option autoImplicit false

namespace SessionSync

/-! ## Items by id -/

/-- Items by scope and id. -/
structure KeyedCache (α : Type) where
  scopes : Table (Table α)
  deriving DecidableEq, Repr

namespace KeyedCache

variable {α : Type}

/-- The items of a scope. -/
def get (cache : KeyedCache α) (scope : String) : Table α := (cache.scopes.find? scope).getD {}

/-- Write an item, unless the same one is there. -/
def upsert (encode : α → Json) (cache : KeyedCache α) (scope key : String) (item : α) :
    KeyedCache α × Bool :=
  let items := cache.get scope
  if (items.find? key).any fun held => (encode held).same (encode item) then (cache, false)
  else (⟨cache.scopes.insert scope (items.insert key item)⟩, true)

/-- Remove an item, where there is one. -/
def remove (cache : KeyedCache α) (scope key : String) : KeyedCache α × Bool :=
  let items := cache.get scope
  if items.contains key then (⟨cache.scopes.insert scope (items.erase key)⟩, true)
  else (cache, false)

/-- Forget a scope. -/
def clear (cache : KeyedCache α) (scope : String) : KeyedCache α := ⟨cache.scopes.erase scope⟩

end KeyedCache

/-! ## Lists -/

/-- A list for each scope. -/
structure ListCache (α : Type) where
  scopes : Table (List α)
  deriving DecidableEq, Repr

namespace ListCache

variable {α : Type}

/-- The list of a scope. -/
def get (cache : ListCache α) (scope : String) : List α := (cache.scopes.find? scope).getD []

/-- Replace the list of a scope, unless the same list is there.  A scope that
was never written differs from every list. -/
def replace (encode : α → Json) (cache : ListCache α) (scope : String) (items : List α) :
    ListCache α × Bool :=
  let asValue := fun (items : List α) => Json.array (items.map encode)
  if (cache.scopes.find? scope).any fun held => (asValue held).same (asValue items) then
    (cache, false)
  else (⟨cache.scopes.insert scope items⟩, true)

/-- Forget a scope. -/
def clear (cache : ListCache α) (scope : String) : ListCache α := ⟨cache.scopes.erase scope⟩

end ListCache

/-! ## All caches -/

/-- Resources, queues, tasks, schedules and drafts of sessions, and the
communications of legions. -/
structure EntityStore where
  resources : KeyedCache Resource
  queue : ListCache QueueItem
  tasks : ListCache TaskItem
  schedules : KeyedCache Schedule
  legion : KeyedCache Communication
  drafts : Table String
  deriving DecidableEq, Repr

namespace EntityStore

/-- Nothing is held. -/
def empty : EntityStore :=
  { resources := ⟨{}⟩, queue := ⟨{}⟩, tasks := ⟨{}⟩, schedules := ⟨{}⟩, legion := ⟨{}⟩,
    drafts := {} }

/-- Register a resource; whether anything changed comes second, as for every
change below. -/
def registerResource (store : EntityStore) (sessionId : String) (resource : Resource) :
    EntityStore × Bool :=
  let (resources, changed) :=
    store.resources.upsert Resource.encode sessionId resource.resourceId resource
  ({ store with resources }, changed)

/-- Remove a resource. -/
def removeResource (store : EntityStore) (sessionId resourceId : String) : EntityStore × Bool :=
  let (resources, changed) := store.resources.remove sessionId resourceId
  ({ store with resources }, changed)

/-- Replace a session's queue; it is kept in the order of the positions. -/
def replaceQueue (store : EntityStore) (sessionId : String) (items : List QueueItem) :
    EntityStore × Bool :=
  let (queue, changed) := store.queue.replace QueueItem.encode sessionId
    (sortByKey (fun item => item.position) items)
  ({ store with queue }, changed)

/-- Replace a session's tasks. -/
def replaceTasks (store : EntityStore) (sessionId : String) (items : List TaskItem) :
    EntityStore × Bool :=
  let (tasks, changed) := store.tasks.replace TaskItem.encode sessionId items
  ({ store with tasks }, changed)

/-- Write a schedule. -/
def upsertSchedule (store : EntityStore) (sessionId : String) (schedule : Schedule) :
    EntityStore × Bool :=
  let (schedules, changed) :=
    store.schedules.upsert Schedule.encode sessionId schedule.scheduleId schedule
  ({ store with schedules }, changed)

/-- Remove a schedule. -/
def removeSchedule (store : EntityStore) (sessionId scheduleId : String) : EntityStore × Bool :=
  let (schedules, changed) := store.schedules.remove sessionId scheduleId
  ({ store with schedules }, changed)

/-- Take in a communication of a legion. -/
def addCommunication (store : EntityStore) (communication : Communication) : EntityStore × Bool :=
  let (legion, changed) := store.legion.upsert Communication.encode communication.legionId
    communication.commId communication
  ({ store with legion }, changed)

/-- The communications of a legion by their milliseconds; those of one
millisecond by id. -/
def timeline (store : EntityStore) (legionId : String) : List Communication :=
  sortByKey (fun communication => communication.timestamp.millis) (store.legion.get legionId).values

/-- Forget everything of a session. -/
def forgetSession (store : EntityStore) (sessionId : String) : EntityStore :=
  { store with
    resources := store.resources.clear sessionId
    queue := store.queue.clear sessionId
    tasks := store.tasks.clear sessionId
    schedules := store.schedules.clear sessionId
    drafts := store.drafts.erase sessionId }

/-! ## Drafts -/

/-- Keep what is being written to a session; nothing written is no draft. -/
def setDraft (store : EntityStore) (sessionId text : String) : EntityStore :=
  { store with
    drafts := if text.isEmpty then store.drafts.erase sessionId
      else store.drafts.insert sessionId text }

/-- What is being written to a session. -/
def draft? (store : EntityStore) (sessionId : String) : Option String :=
  store.drafts.find? sessionId

/-- Take the draft of a session away; it comes second. -/
def takeDraft (store : EntityStore) (sessionId : String) : EntityStore × Option String :=
  ({ store with drafts := store.drafts.erase sessionId }, store.draft? sessionId)

end EntityStore

end SessionSync
