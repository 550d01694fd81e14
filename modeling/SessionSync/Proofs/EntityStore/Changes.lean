import SessionSync.Proofs.EntityStore.Frames
import SessionSync.Proofs.Latest
import SessionSync.Proofs.Sorting

/-!
# What the caches report, and what they hold afterwards

Seven changes of the caches report whether anything has changed; each concerns one cache
and one scope (`CacheWrite`).  Beside them sessions and legions are forgotten and drafts are
kept and taken, and a run is a list of all these in any order (`EntityChange`).

A change does what it is asked for and leaves the rest alone: an item that is written is
held, one that is removed is not, a list is the one that was given, a queue with its items
in the order of their positions (`CacheWrite.Does`).

What it reports is what readers see, with one exception (`write_reports`): the first list of
a session, or the first after the session was forgotten, is reported as a change even if it
is empty, and an empty list is what readers got before.
-/

set_option autoImplicit false

namespace SessionSync

/-! ## Lists that are written the same -/

theorem Json.unsignedZerosElements_eq_map (elements : List Json) :
    Json.unsignedZerosElements elements = elements.map Json.unsignedZeros := by
  induction elements with
  | nil => rfl
  | cons element rest ih => rw [Json.unsignedZerosElements, ih, List.map_cons]

/-- Two lists have the same items, item by item. -/
def SameItems {α : Type} (encode : α → Json) (left right : List α) : Prop :=
  List.Forall₂ (fun item other => (encode item).same (encode other) = true) left right

theorem SameItems.refl {α : Type} (encode : α → Json) (items : List α) :
    SameItems encode items items := List.forall₂_same.2 fun item _ => (encode item).same_refl

theorem sameItems_of_same_array {α : Type} {encode : α → Json} {left right : List α}
    (same : (Json.array (left.map encode)).same (.array (right.map encode)) = true) :
    SameItems encode left right := by
  simp only [Json.same, Json.unsignedZeros, beq_iff_eq, Json.array.injEq,
    Json.unsignedZerosElements_eq_map, List.map_map] at same
  induction left generalizing right with
  | nil =>
      rw [List.map_nil, eq_comm, List.map_eq_nil_iff] at same
      exact same ▸ .nil
  | cons item rest ih =>
      cases right with
      | nil => cases same
      | cons other others =>
          obtain ⟨head, tail⟩ := List.cons.inj same
          exact .cons (beq_iff_eq.2 head) (ih tail)

/-! ## One cache -/

/-- A change of a scope reports whether readers of the scope get something else afterwards,
or it reports a change for another reason, and it does what it is asked for and leaves the
other scopes alone. -/
structure Accounts {κ β : Type} (get : κ → String → β) (cache : κ) (scope : String)
    (other : Prop) (does : β → β → Prop) (outcome : κ × Bool) : Prop where
  reported : outcome.2 = true ↔ get outcome.1 scope ≠ get cache scope ∨ other
  done : does (get cache scope) (get outcome.1 scope)
  elsewhere : ∀ probe ≠ scope, get outcome.1 probe = get cache probe

/-- An item is held under its key, and the other keys hold what they held. -/
structure Holds {α : Type} (encode : α → Json) (key : String) (item : α)
    (before after : Table α) : Prop where
  held : ∃ held, after.find? key = some held ∧ (encode held).same (encode item) = true
  others : ∀ probe ≠ key, after.find? probe = before.find? probe

/-- A key holds nothing, and the other keys hold what they held. -/
structure Lacks {α : Type} (key : String) (before after : Table α) : Prop where
  gone : after.find? key = none
  others : ∀ probe ≠ key, after.find? probe = before.find? probe

section OneCache

variable {α : Type} (encode : α → Json) (scope key : String)

theorem KeyedCache.get_insert (cache : KeyedCache α) (items : Table α) :
    (KeyedCache.mk (cache.scopes.insert scope items)).get scope = items := by
  rw [get, Table.find?_insert_self]
  rfl

theorem KeyedCache.accounts_upsert (cache : KeyedCache α) (item : α) :
    Accounts get cache scope False (fun before after => Holds encode key item before after)
      (cache.upsert encode scope key item) := by
  have elsewhere := (cache.reports_upsert encode scope key item).elsewhere
  refine ⟨?reported, ?done, elsewhere⟩
  case reported =>
    unfold upsert
    cases found : (cache.get scope).find? key with
    | none =>
        have grows : (cache.get scope).insert key item ≠ cache.get scope := by
          intro same
          have absent := (cache.get scope).find?_insert_self key item
          rw [same, found] at absent
          cases absent
        simp [found, KeyedCache.get_insert, grows]
    | some held =>
        cases same : (encode held).same (encode item) with
        | true => simp [found, same]
        | false =>
            have differs : (cache.get scope).insert key item ≠ cache.get scope := by
              intro unchanged
              have here := (cache.get scope).find?_insert_self key item
              rw [unchanged, found] at here
              cases here
              rw [Json.same_refl] at same
              cases same
            simp [found, same, KeyedCache.get_insert, differs]
  case done =>
    unfold upsert
    dsimp only
    split
    · rename_i known
      obtain ⟨held, found, same⟩ := (Option.any_eq_true _ _).1 known
      exact ⟨⟨held, found, same⟩, fun _ _ => rfl⟩
    · rw [KeyedCache.get_insert]
      exact ⟨⟨item, Table.find?_insert_self _ _ _, Json.same_refl _⟩,
        fun probe other => Table.find?_insert_of_ne _ _ other⟩

theorem KeyedCache.accounts_remove (cache : KeyedCache α) :
    Accounts get cache scope False (fun before after => Lacks key before after)
      (cache.remove scope key) := by
  refine ⟨?reported, ?done, (cache.reports_remove scope key).elsewhere⟩
  case reported =>
    unfold remove
    cases known : (cache.get scope).contains key with
    | false => simp [known]
    | true =>
        have shrinks : (cache.get scope).erase key ≠ cache.get scope := by
          intro same
          have erased := (cache.get scope).contains_erase key key
          rw [same, known, bne_self_eq_false] at erased
          cases erased
        simp [known, KeyedCache.get_insert, shrinks]
  case done =>
    unfold remove
    dsimp only
    split
    · rw [KeyedCache.get_insert]
      refine ⟨?_, fun probe other => ?_⟩
      · rw [Table.find?_erase, if_pos rfl]
      · rw [Table.find?_erase, if_neg other]
    · rename_i unknown
      exact ⟨Table.contains_eq_false_iff.1 (eq_false_of_ne_true unknown), fun _ _ => rfl⟩

/-- A list that replaces none is reported as a change, even if it is empty. -/
theorem ListCache.accounts_replace (cache : ListCache α) (items : List α) :
    Accounts get cache scope (items = [] ∧ cache.scopes.contains scope = false)
      (fun _ after => SameItems encode after items) (cache.replace encode scope items) := by
  have get_insert : (ListCache.mk (cache.scopes.insert scope items)).get scope = items := by
    rw [get, Table.find?_insert_self]
    rfl
  refine ⟨?reported, ?done, (cache.reports_replace encode scope items).elsewhere⟩
  case reported =>
    cases found : cache.scopes.find? scope with
    | none =>
        have empty : cache.get scope = [] := by
          rw [get, found]
          rfl
        have unlisted : cache.scopes.contains scope = false := Table.contains_eq_false_iff.2 found
        simp [replace, found, get_insert, empty, unlisted, Classical.em, or_comm]
    | some held =>
        have listed : cache.get scope = held := by
          rw [get, found]
          rfl
        have known : cache.scopes.contains scope = true := Table.contains_of_find? found
        cases same : (Json.array (held.map encode)).same (.array (items.map encode)) with
        | true => simp [replace, found, same, known]
        | false =>
            have differs : items ≠ held := by
              rintro rfl
              rw [Json.same_refl] at same
              cases same
            simp [replace, found, same, get_insert, listed, differs]
  case done =>
    unfold replace
    dsimp only
    split
    · rename_i known
      obtain ⟨held, found, same⟩ := (Option.any_eq_true _ _).1 known
      rw [get, found]
      exact sameItems_of_same_array same
    · rw [get_insert]
      exact SameItems.refl encode items

end OneCache

/-! ## All caches -/

/-- The caches of sessions and legions. -/
inductive CacheKind where
  | resources
  | queue
  | tasks
  | schedules
  | communications
  deriving DecidableEq

/-- What readers get of a cache for one scope. -/
abbrev CacheKind.Contents : CacheKind → Type
  | .resources => Table Resource
  | .queue => List QueueItem
  | .tasks => List TaskItem
  | .schedules => Table Schedule
  | .communications => Table Communication

/-- A change of a cache that reports whether anything has changed. -/
inductive CacheWrite where
  | registerResource (sessionId : String) (resource : Resource)
  | removeResource (sessionId resourceId : String)
  | replaceQueue (sessionId : String) (items : List QueueItem)
  | replaceTasks (sessionId : String) (items : List TaskItem)
  | upsertSchedule (sessionId : String) (schedule : Schedule)
  | removeSchedule (sessionId scheduleId : String)
  | addCommunication (communication : Communication)

namespace CacheWrite

/-- The cache that is changed. -/
def kind : CacheWrite → CacheKind
  | .registerResource .. | .removeResource .. => .resources
  | .replaceQueue .. => .queue
  | .replaceTasks .. => .tasks
  | .upsertSchedule .. | .removeSchedule .. => .schedules
  | .addCommunication .. => .communications

/-- The session or the legion that is concerned. -/
def scope : CacheWrite → String
  | .registerResource sessionId _ | .removeResource sessionId _ | .replaceQueue sessionId _
  | .replaceTasks sessionId _ | .upsertSchedule sessionId _ | .removeSchedule sessionId _ =>
      sessionId
  | .addCommunication communication => communication.legionId

/-- Whether a list is replaced by the empty one. -/
def isEmptyList : CacheWrite → Bool
  | .replaceQueue _ items => items.isEmpty
  | .replaceTasks _ items => items.isEmpty
  | _ => false

end CacheWrite

/-- Everything that happens to the caches and the drafts. -/
inductive EntityChange where
  | write (write : CacheWrite)
  | forgetSession (sessionId : String)
  | forgetLegion (legionId : String)
  | setDraft (sessionId text : String)
  | takeDraft (sessionId : String)

namespace EntityStore

/-- What readers get of a cache for one scope. -/
def read (store : EntityStore) (scope : String) : (kind : CacheKind) → kind.Contents
  | .resources => store.resources.get scope
  | .queue => store.queue.get scope
  | .tasks => store.tasks.get scope
  | .schedules => store.schedules.get scope
  | .communications => store.legion.get scope

/-- The caches after a change, and whether it reports that anything has changed. -/
def write (store : EntityStore) : CacheWrite → EntityStore × Bool
  | .registerResource sessionId resource => store.registerResource sessionId resource
  | .removeResource sessionId resourceId => store.removeResource sessionId resourceId
  | .replaceQueue sessionId items => store.replaceQueue sessionId items
  | .replaceTasks sessionId items => store.replaceTasks sessionId items
  | .upsertSchedule sessionId schedule => store.upsertSchedule sessionId schedule
  | .removeSchedule sessionId scheduleId => store.removeSchedule sessionId scheduleId
  | .addCommunication communication => store.addCommunication communication

/-- The caches and the drafts after a change. -/
def after (store : EntityStore) : EntityChange → EntityStore
  | .write write => (store.write write).1
  | .forgetSession sessionId => store.forgetSession sessionId
  | .forgetLegion legionId => { store with legion := store.legion.clear legionId }
  | .setDraft sessionId text => store.setDraft sessionId text
  | .takeDraft sessionId => (store.takeDraft sessionId).1

/-- The caches and the drafts after a run of changes. -/
def run (store : EntityStore) (changes : List EntityChange) : EntityStore :=
  changes.foldl after store

end EntityStore

/-- **What a change is asked for**, between what readers of its cache and scope got before and
what they get afterwards. -/
def CacheWrite.Does (before after : EntityStore) : CacheWrite → Prop
  | .registerResource sessionId resource =>
      Holds Resource.encode resource.resourceId resource (before.resources.get sessionId)
        (after.resources.get sessionId)
  | .removeResource sessionId resourceId =>
      Lacks resourceId (before.resources.get sessionId) (after.resources.get sessionId)
  | .replaceQueue sessionId items =>
      ∃ sorted, SortedFrom (fun item : QueueItem => item.position) sorted items ∧
        SameItems QueueItem.encode (after.queue.get sessionId) sorted
  | .replaceTasks sessionId items => SameItems TaskItem.encode (after.tasks.get sessionId) items
  | .upsertSchedule sessionId schedule =>
      Holds Schedule.encode schedule.scheduleId schedule (before.schedules.get sessionId)
        (after.schedules.get sessionId)
  | .removeSchedule sessionId scheduleId =>
      Lacks scheduleId (before.schedules.get sessionId) (after.schedules.get sessionId)
  | .addCommunication communication =>
      Holds Communication.encode communication.commId communication
        (before.legion.get communication.legionId) (after.legion.get communication.legionId)

/-! ## Whether a list has been written -/

/-- Whether there is a list for a scope, an empty one included. -/
def EntityStore.hasList (store : EntityStore) (scope : String) : CacheKind → Bool
  | .queue => store.queue.scopes.contains scope
  | .tasks => store.tasks.scopes.contains scope
  | .resources | .schedules | .communications => false

/-- What a change says about whether there is a list for a scope. -/
def EntityChange.lists (kind : CacheKind) (scope : String) : EntityChange → Option Bool
  | .write (.replaceQueue sessionId _) =>
      if kind = .queue ∧ sessionId = scope then some true else none
  | .write (.replaceTasks sessionId _) =>
      if kind = .tasks ∧ sessionId = scope then some true else none
  | .forgetSession sessionId => if sessionId = scope then some false else none
  | _ => none

/-- A list of a scope was written, and the scope was not forgotten since. -/
def Listed (changes : List EntityChange) (kind : CacheKind) (scope : String) : Prop :=
  latest? (EntityChange.lists kind scope) changes = some true

section Lists

variable {α : Type} (encode : α → Json) (cache : ListCache α) (scope probe : String)

/-- Where the same list is there already, there is a list. -/
theorem ListCache.contains_replace (items : List α) :
    (cache.replace encode scope items).1.scopes.contains probe =
      if scope = probe then true else cache.scopes.contains probe := by
  unfold replace
  dsimp only
  split
  · rename_i known
    obtain ⟨held, found, -⟩ := (Option.any_eq_true _ _).1 known
    split
    · rename_i here
      rw [← here, Table.contains_of_find? found]
    · rfl
  · rw [Table.contains_insert]
    by_cases here : scope = probe
    · simp [here]
    · simp [here, Ne.symm here]

theorem ListCache.contains_clear :
    (cache.clear scope).scopes.contains probe =
      if scope = probe then false else cache.scopes.contains probe := by
  rw [clear, Table.contains_erase]
  by_cases here : scope = probe
  · simp [here]
  · simp [here, Ne.symm here]

end Lists

namespace EntityStore

variable (store : EntityStore)

/-- What one change makes of the lists that there are. -/
theorem hasList_after (change : EntityChange) (scope : String) (kind : CacheKind) :
    (store.after change).hasList scope kind =
      (change.lists kind scope).getD (store.hasList scope kind) := by
  cases kind with
  | queue =>
      cases change with
      | write write =>
          cases write with
          | replaceQueue sessionId items =>
              refine (ListCache.contains_replace _ _ _ _ _).trans ?_
              by_cases here : sessionId = scope <;> simp [EntityChange.lists, hasList, here]
          | _ => rfl
      | forgetSession sessionId =>
          refine (ListCache.contains_clear _ _ _).trans ?_
          by_cases here : sessionId = scope <;> simp [EntityChange.lists, hasList, here]
      | _ => rfl
  | tasks =>
      cases change with
      | write write =>
          cases write with
          | replaceTasks sessionId items =>
              refine (ListCache.contains_replace _ _ _ _ _).trans ?_
              by_cases here : sessionId = scope <;> simp [EntityChange.lists, hasList, here]
          | _ => rfl
      | forgetSession sessionId =>
          refine (ListCache.contains_clear _ _ _).trans ?_
          by_cases here : sessionId = scope <;> simp [EntityChange.lists, hasList, here]
      | _ => rfl
  | resources | schedules | communications =>
      cases change with
      | write write => cases write <;> rfl
      | forgetSession sessionId =>
          by_cases here : sessionId = scope <;> simp [EntityChange.lists, hasList, here]
      | _ => rfl

/-- **There is a list** for a scope exactly if one was written and the scope was not forgotten
since. -/
theorem hasList_run (changes : List EntityChange) (scope : String) (kind : CacheKind) :
    (empty.run changes).hasList scope kind = true ↔ Listed changes kind scope := by
  have said : (empty.run changes).hasList scope kind =
      (latest? (EntityChange.lists kind scope) changes).getD false := by
    induction changes using List.reverseRecOn with
    | nil => cases kind <;> rfl
    | append_singleton changes last ih =>
        rw [run, List.foldl_append, List.foldl_cons, List.foldl_nil, hasList_after, latest?_concat,
          ← run, ih]
        cases last.lists kind scope <;> rfl
  unfold Listed
  rw [said]
  cases latest? (EntityChange.lists kind scope) changes <;> simp

/-! ## What a change reports, does, and leaves alone -/

variable (write : CacheWrite)

theorem reported_write :
    (store.write write).2 = true ↔
      (store.write write).1.read write.scope write.kind ≠ store.read write.scope write.kind ∨
        write.isEmptyList = true ∧ store.hasList write.scope write.kind = false := by
  have item : ∀ {seen listed : Prop}, seen ∨ False ↔ seen ∨ false = true ∧ listed := by simp
  cases write with
  | registerResource sessionId resource =>
      exact (store.resources.accounts_upsert _ _ _ resource).reported.trans item
  | removeResource sessionId resourceId =>
      exact (store.resources.accounts_remove _ _).reported.trans item
  | replaceQueue sessionId items =>
      refine (store.queue.accounts_replace _ _ _).reported.trans (or_congr_right ?_)
      have empty : sortByKey (fun item : QueueItem => item.position) items = [] ↔
          items.isEmpty = true := by
        rw [List.isEmpty_iff, ← List.perm_nil, (sortByKey_perm _ items).congr_left, List.perm_nil]
      exact and_congr_left' empty
  | replaceTasks sessionId items =>
      refine (store.tasks.accounts_replace _ _ items).reported.trans (or_congr_right ?_)
      exact and_congr_left' List.isEmpty_iff.symm
  | upsertSchedule sessionId schedule =>
      exact (store.schedules.accounts_upsert _ _ _ schedule).reported.trans item
  | removeSchedule sessionId scheduleId =>
      exact (store.schedules.accounts_remove _ _).reported.trans item
  | addCommunication communication =>
      exact (store.legion.accounts_upsert _ _ _ communication).reported.trans item

theorem does_write : write.Does store (store.write write).1 := by
  cases write with
  | registerResource sessionId resource => exact (store.resources.accounts_upsert _ _ _ _).done
  | removeResource sessionId resourceId => exact (store.resources.accounts_remove _ _).done
  | replaceQueue sessionId items =>
      exact ⟨_, sortedFrom_sortByKey _ items, (store.queue.accounts_replace _ _ _).done⟩
  | replaceTasks sessionId items => exact (store.tasks.accounts_replace _ _ _).done
  | upsertSchedule sessionId schedule => exact (store.schedules.accounts_upsert _ _ _ _).done
  | removeSchedule sessionId scheduleId => exact (store.schedules.accounts_remove _ _).done
  | addCommunication communication => exact (store.legion.accounts_upsert _ _ _ _).done

theorem read_write_of_kind_ne {kind : CacheKind} (other : kind ≠ write.kind) (scope : String) :
    (store.write write).1.read scope kind = store.read scope kind := by
  cases write <;> cases kind <;> first | rfl | exact absurd rfl other

theorem read_write_of_scope_ne {scope : String} (elsewhere : scope ≠ write.scope) :
    (store.write write).1.read scope write.kind = store.read scope write.kind := by
  cases write with
  | registerResource sessionId resource =>
      exact (store.resources.accounts_upsert _ _ _ _).elsewhere scope elsewhere
  | removeResource sessionId resourceId =>
      exact (store.resources.accounts_remove _ _).elsewhere scope elsewhere
  | replaceQueue sessionId items =>
      exact (store.queue.accounts_replace _ _ _).elsewhere scope elsewhere
  | replaceTasks sessionId items =>
      exact (store.tasks.accounts_replace _ _ _).elsewhere scope elsewhere
  | upsertSchedule sessionId schedule =>
      exact (store.schedules.accounts_upsert _ _ _ _).elsewhere scope elsewhere
  | removeSchedule sessionId scheduleId =>
      exact (store.schedules.accounts_remove _ _).elsewhere scope elsewhere
  | addCommunication communication =>
      exact (store.legion.accounts_upsert _ _ _ _).elsewhere scope elsewhere

/-- A change leaves the other caches alone, and the other scopes of its own one. -/
theorem read_write (scope : String) (kind : CacheKind) :
    (store.write write).1.read scope kind = store.read scope kind ∨
      kind = write.kind ∧ scope = write.scope := by
  by_cases other : kind = write.kind
  · subst other
    by_cases elsewhere : scope = write.scope
    · exact Or.inr ⟨rfl, elsewhere⟩
    · exact Or.inl (store.read_write_of_scope_ne write elsewhere)
  · exact Or.inl (store.read_write_of_kind_ne write other scope)

/-- **Reports.**  After any run, a change reports that something has changed exactly if readers
of its cache and scope get something else than before, or if it writes an empty list where no
list was written since the scope was last forgotten.  It does what it is asked for, and leaves
the other scopes, the other caches and the drafts alone. -/
theorem reports_what_is_seen (changes : List EntityChange) (write : CacheWrite) :
    let store := empty.run changes
    let outcome := store.write write
    (outcome.2 = true ↔
      outcome.1.read write.scope write.kind ≠ store.read write.scope write.kind ∨
        write.isEmptyList = true ∧ ¬ Listed changes write.kind write.scope) ∧
    write.Does store outcome.1 ∧
    (∀ scope kind, outcome.1.read scope kind = store.read scope kind ∨
      kind = write.kind ∧ scope = write.scope) ∧
    outcome.1.drafts = store.drafts := by
  intro store outcome
  refine ⟨?reported, store.does_write write, store.read_write write, ?drafts⟩
  case reported =>
    refine (store.reported_write write).trans (or_congr_right (and_congr_right' ?_))
    rw [← hasList_run, Bool.not_eq_true]
  case drafts => cases write <;> rfl

/-- The first list of tasks is reported although readers see none before and none after. -/
example :
    let outcome := empty.write (.replaceTasks "s" [])
    outcome.2 = true ∧ outcome.1.tasks.get "s" = empty.tasks.get "s" := by decide

end EntityStore

end SessionSync
