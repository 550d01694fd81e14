import Mathlib.Data.Prod.Lex
import Mathlib.Data.String.Basic
import SessionSync.Proofs.Latest
import SessionSync.Proofs.Sorting
import SessionSync.Proofs.Table
import SessionSync.Proofs.Text.Bytes
import SessionSync.SessionStore

/-!
# The list of sessions

The list is kept beside the records, so it could be behind them, hold a session twice, or
depend on the way on which the records came.  It does not.  Every change keeps each record
under its own id and leaves the list sorted anew (`inOrder_after`), so after any run of changes the
list is the one strictly ascending list of the latest record of each session
(`list_canonical`).

What the latest record of a session is can be read off the changes one after another, without
the records of other sessions (`SessionChange.record`).
-/

set_option autoImplicit false

namespace SessionSync

/-! ## Changes of the records -/

/-- Something that happens to the records of the sessions, or to the focus. -/
inductive SessionChange where
  | replaceAll (sessions : List Session)
  | upsert (session : Session)
  | remove (sessionId : String)
  | changeState (sessionId : String) (change : StateChange)
  | setCurrent (sessionId : Option String)

/-- What a change makes of the record of one session. -/
def SessionChange.record (sessionId : String) (held : Option Session) :
    SessionChange → Option Session
  | .replaceAll sessions =>
      latest? (fun session => if session.sessionId = sessionId then some session else none) sessions
  | .upsert session => if session.sessionId = sessionId then some session else held
  | .remove removed => if removed = sessionId then none else held
  | .changeState addressed change =>
      match change.session with
      | some session =>
          if session.sessionId = sessionId then
            some { session with
              state := change.state
              errorMessage := change.errorMessage.or session.errorMessage }
          else held
      | none =>
          if addressed = sessionId then
            held.map fun session => { session with
              state := change.state
              errorMessage := change.errorMessage
              mode := change.mode.getD session.mode }
          else held
  | .setCurrent _ => held

/-- The latest record of a session after a run of changes. -/
def latestRecord (changes : List SessionChange) (sessionId : String) : Option Session :=
  changes.foldl (SessionChange.record sessionId) none

namespace SessionStore

/-- The store after a change. -/
def after (store : SessionStore) : SessionChange → SessionStore
  | .replaceAll sessions => store.replaceAll sessions
  | .upsert session => (store.upsert session).1
  | .remove sessionId => (store.remove sessionId).1
  | .changeState sessionId change => (store.applyStateChange sessionId change).1
  | .setCurrent sessionId => store.setCurrent sessionId

/-- The store after a run of changes. -/
def run (store : SessionStore) (changes : List SessionChange) : SessionStore :=
  changes.foldl after store

theorem run_concat (store : SessionStore) (changes : List SessionChange) (last : SessionChange) :
    store.run (changes ++ [last]) = (store.run changes).after last := by
  rw [run, List.foldl_append]
  rfl

/-! ## One record -/

theorem find?_ofSessions (sessions : List Session) (sessionId : String) :
    (Table.ofList (sessions.map fun session => (session.sessionId, session))).find? sessionId =
      latest? (fun session => if session.sessionId = sessionId then some session else none)
        sessions := by
  rw [Table.find?_ofList]
  induction sessions using List.reverseRecOn with
  | nil => rfl
  | append_singleton rest last ih =>
      rw [List.map_append, List.reverse_append, latest?_concat, ← ih]
      simp only [List.map_cons, List.map_nil, List.reverse_cons, List.reverse_nil, List.nil_append,
        List.singleton_append, valueAt?, eq_comm]
      split <;> rfl

theorem session?_insert (store : SessionStore) (sessionId : String) (session : Session)
    (probe : String) :
    (relist { store with sessions := store.sessions.insert sessionId session }).session? probe =
      if sessionId = probe then some session else store.session? probe := by
  refine (Table.find?_insert store.sessions sessionId session probe).trans ?_
  simp only [eq_comm]
  rfl

theorem session?_remove (store : SessionStore) (sessionId probe : String) :
    (store.remove sessionId).1.session? probe =
      if sessionId = probe then none else store.session? probe := by
  unfold remove
  cases held : store.session? sessionId with
  | none =>
      dsimp only
      split
      · rename_i here
        rw [← here, held]
      · rfl
  | some session =>
      refine (Table.find?_erase store.sessions sessionId probe).trans ?_
      simp only [eq_comm]
      rfl

/-- A change of state that brings no record changes the one of the session that it is
addressed to. -/
theorem session?_applyStateChange_of_plain (store : SessionStore) (addressed : String)
    {change : StateChange} (plain : change.session = none) (probe : String) :
    (store.applyStateChange addressed change).1.session? probe =
      SessionChange.record probe (store.session? probe) (.changeState addressed change) := by
  simp only [applyStateChange, SessionChange.record, plain]
  cases held : store.session? addressed with
  | none =>
      dsimp only
      split
      · rename_i here
        rw [← here, held]
        rfl
      · rfl
  | some session =>
      refine (store.session?_insert addressed _ probe).trans ?_
      split
      · rename_i here
        rw [← here, held]
        rfl
      · rfl

/-- **One record.**  What a change makes of the record of a session depends on that record
alone. -/
theorem session?_after (store : SessionStore) (change : SessionChange) (probe : String) :
    (store.after change).session? probe = change.record probe (store.session? probe) := by
  cases change with
  | replaceAll sessions => exact find?_ofSessions sessions probe
  | upsert session => exact store.session?_insert session.sessionId session probe
  | remove sessionId => exact store.session?_remove sessionId probe
  | changeState addressed change =>
      cases brought : change.session with
      | none => exact store.session?_applyStateChange_of_plain addressed brought probe
      | some session =>
          simp only [after, applyStateChange, SessionChange.record, brought]
          exact store.session?_insert session.sessionId _ probe
  | setCurrent sessionId => rfl

theorem session?_run (changes : List SessionChange) (sessionId : String) :
    (empty.run changes).session? sessionId = latestRecord changes sessionId := by
  induction changes using List.reverseRecOn with
  | nil => rfl
  | append_singleton changes last ih =>
      rw [run_concat, session?_after, ih, latestRecord, latestRecord, List.foldl_append]
      rfl

/-! ## The order of the list -/

/-- **Before in the list**: by order number, then by the bytes of the name, then by the bytes of
the id. -/
def Precedes (left right : Session) : Prop :=
  left.order < right.order ∨ left.order = right.order ∧
    (Text.bytes left.name < Text.bytes right.name ∨ left.name = right.name ∧
      Text.bytes left.sessionId < Text.bytes right.sessionId)

/-- What sessions are sorted by. -/
def rank (session : Session) : Int ×ₗ String ×ₗ String :=
  toLex (session.order, toLex (session.name, session.sessionId))

theorem precedes_iff {left right : Session} : Precedes left right ↔ rank left < rank right := by
  simp only [Precedes, rank, Prod.Lex.toLex_lt_toLex, Text.bytes_lt_bytes]

theorem listedBefore_iff {left right : Session} :
    listedBefore left right = true ↔ rank left ≤ rank right := by
  unfold listedBefore rank
  rw [Prod.Lex.toLex_le_toLex, Prod.Lex.toLex_le_toLex]
  by_cases order : left.order = right.order
  · by_cases name : left.name = right.name
    · simp [order, name, -String.lt_iff_ltb]
    · simp [order, name]
  · simp [order]

theorem rank_injective {left right : Session} (same : rank left = rank right) :
    left.sessionId = right.sessionId :=
  congrArg (fun rank : Int ×ₗ String ×ₗ String => (ofLex (ofLex rank).2).2) same

theorem ne_of_precedes {left right : Session} (before : Precedes left right) : left ≠ right := by
  rintro rfl
  exact lt_irrefl _ (precedes_iff.1 before)

/-- Two strictly ascending lists of the same sessions are equal. -/
theorem eq_of_pairwise_precedes {left right : List Session} (ascending : left.Pairwise Precedes)
    (ascending' : right.Pairwise Precedes) (same : ∀ session, session ∈ left ↔ session ∈ right) :
    left = right := by
  refine List.Perm.eq_of_pairwise ?_ ascending ascending' <| (List.perm_ext_iff_of_nodup
    (ascending.imp ne_of_precedes) (ascending'.imp ne_of_precedes)).2 same
  intro first second _ _ before after
  exact absurd (precedes_iff.1 after) (lt_asymm (precedes_iff.1 before))

/-! ## The list and the records -/

/-- Every record is kept under its own id, and the list is up to date. -/
structure InOrder (store : SessionStore) : Prop where
  filed : ∀ {sessionId session}, store.session? sessionId = some session →
    session.sessionId = sessionId
  listed : store.list = sortBy listedBefore store.sessions.values

/-- A change leaves the record of a session under its own id. -/
theorem sessionId_record {sessionId : String} {held : Option Session} {change : SessionChange}
    {session : Session} (filed : ∀ session, held = some session → session.sessionId = sessionId)
    (recorded : change.record sessionId held = some session) : session.sessionId = sessionId := by
  unfold SessionChange.record at recorded
  cases change with
  | replaceAll sessions =>
      obtain ⟨given, -, found⟩ := List.exists_of_findSome?_eq_some recorded
      split at found
      · rename_i here
        cases found
        exact here
      · cases found
  | upsert given =>
      dsimp only at recorded
      split at recorded
      · rename_i here
        cases recorded
        exact here
      · exact filed session recorded
  | remove removed =>
      dsimp only at recorded
      split at recorded
      · cases recorded
      · exact filed session recorded
  | changeState addressed change =>
      dsimp only at recorded
      split at recorded
      · split at recorded
        · rename_i here
          cases recorded
          exact here
        · exact filed session recorded
      · split at recorded
        · obtain ⟨before, was, rfl⟩ := Option.map_eq_some_iff.1 recorded
          exact filed before was
        · exact filed session recorded
  | setCurrent current => exact filed session recorded

/-- The list is brought up to date by every change of the records. -/
theorem listed_after {store : SessionStore}
    (listed : store.list = sortBy listedBefore store.sessions.values) (change : SessionChange) :
    (store.after change).list = sortBy listedBefore (store.after change).sessions.values := by
  unfold after
  cases change with
  | remove sessionId =>
      dsimp only [remove]
      split
      · exact listed
      · rfl
  | changeState addressed change =>
      dsimp only [applyStateChange]
      split
      · rfl
      · split
        · exact listed
        · rfl
  | replaceAll _ | upsert _ => rfl
  | setCurrent _ => exact listed

theorem inOrder_after {store : SessionStore} (inOrder : store.InOrder) (change : SessionChange) :
    (store.after change).InOrder := by
  refine ⟨fun {sessionId session} recorded => ?_, listed_after inOrder.listed change⟩
  rw [session?_after] at recorded
  exact sessionId_record (fun _ held => inOrder.filed held) recorded

theorem inOrder_run (changes : List SessionChange) : (empty.run changes).InOrder := by
  induction changes using List.reverseRecOn with
  | nil => exact ⟨nofun, rfl⟩
  | append_singleton changes last ih =>
      rw [run_concat]
      exact inOrder_after ih last

namespace InOrder

variable {store : SessionStore} (inOrder : store.InOrder)
include inOrder

theorem mem_list {session : Session} :
    session ∈ store.list ↔ store.session? session.sessionId = some session := by
  rw [inOrder.listed, mem_sortBy, Table.values, List.mem_map]
  constructor
  · rintro ⟨⟨key, held⟩, member, rfl⟩
    have found : store.session? key = some held := Table.mem_entries_iff.1 member
    rwa [inOrder.filed found]
  · intro found
    exact ⟨_, Table.mem_entries_iff.2 found, rfl⟩

theorem session?_eq_some_iff {sessionId : String} {session : Session} :
    store.session? sessionId = some session ↔
      session ∈ store.list ∧ session.sessionId = sessionId := by
  constructor
  · intro found
    have filed := inOrder.filed found
    subst filed
    exact ⟨inOrder.mem_list.2 found, rfl⟩
  · rintro ⟨listed, rfl⟩
    exact inOrder.mem_list.1 listed

theorem nodup_ids : (store.list.map Session.sessionId).Nodup := by
  have ids : store.sessions.values.map Session.sessionId = store.sessions.keys := by
    rw [Table.values, Table.keys, List.map_map]
    refine List.map_congr_left fun entry member => ?_
    exact inOrder.filed (Table.mem_entries_iff.1 member)
  rw [inOrder.listed, ((sortBy_perm _ _).map _).nodup_iff, ids]
  exact store.sessions.nodup_keys

theorem pairwise_precedes : store.list.Pairwise Precedes := by
  have sorted : store.list.Pairwise fun left right => rank left ≤ rank right := by
    rw [inOrder.listed]
    refine (pairwise_sortBy ?_ ?_ _).imp listedBefore_iff.1
    · intro first second third front back
      exact listedBefore_iff.2 ((listedBefore_iff.1 front).trans (listedBefore_iff.1 back))
    · intro left right
      rw [Bool.or_eq_true, listedBefore_iff, listedBefore_iff]
      exact le_total _ _
  have distinct := List.pairwise_map.1 inOrder.nodup_ids
  refine (sorted.and distinct).imp fun {left right} both => ?_
  exact precedes_iff.2 (lt_of_le_of_ne both.1 fun same => both.2 (rank_injective same))

end InOrder

/-- **The list.**  After any run of changes, the list is the one list of the latest record of
each session that ascends strictly in order number, name and id; each session stands in it
once.  So two runs end with the same list exactly if they end with the same records.  The
session in focus is in the list, or its record is none. -/
theorem list_canonical (changes : List SessionChange) :
    let store := empty.run changes
    (∀ sessions, store.list = sessions ↔ sessions.Pairwise Precedes ∧
      ∀ session, session ∈ sessions ↔
        latestRecord changes session.sessionId = some session) ∧
    (store.list.map Session.sessionId).Nodup ∧
    (∀ others, (empty.run others).list = store.list ↔
      ∀ sessionId, (empty.run others).session? sessionId = store.session? sessionId) ∧
    (store.current? = none ∨ ∃ session ∈ store.list, store.current? = some session) := by
  intro store
  have inOrder : store.InOrder := inOrder_run changes
  have records : ∀ session, session ∈ store.list ↔
      latestRecord changes session.sessionId = some session := by
    intro session
    rw [inOrder.mem_list, session?_run]
  refine ⟨?list, inOrder.nodup_ids, ?others, ?current⟩
  case list =>
    intro sessions
    constructor
    · rintro rfl
      exact ⟨inOrder.pairwise_precedes, records⟩
    · rintro ⟨ascending, members⟩
      refine eq_of_pairwise_precedes inOrder.pairwise_precedes ascending fun session => ?_
      rw [records, members]
  case others =>
    intro others
    have otherInOrder := inOrder_run others
    constructor
    · intro same sessionId
      refine Option.ext fun session => ?_
      rw [otherInOrder.session?_eq_some_iff, inOrder.session?_eq_some_iff, same]
    · intro same
      refine eq_of_pairwise_precedes otherInOrder.pairwise_precedes inOrder.pairwise_precedes ?_
      intro session
      rw [otherInOrder.mem_list, inOrder.mem_list, same]
  case current =>
    cases current : store.current? with
    | none => exact Or.inl rfl
    | some session =>
        refine Or.inr ⟨session, ?_, rfl⟩
        obtain ⟨sessionId, -, found⟩ := Option.bind_eq_some_iff.1 current
        rw [inOrder.mem_list, inOrder.filed found]
        exact found

end SessionStore

end SessionSync
