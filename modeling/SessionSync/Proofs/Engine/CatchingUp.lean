import SessionSync.Proofs.Engine.GapFilling
import SessionSync.Proofs.Log.Merging

/-!
# Catching up with a backend

A client holds the beginning of the log that a backend has for a session.  It asks for a
page that goes back behind the end of what it holds by the overlap, and forward by the
window.  Where nothing else happens until the page arrives, the client then holds the log
up to the end of the page (`Config.reach`), however window and overlap are chosen: a page
may end before what is held, but it never begins behind it.

A window wider than the overlap brings at least one message of those that are lacking, so
the client has caught up after as many rounds as there are (`catches_up`).
-/

set_option autoImplicit false

namespace SessionSync

/-- A backend serves a log in pages: the messages after an offset, up to a limit, and a mark
where messages remain. -/
def ServesPages (logged : List Message) (serve : Nat → Nat → Backend.Page) : Prop :=
  ∀ limit offset, (serve limit offset).messages = (logged.drop offset).take limit ∧
    (offset + limit < logged.length → (serve limit offset).hasMore = true)

/-- How many messages of a log are held after a page, if that many were held before. -/
def Config.reach (config : Config) (total held : Nat) : Nat :=
  max held (min total (held - config.syncOverlap + config.syncWindow))

namespace Config

variable {config : Config} {total held : Nat}

theorem reach_le (within : held ≤ total) : config.reach total held ≤ total := by
  unfold reach
  omega

/-- A window that is wider than the overlap brings something where something is lacking. -/
theorem lt_reach (wider : config.syncOverlap < config.syncWindow) (lacking : held < total) :
    held < config.reach total held := by
  unfold reach
  omega

end Config

/-! ## One page -/

/-- **A page that overlaps the end of a log** brings it to where the page ends, and brings
as much as it reports. -/
theorem MessageStore.messages_mergeSync {store : MessageStore} (coherent : store.Coherent)
    {sessionId : String} {logged : List Message} (distinct : (Log.idsOf logged).Nodup)
    (increasing : logged.Pairwise fun earlier later => earlier.millis < later.millis)
    (held : store.messages sessionId <+: logged) {serve : Nat → Nat → Backend.Page}
    (serves : ServesPages logged serve) (config : Config) :
    let before := store.size sessionId
    let page := serve config.syncWindow (before - config.syncOverlap)
    let merged := store.mergeSync sessionId page.messages page.hasMore
    let reached := config.reach logged.length before
    merged.1.messages sessionId = logged.take reached ∧ merged.2.synced = reached - before ∧
      (page.hasMore = false → reached = logged.length) := by
  intro before page merged reached
  obtain ⟨served, more⟩ := serves config.syncWindow (before - config.syncOverlap)
  obtain ⟨rest, rfl⟩ := held
  rw [messages_eq] at distinct increasing served
  have size : before = (store.log sessionId).messages.length := by
    rw [← messages_eq]
    rfl
  have within : before - config.syncOverlap ≤ (store.log sessionId).messages.length := by omega
  have total : (store.messages sessionId ++ rest).length = before + rest.length :=
    List.length_append
  refine ⟨?messages, ?synced, fun last => ?complete⟩
  case messages =>
    have farther : reached = max before (min (before + rest.length)
        (before - config.syncOverlap + config.syncWindow)) := by
      rw [← total]
      rfl
    rw [messages_eq, messages_eq, log_mergeSync, served,
      Log.messages_merge_window (coherent sessionId) distinct increasing within, ← size]
    apply List.take_eq_take_iff.2
    rw [List.length_append, ← size]
    omega
  case synced =>
    show (Log.merge (store.log sessionId) page.messages).2 = _
    rw [served, Log.snd_merge (coherent sessionId),
      Log.news_window (coherent sessionId) distinct increasing within, List.length_take, ← size]
    show _ = config.reach (store.messages sessionId ++ rest).length before - before
    rw [total]
    unfold Config.reach
    omega
  case complete =>
    have nothing : ¬ before - config.syncOverlap + config.syncWindow <
        (store.messages sessionId ++ rest).length := fun remain =>
      Bool.false_ne_true (last.symm.trans (more remain))
    show config.reach (store.messages sessionId ++ rest).length before = _
    unfold Config.reach
    omega

namespace Engine

/-- A page for the current connection is merged, and reported to all and to whoever asked. -/
theorem step_syncFetched (engine : Engine) {sessionId : String} {generation : Nat}
    (running : engine.running = true)
    (current : engine.syncIsCurrent sessionId generation = true) (asker : Option Caller)
    (page : Backend.Page) :
    let merged := engine.messages.mergeSync sessionId page.messages page.hasMore
    let report : SyncReport :=
      { synced := merged.2.synced, truncated := page.hasMore, error := none }
    let outcome := engine.step (.syncFetched asker sessionId generation (.ok page))
    outcome.1 = { engine with syncing := false, messages := merged.1 } ∧
      .publish (.syncCompleted sessionId report) ∈ outcome.2 ∧
      ∀ caller ∈ asker, .answer caller (.synced report) ∈ outcome.2 := by
  intro merged report outcome
  have applied : outcome = engine.handle (.syncFetched asker sessionId generation (.ok page)) :=
    if_pos running
  rw [applied]
  unfold handle applySync
  dsimp only
  rw [current, if_pos rfl]
  refine ⟨rfl, ?_, fun caller asked => ?_⟩
  · simp [report, merged, MessageStore.mergeSync]
  · simp [report, merged, MessageStore.mergeSync, Option.mem_def.1 asked]

/-! ## Rounds -/

/-- One round: a caller asks for the gap of a session to be filled, and the backend serves
the page that is then asked for. -/
def afterRound (serve : Nat → Nat → Backend.Page) (caller : Caller) (sessionId : String)
    (engine : Engine) : Engine :=
  let asked := engine.step (.command caller (.syncMessages sessionId))
  asked.2.foldl (fun engine effect =>
    match effect with
    | .begin (.sync asker fetched generation limit offset) =>
        engine.afterPage fetched generation asker (serve limit offset)
    | _ => engine) asked.1

/-- Rounds one after another. -/
def afterRounds (serve : Nat → Nat → Backend.Page) (caller : Caller) (sessionId : String) :
    Nat → Engine → Engine
  | 0, engine => engine
  | rounds + 1, engine =>
      afterRounds serve caller sessionId rounds (engine.afterRound serve caller sessionId)

section Rounds

variable {config : Config} {engine : Engine} {sessionId : String} {logged : List Message}
  {serve : Nat → Nat → Backend.Page}

/-- **One round** merges the page behind the overlap, and leaves the connection. -/
theorem afterRound_eq (serve : Nat → Nat → Backend.Page) (running : engine.running = true)
    (target : engine.sessionSlot.target? = some (.session sessionId)) (caller : Caller) :
    let page := serve engine.config.syncWindow
      (engine.messages.size sessionId - engine.config.syncOverlap)
    engine.afterRound serve caller sessionId =
      { engine with
        syncing := false
        messages := (engine.messages.mergeSync sessionId page.messages page.hasMore).1 } := by
  intro page
  let started : Engine := { engine with syncing := true }
  have asked : engine.step (.command caller (.syncMessages sessionId)) =
      engine.startSync (some caller) sessionId engine.sessionSlot.generation := by
    have handled : engine.step (.command caller (.syncMessages sessionId)) =
        engine.onCommand caller (.syncMessages sessionId) := if_pos running
    rw [handled]
    exact if_pos target
  have current : started.syncIsCurrent sessionId engine.sessionSlot.generation = true := by
    have holds : started.sessionSlot.target? = some (.session sessionId) := target
    unfold syncIsCurrent
    rw [holds]
    simp [started, sessionSlot]
  unfold afterRound
  rw [asked]
  exact (step_syncFetched started running current (some caller) page).1

/-- **Rounds catch up**: each brings at least one of the messages that are lacking. -/
theorem messages_afterRounds (coherent : engine.messages.Coherent)
    (running : engine.running = true)
    (target : engine.sessionSlot.target? = some (.session sessionId))
    (wider : engine.config.syncOverlap < engine.config.syncWindow)
    (distinct : (Log.idsOf logged).Nodup)
    (increasing : logged.Pairwise fun earlier later => earlier.millis < later.millis)
    (serves : ServesPages logged serve)
    (held : engine.messages.messages sessionId <+: logged) (caller : Caller) {rounds : Nat}
    (enough : logged.length ≤ engine.messages.size sessionId + rounds) :
    (engine.afterRounds serve caller sessionId rounds).messages.messages sessionId = logged := by
  induction rounds generalizing engine with
  | zero => exact held.eq_of_length_le enough
  | succ rounds ih =>
      obtain ⟨longer, -, -⟩ :=
        MessageStore.messages_mergeSync coherent distinct increasing held serves engine.config
      have round := afterRound_eq serve running target caller
      have within : engine.messages.size sessionId ≤ logged.length := held.length_le
      have after : (engine.afterRound serve caller sessionId).messages.messages sessionId =
          logged.take (engine.config.reach logged.length (engine.messages.size sessionId)) := by
        rw [round]
        exact longer
      have size : (engine.afterRound serve caller sessionId).messages.size sessionId =
          engine.config.reach logged.length (engine.messages.size sessionId) := by
        unfold MessageStore.size
        rw [after, List.length_take]
        exact Nat.min_eq_left (Config.reach_le within)
      apply ih
      · rw [round]
        exact MessageStore.coherent_after coherent (.mergeSync _ _ false)
      · rw [round]
        exact running
      · rw [round]
        exact target
      · rw [round]
        exact wider
      · rw [after]
        exact List.take_prefix _ _
      · rw [size]
        by_cases lacking : engine.messages.size sessionId < logged.length
        · have more := Config.lt_reach wider lacking
          omega
        · have kept : engine.messages.size sessionId ≤
              engine.config.reach logged.length (engine.messages.size sessionId) :=
            Nat.le_max_left _ _
          omega

end Rounds

/-! ## No hole -/

/-- **Filling a gap leaves no hole.**  A backend has a log for a session, whose ids are
distinct and whose times increase, and serves it in pages.  A reachable engine holds the
beginning of that log.  If a step of it asks for a page, and the page is the next thing to
arrive, then the log is held up to where the page ends, or as far as before if that is
farther; the report says how many messages have come, and says that none remain only if all
are held.  And if the window is wider than the overlap, an engine that runs and holds the
session's connection has the whole log after as many rounds as messages were lacking. -/
theorem catches_up {config : Config} {engine : Engine} {sessionId : String}
    {logged : List Message} {serve : Nat → Nat → Backend.Page}
    (reachable : Reachable config engine) (distinct : (Log.idsOf logged).Nodup)
    (increasing : logged.Pairwise fun earlier later => earlier.millis < later.millis)
    (serves : ServesPages logged serve)
    (held : engine.messages.messages sessionId <+: logged) :
    let before := engine.messages.size sessionId
    let reached := engine.config.reach logged.length before
    (∀ input asker generation limit offset,
      .begin (.sync asker sessionId generation limit offset) ∈ (engine.step input).2 →
      let page := serve limit offset
      let outcome :=
        (engine.step input).1.step (.syncFetched asker sessionId generation (.ok page))
      let report : SyncReport :=
        { synced := reached - before, truncated := page.hasMore, error := none }
      outcome.1.messages.messages sessionId = logged.take reached ∧
      .publish (.syncCompleted sessionId report) ∈ outcome.2 ∧
      (∀ caller ∈ asker, .answer caller (.synced report) ∈ outcome.2) ∧
      (report.truncated = false → outcome.1.messages.messages sessionId = logged)) ∧
    (engine.running = true → engine.sessionSlot.target? = some (.session sessionId) →
      engine.config.syncOverlap < engine.config.syncWindow →
      ∀ caller rounds, logged.length - before ≤ rounds →
        (engine.afterRounds serve caller sessionId rounds).messages.messages sessionId =
          logged) := by
  intro before reached
  have coherent := reachable.coherent
  constructor
  · intro input asker generation limit offset begun page outcome report
    obtain ⟨running, current, started⟩ := startSync_of_step begun
    obtain ⟨rfl, rfl⟩ := window_of_step begun
    obtain ⟨longer, synced, complete⟩ :=
      MessageStore.messages_mergeSync coherent distinct increasing held serves engine.config
    have asked : (engine.step input).1 = { engine with syncing := true } :=
      congrArg Prod.fst started
    obtain ⟨merged, published, answered⟩ :=
      step_syncFetched { engine with syncing := true } running current asker page
    dsimp only at published answered
    rw [synced, ← asked] at published answered
    have after : outcome.1.messages =
        (engine.messages.mergeSync sessionId page.messages page.hasMore).1 := by
      show ((engine.step input).1.step _).1.messages = _
      rw [asked, merged]
    have messages : outcome.1.messages.messages sessionId = logged.take reached :=
      after ▸ longer
    refine ⟨messages, published, answered, fun last => ?_⟩
    rw [messages, show reached = logged.length from complete last, List.take_length]
  · intro running target wider caller rounds enough
    exact messages_afterRounds coherent running target wider distinct increasing serves held
      caller (by omega)

/-- The pages of a log. -/
def pagesOf (logged : List Message) (limit offset : Nat) : Backend.Page :=
  { messages := (logged.drop offset).take limit
    totalCount := logged.length
    hasMore := offset + limit < logged.length }

theorem servesPages_pagesOf (logged : List Message) : ServesPages logged (pagesOf logged) :=
  fun _ _ => ⟨rfl, decide_eq_true⟩

/-- An engine that follows a session with one message and asks for two at a time. -/
def following : Engine :=
  let selected :=
    ((Engine.new { syncWindow := 2, syncOverlap := 1 }).step (.command 0 (.selectSession "s"))).1
  (selected.step (.selection 1 (.history (pageOf [("1", 100000000000)])))).1

theorem reachable_following :
    Reachable { syncWindow := 2, syncOverlap := 1 } following :=
  (Reachable.new.step (.command 0 (.selectSession "s"))).step
    (.selection 1 (.history (pageOf [("1", 100000000000)])))

/-- Of three messages that are lacking each round brings one: the page has the last message
that is held and the one after it. -/
theorem catches_up_of_following :
    let logged := (pageOf [("1", 100000000000), ("2", 200000000000), ("3", 300000000000),
      ("4", 400000000000)]).messages
    let input : Input := .command 7 (.syncMessages "s")
    let page := pagesOf logged 2 0
    let outcome := (following.step input).1.step (.syncFetched (some 7) "s" 3 (.ok page))
    Reachable { syncWindow := 2, syncOverlap := 1 } following ∧
      outcome.1.messages.messages "s" = logged.take 2 ∧
      .answer 7 (.synced { synced := 1, truncated := true, error := none }) ∈ outcome.2 ∧
      (following.afterRounds (pagesOf logged) 7 "s" 3).messages.messages "s" = logged := by
  intro logged input
  have distinct : (Log.idsOf logged).Nodup := by decide +kernel
  have increasing : logged.Pairwise fun earlier later => earlier.millis < later.millis := by
    decide +kernel
  have held : following.messages.messages "s" <+: logged := by decide +kernel
  have begun : .begin (.sync (some 7) "s" 3 2 0) ∈ (following.step input).2 := by decide +kernel
  obtain ⟨once, often⟩ :=
    catches_up reachable_following distinct increasing (servesPages_pagesOf logged) held
  obtain ⟨longer, -, answered, -⟩ := once input (some 7) 3 2 0 begun
  have size : following.messages.size "s" = 1 := by decide +kernel
  have far : following.config.reach logged.length 1 = 2 := by decide +kernel
  have remain : (pagesOf logged 2 0).hasMore = true := by decide +kernel
  have told := answered 7 rfl
  rw [size, far] at longer
  rw [size, far, remain] at told
  exact ⟨reachable_following, longer, told,
    often (by decide +kernel) (by decide +kernel) (by decide +kernel) 7 3 (by decide +kernel)⟩

end Engine

end SessionSync
