import SessionSync.Proofs.Latest
import SessionSync.Proofs.Tracker.Changes

/-!
# Events alone, in closed form

An event brings the whole state of a tool use, but not every event brings every part of
it.  What a run of events leaves can be read off the events without the run: every part of
a call is the one that was brought last, and only the text of a denial is the one that
came first (`told?`).

`last_event_wins` says that a tracker that has seen nothing but events is in this closed
form: its calls with their ranks, the links of the requests, and the tool uses that are
unfinished.  The proof rests on one equation for what an event assigns (`assignEvent_eq`)
and goes through the events from their end.
-/

set_option autoImplicit false

namespace SessionSync

/-! ## What an event brings -/

namespace ToolEvent

variable (event : ToolEvent)

/-- The input that an event brings; null brings none. -/
def brought : Option Json := if event.input = .null then none else some event.input

/-- The request that an event speaks of. -/
def asked : Option String := event.permission.map ToolPermission.requestId

/-- The suggestions that an event brings; an empty list brings none. -/
def suggested : Option (List Json) :=
  (event.permission.map ToolPermission.suggestions).filter fun suggestions => !suggestions.isEmpty

/-- The decision that an event brings.  A denial is one, whatever else the event says. -/
def decided : Option Decision :=
  if event.state = .permissionDenied then some .deny
  else event.permission.bind ToolPermission.decision

/-- The outcome that a denial stands for. -/
def denial : Option ToolOutcome :=
  if event.state = .permissionDenied then
    some (Tracker.denialOutcome (event.permission.bind ToolPermission.reasoning))
  else none

/-- The status that an event brings. -/
def status : ToolStatus := ToolStatus.ofState event.state

/-- The tool uses that events name, in the order of their first appearance. -/
def seen (events : List ToolEvent) : List String := (events.map toolId).eraseDups

/-- The events about one tool use. -/
def about (toolId : String) (events : List ToolEvent) : List ToolEvent :=
  events.filter fun event => event.toolId == toolId

/-- An event that brings no input has null for one. -/
theorem getD_brought : event.brought.getD event.input = event.input := by
  unfold brought
  split
  · rfl
  · rfl

end ToolEvent

namespace Tracker

open ToolEvent (seen about)

/-- **What an event assigns**, part by part: what it brings, or else what was there. -/
theorem assignEvent_eq (event : ToolEvent) (call : ToolCall) :
    assignEvent event call =
      { call with
        toolName := event.toolName
        input := event.brought.getD call.input
        status := event.status
        requestId := event.asked.or call.requestId
        decision := event.decided.or call.decision
        suggestions := event.suggested.getD call.suggestions
        outcome := event.outcome.or (call.outcome.or event.denial)
        expanded := !event.status.isTerminal
        orphaned := call.orphaned && event.outcome.isNone
        orphanReason := if event.outcome.isSome then none else call.orphanReason } := by
  unfold assignEvent
  extract_lets status denied asked answered
  have first : asked =
      { call with
        requestId := event.asked.or call.requestId
        decision := (event.permission.bind ToolPermission.decision).or call.decision
        suggestions := event.suggested.getD call.suggestions } := by
    unfold asked ToolEvent.asked ToolEvent.suggested
    cases event.permission with
    | none => rfl
    | some permission => cases given : permission.suggestions <;> simp [Option.filter, given]
  have second : answered =
      { asked with
        outcome := event.outcome.or (asked.outcome.or event.denial)
        orphaned := asked.orphaned && event.outcome.isNone
        orphanReason := if event.outcome.isSome then none else asked.orphanReason } := by
    clear first
    clear_value asked
    unfold answered ToolEvent.denial
    cases event.outcome with
    | some outcome => simp
    | none =>
        by_cases isDenied : event.state = .permissionDenied
        · obtain ⟨held, settled⟩ : ∃ held, asked.outcome = held := ⟨_, rfl⟩
          cases held with
          | none => simp [denied, isDenied, settled]
          | some outcome =>
              have finished : asked = { asked with outcome := some outcome } := by rw [← settled]
              simpa [denied, isDenied, settled] using finished
        · simp [denied, isDenied]
  rw [second, first]
  unfold ToolEvent.brought ToolEvent.decided
  by_cases isNull : event.input = .null <;> by_cases isDenied : event.state = .permissionDenied <;>
    simp [status, denied, isNull, isDenied, ToolEvent.status]

/-! ## The closed form -/

/-- The call that the events about a tool use make, of which the last is given. -/
def summary (sessionId toolId : String) (seq : Nat) (own : List ToolEvent) (last : ToolEvent) :
    ToolCall :=
  { toolId, sessionId
    toolName := last.toolName
    input := (latest? ToolEvent.brought own).getD .null
    status := last.status
    requestId := latest? ToolEvent.asked own
    decision := latest? ToolEvent.decided own
    suggestions := (latest? ToolEvent.suggested own).getD []
    outcome := (latest? ToolEvent.outcome own).or (own.findSome? ToolEvent.denial)
    expanded := !last.status.isTerminal
    orphaned := false
    orphanReason := none
    seq }

/-- The call of a tool use in closed form: there is one if some event names the tool use,
and its rank is that of the tool use's first appearance. -/
def told? (sessionId : String) (events : List ToolEvent) (toolId : String) : Option ToolCall :=
  (about toolId events).getLast?.map
    (summary sessionId toolId ((seen events).idxOf toolId) (about toolId events))

section ClosedForm

variable {sessionId toolId : String} {seq : Nat}

/-- The first event about a tool use makes its call. -/
theorem assignEvent_start (event : ToolEvent) :
    assignEvent event (ToolCall.start sessionId toolId event.toolName event.input seq) =
      summary sessionId toolId seq [event] event := by
  have input : event.brought.getD event.input = event.brought.getD .null := by
    unfold ToolEvent.brought
    split
    · assumption
    · rfl
  rw [assignEvent_eq]
  simp [summary, ToolCall.start, latest?, input]

/-- A further event about a tool use keeps its call in the closed form. -/
theorem assignEvent_summary (own : List ToolEvent) (last event : ToolEvent) :
    assignEvent event (summary sessionId toolId seq own last) =
      summary sessionId toolId seq (own ++ [event]) event := by
  rw [assignEvent_eq]
  simp [summary, latest?_concat, List.findSome?_append, Option.getD_or, Option.or_assoc]

theorem about_concat (events : List ToolEvent) (event : ToolEvent) (toolId : String) :
    about toolId (events ++ [event]) =
      if event.toolId = toolId then about toolId events ++ [event] else about toolId events := by
  by_cases here : event.toolId = toolId
  · simp [about, here]
  · simp [about, here]

theorem seen_concat (events : List ToolEvent) (event : ToolEvent) :
    seen (events ++ [event]) =
      if event.toolId ∈ events.map ToolEvent.toolId then seen events
      else seen events ++ [event.toolId] := by
  unfold seen
  rw [List.map_append]
  exact eraseDups_concat _ event.toolId

theorem about_eq_nil_iff {events : List ToolEvent} :
    about toolId events = [] ↔ toolId ∉ events.map ToolEvent.toolId := by
  simp [about, List.filter_eq_nil_iff]

/-- A tool use has a call in the closed form exactly if some event names it. -/
theorem isSome_told?_iff {events : List ToolEvent} :
    (told? sessionId events toolId).isSome = true ↔ toolId ∈ events.map ToolEvent.toolId := by
  unfold told?
  rw [Option.isSome_map, List.getLast?_isSome, Ne, about_eq_nil_iff, not_not]

theorem known_of_about {events : List ToolEvent} {last : ToolEvent}
    (own : (about toolId events).getLast? = some last) :
    toolId ∈ events.map ToolEvent.toolId := by
  by_contra unknown
  rw [about_eq_nil_iff.2 unknown] at own
  cases own

/-- An event about another tool use leaves a closed form alone. -/
theorem told?_concat_of_ne {event : ToolEvent} (elsewhere : toolId ≠ event.toolId)
    (events : List ToolEvent) :
    told? sessionId (events ++ [event]) toolId = told? sessionId events toolId := by
  unfold told?
  rw [about_concat, if_neg (Ne.symm elsewhere)]
  cases own : (about toolId events).getLast? with
  | none => rfl
  | some last =>
      have rank : (seen (events ++ [event])).idxOf toolId = (seen events).idxOf toolId := by
        unfold seen
        rw [List.map_append]
        exact idxOf_eraseDups_append (known_of_about own) [event.toolId]
      rw [rank]

/-- An event about a tool use takes its closed form on, or begins one. -/
theorem told?_concat_self (events : List ToolEvent) (event : ToolEvent) :
    told? sessionId (events ++ [event]) event.toolId =
      some (assignEvent event ((told? sessionId events event.toolId).getD
        (ToolCall.start sessionId event.toolId event.toolName event.input
          (seen events).length))) := by
  have ids : (events ++ [event]).map ToolEvent.toolId =
      events.map ToolEvent.toolId ++ [event.toolId] := List.map_append
  unfold told?
  rw [about_concat, if_pos rfl, List.getLast?_concat, Option.map_some]
  cases own : (about event.toolId events).getLast? with
  | none =>
      have none : about event.toolId events = [] := List.getLast?_eq_none_iff.1 own
      have rank : (seen (events ++ [event])).idxOf event.toolId = (seen events).length := by
        unfold seen
        rw [ids]
        exact idxOf_eraseDups_concat_self (about_eq_nil_iff.1 none)
      rw [none, rank, Option.map_none, Option.getD_none, assignEvent_start, List.nil_append]
  | some last =>
      have rank : (seen (events ++ [event])).idxOf event.toolId =
          (seen events).idxOf event.toolId := by
        unfold seen
        rw [ids]
        exact idxOf_eraseDups_append (known_of_about own) [event.toolId]
      rw [rank, Option.map_some, Option.getD_some, assignEvent_summary]

end ClosedForm

/-! ## What an event leaves of the rest -/

section Rest

variable (tracker : Tracker) (event : ToolEvent)

theorem ensure_eq (toolId toolName : String) (input : Json) :
    ∃ signatures calls unfinished, tracker.ensure toolId toolName input =
      { tracker with
        signatures, calls, unfinished
        nextSeq := tracker.nextSeq + if (tracker.call? toolId).isSome then 0 else 1 } := by
  cases held : tracker.call? toolId with
  | some call => exact ⟨_, _, _, ensure_of_call held toolName input⟩
  | none =>
      obtain ⟨signatures, created⟩ := ensure_of_new held toolName input
      exact ⟨signatures, _, _, created⟩

/-- Beside calls, index, orphans and the set of the unfinished, an event writes the link of
its request and counts a tool use that is new. -/
theorem onToolEvent_eq :
    ∃ signatures calls orphans unfinished, tracker.onToolEvent event =
      { tracker with
        signatures, calls, orphans, unfinished
        links := event.asked.elim tracker.links fun requestId =>
          tracker.links.insert requestId event.toolId
        nextSeq := tracker.nextSeq + if (tracker.call? event.toolId).isSome then 0 else 1 } := by
  obtain ⟨signatures, calls, unfinished, ensured⟩ :=
    tracker.ensure_eq event.toolId event.toolName event.input
  unfold onToolEvent
  extract_lets known assigned linked settled indexed
  obtain ⟨signatures, calls, unfinished, first⟩ : ∃ signatures calls unfinished, linked =
      { tracker with
        signatures, calls, unfinished
        links := event.asked.elim tracker.links fun requestId =>
          tracker.links.insert requestId event.toolId
        nextSeq := tracker.nextSeq + if (tracker.call? event.toolId).isSome then 0 else 1 } := by
    unfold linked assigned known ToolEvent.asked
    rw [ensured]
    cases event.permission with
    | none => exact ⟨_, _, _, rfl⟩
    | some permission => exact ⟨_, _, _, rfl⟩
  obtain ⟨orphans, second⟩ : ∃ orphans, settled = { linked with orphans } := by
    unfold settled
    split
    · exact ⟨_, rfl⟩
    · exact ⟨_, rfl⟩
  obtain ⟨moved, third⟩ : ∃ signatures, indexed = { settled with signatures } := by
    unfold indexed
    split
    · exact reindex_eq _ _ _ _
    · exact ⟨_, rfl⟩
  rw [third, second, first]
  split
  · exact ⟨_, _, _, _, rfl⟩
  · exact ⟨_, _, _, _, rfl⟩

theorem requested?_onToolEvent (requestId : String) :
    (tracker.onToolEvent event).requested? requestId =
      if event.asked = some requestId then some event.toolId
      else tracker.requested? requestId := by
  obtain ⟨signatures, calls, orphans, unfinished, becomes⟩ := tracker.onToolEvent_eq event
  unfold requested?
  rw [becomes]
  cases asked : event.asked with
  | none => simp
  | some askedId => simp [Table.find?_insert, eq_comm]

end Rest

/-! ## Runs of events -/

/-- What events leave of a tracker that has seen nothing, in closed form. -/
structure InClosedForm (sessionId : String) (events : List ToolEvent) (tracker : Tracker) :
    Prop where
  session : tracker.sessionId = sessionId
  counted : tracker.nextSeq = (seen events).length
  calls : ∀ toolId, tracker.call? toolId = told? sessionId events toolId
  links : ∀ requestId, tracker.requested? requestId =
    latest? (fun event => if event.asked = some requestId then some event.toolId else none) events
  unfinished : ∀ toolId, tracker.unfinished.contains toolId =
    (about toolId events).getLast?.any fun last => !last.status.isTerminal

/-- One event more keeps the closed form. -/
theorem InClosedForm.onToolEvent {sessionId : String} {events : List ToolEvent} {tracker : Tracker}
    (closed : InClosedForm sessionId events tracker) (event : ToolEvent) :
    InClosedForm sessionId (events ++ [event]) (tracker.onToolEvent event) := by
  obtain ⟨session, counted, calls, links, unfinished⟩ := closed
  obtain ⟨_, _, _, _, becomes⟩ := tracker.onToolEvent_eq event
  refine ⟨?session, ?counted, fun toolId => ?calls, fun requestId => ?links,
    fun toolId => ?unfinished⟩
  case session =>
    rw [becomes]
    exact session
  case counted =>
    rw [becomes]
    show tracker.nextSeq + (if (tracker.call? event.toolId).isSome then 0 else 1) = _
    simp only [calls, isSome_told?_iff, counted, seen_concat]
    split
    · rfl
    · rw [List.length_append, List.length_singleton]
  case calls =>
    by_cases here : toolId = event.toolId
    · subst here
      rw [call?_onToolEvent, told?_concat_self, callOrStart, calls, session, counted]
    · rw [(tracker.sameAt_onToolEvent here).call, told?_concat_of_ne here, calls]
  case links =>
    rw [requested?_onToolEvent, latest?_concat, links]
    split
    · rfl
    · rfl
  case unfinished =>
    rw [about_concat]
    by_cases here : toolId = event.toolId
    · subst here
      rw [contains_unfinished_onToolEvent, if_pos rfl, List.getLast?_concat]
      rfl
    · rw [(tracker.sameAt_onToolEvent here).unfinished, if_neg (Ne.symm here), unfinished]

theorem inClosedForm_run (sessionId : String) (events : List ToolEvent) :
    InClosedForm sessionId events ((new sessionId).run (events.map .toolEvent)) := by
  induction events using List.reverseRecOn with
  | nil => exact ⟨rfl, rfl, fun _ => rfl, fun _ => rfl, fun _ => rfl⟩
  | append_singleton events event ih =>
      rw [List.map_append, run_append]
      exact ih.onToolEvent event

/-- **The last event wins**, part by part.  Let a tracker that has seen nothing take in
events, about any tool uses in any order.  Then it has one call for each tool use that an
event names; every call is in the closed form of `told?`, with the rank of its first
appearance; a request asks for the tool use of the last event that spoke of it; and the
unfinished tool uses are those whose last event is not final. -/
theorem last_event_wins (sessionId : String) (events : List ToolEvent) :
    let tracker := (new sessionId).run (events.map .toolEvent)
    tracker.calls.keys.Perm (seen events) ∧
      (∀ toolId, tracker.call? toolId = told? sessionId events toolId) ∧
      (∀ requestId, tracker.requested? requestId = latest? (fun event =>
        if event.asked = some requestId then some event.toolId else none) events) ∧
      ∀ toolId, tracker.unfinished.contains toolId =
        (about toolId events).getLast?.any fun last => !last.status.isTerminal := by
  intro tracker
  have closed : InClosedForm sessionId events tracker := inClosedForm_run sessionId events
  refine ⟨?_, closed.calls, closed.links, closed.unfinished⟩
  refine (List.perm_ext_iff_of_nodup tracker.calls.nodup_keys (nodup_eraseDups _)).2 ?_
  intro toolId
  rw [Table.mem_keys_iff, List.mem_eraseDups, ← isSome_told?_iff, ← closed.calls]
  rfl

end Tracker

end SessionSync
