import SessionSync.Proofs.Json.Colons
import SessionSync.Proofs.Tracker.Index
import SessionSync.Proofs.Tracker.Roster

/-!
# How tool uses are filed

The index lists tool uses under signatures, and a call has the signature of its name and
its input.  Three things happen to the two (`Filing`).  The first sight of a tool use files
it under the signature of its new call.  A record or an event that gives a call another
signature moves the tool use: it is taken from the list of the old signature and put at the
end of the list of the new one.  A display block, however, that gives a name to a call
without one only renames it, and leaves the index as it was.

What this means for one tool use shows on its card (`Card`): the signature of its call, and
the signatures under which it is listed.  Every change either leaves a card alone or does
one filing to it (`cardStep_after`).  On every card that this leads to, only signatures
without a name can be listed in vain, and only signatures with a name can be missing
(`Card.Sound`).
-/

set_option autoImplicit false

namespace SessionSync

/-- A signature without a tool name. -/
def Nameless (signature : String) : Prop := ∃ input, signature = toolSignature "" input

theorem not_nameless_of_name {name : String} (named : name ≠ "") (input : Json) :
    ¬ Nameless (toolSignature name input) := by
  rintro ⟨other, same⟩
  exact named (toolSignature_eq_iff.1 same).1

/-- Whether a change brings the tool states of a display block. -/
def TrackerChange.isDisplayStates : TrackerChange → Bool
  | .displayStates _ => true
  | _ => false

namespace Tracker

/-! ## Cards -/

/-- How a tool use is filed: the signature of its call, and where it is listed. -/
@[ext]
structure Card where
  own : Option String
  isUnder : String → Bool

/-- The card of a tool use. -/
def card (tracker : Tracker) (toolId : String) : Card :=
  { own := tracker.signature? toolId
    isUnder := fun signature => (tracker.listed signature).contains toolId }

/-- What can happen to a tool use in the index. -/
inductive Filing where
  /-- It gets a call, and is filed under its signature. -/
  | create (signature : String)
  /-- Its call changes its signature, and it is filed anew. -/
  | move (old new : String)
  /-- Its call changes its signature, and the index stays as it is. -/
  | rename (old new : String)

namespace Filing

/-- The signature that the call has after it. -/
def signature : Filing → String
  | create signature => signature
  | move _ new => new
  | rename _ new => new

/-- What it makes of the tool uses under a signature. -/
def list (toolId probe : String) (ids : List String) : Filing → List String
  | create signature => if probe = signature then enlist toolId ids else ids
  | move old new =>
      if probe = new then enlist toolId ids else if probe = old then delist toolId ids else ids
  | rename _ _ => ids

/-- The filings that records and events do. -/
def IsRefiling : Filing → Prop
  | rename _ _ => False
  | _ => True

theorem isRefiling_create (signature : String) : (create signature).IsRefiling := trivial

/-- The filings that display blocks do. -/
def IsShowing : Filing → Prop
  | move _ _ => False
  | _ => True

theorem isShowing_create (signature : String) : (create signature).IsShowing := trivial

end Filing

namespace Card

/-- The filings that can come next. -/
def Allows (card : Card) : Filing → Prop
  | .create _ => card.own = none
  | .move old new => card.own = some old ∧ old ≠ new
  | .rename old new => card.own = some old ∧ Nameless old ∧ ¬ Nameless new

/-- The card after a filing. -/
def filed (card : Card) : Filing → Card
  | .create signature =>
      { own := some signature, isUnder := fun probe => probe == signature || card.isUnder probe }
  | .move old new =>
      { own := some new
        isUnder := fun probe => probe == new || (probe != old && card.isUnder probe) }
  | .rename _ new => { card with own := some new }

/-- What every card says, however it came about: a tool use without a call is listed
nowhere, a call without a name is listed under its signature, and a tool use is listed in
vain under signatures without a name only. -/
structure Sound (card : Card) : Prop where
  known : ∀ signature, card.isUnder signature = true → card.own ≠ none
  nameless : ∀ signature, card.own = some signature → Nameless signature →
    card.isUnder signature = true
  foreign : ∀ signature, card.isUnder signature = true →
    card.own = some signature ∨ Nameless signature

theorem Sound.filed {card : Card} (sound : card.Sound) {filing : Filing}
    (allowed : card.Allows filing) : (card.filed filing).Sound := by
  refine ⟨fun signature _ => ?known, fun signature own => ?nameless, fun signature under => ?foreign⟩
  case known => cases filing <;> exact Option.some_ne_none _
  case nameless =>
    cases filing with
    | create new =>
        cases own
        exact fun _ => Bool.or_eq_true_iff.2 (Or.inl (beq_self_eq_true _))
    | move old new =>
        cases own
        exact fun _ => Bool.or_eq_true_iff.2 (Or.inl (beq_self_eq_true _))
    | rename old new =>
        cases own
        exact fun nameless => absurd nameless allowed.2.2
  case foreign =>
    cases filing with
    | create new =>
        rcases Bool.or_eq_true_iff.1 under with here | before
        · exact Or.inl (congrArg some (beq_iff_eq.1 here).symm)
        · exact absurd allowed (sound.known signature before)
    | move old new =>
        rcases Bool.or_eq_true_iff.1 under with here | elsewhere
        · exact Or.inl (congrArg some (beq_iff_eq.1 here).symm)
        · obtain ⟨other, before⟩ := Bool.and_eq_true_iff.1 elsewhere
          refine Or.inr ((sound.foreign signature before).resolve_left fun held => ?_)
          rw [allowed.1, Option.some_inj] at held
          rw [held, bne_self_eq_false] at other
          cases other
    | rename old new =>
        rcases sound.foreign signature under with held | nameless
        · rw [allowed.1, Option.some_inj] at held
          exact Or.inr (held ▸ allowed.2.1)
        · exact Or.inr nameless

end Card

/-! ## Steps of the index -/

/-- A step has changed no signature of a call and nothing in the index. -/
structure SameIndex (before after : Tracker) : Prop where
  listed : ∀ signature, after.listed signature = before.listed signature
  signatures : ∀ toolId, after.signature? toolId = before.signature? toolId
  nonempty : before.NoEmptyEntry → after.NoEmptyEntry

/-- A step has done one filing to one tool use. -/
structure Filed (toolId : String) (filing : Filing) (before after : Tracker) : Prop where
  allowed : (before.card toolId).Allows filing
  listed : ∀ signature,
    after.listed signature = filing.list toolId signature (before.listed signature)
  own : after.signature? toolId = some filing.signature
  others : ∀ probe, probe ≠ toolId → after.signature? probe = before.signature? probe
  nonempty : before.NoEmptyEntry → after.NoEmptyEntry

/-- A step about a tool use has filed nothing, or done one filing of some kinds to it. -/
def FilesBy (kinds : Filing → Prop) (toolId : String) (before after : Tracker) : Prop :=
  SameIndex before after ∨ ∃ filing, kinds filing ∧ Filed toolId filing before after

section Steps

variable {before middle after : Tracker} {toolId probe : String} {filing : Filing}

theorem SameIndex.trans (earlier : SameIndex before middle) (later : SameIndex middle after) :
    SameIndex before after :=
  ⟨fun signature => (later.listed signature).trans (earlier.listed signature),
    fun toolId => (later.signatures toolId).trans (earlier.signatures toolId),
    fun nonempty => later.nonempty (earlier.nonempty nonempty)⟩

theorem SameIndex.card (same : SameIndex before after) (toolId : String) :
    after.card toolId = before.card toolId :=
  Card.ext (same.signatures toolId)
    (funext fun signature => congrArg (fun ids => ids.contains toolId) (same.listed signature))

theorem Filed.kept (filed : Filed toolId filing before middle)
    (same : SameIndex middle after) : Filed toolId filing before after :=
  ⟨filed.allowed, fun signature => (same.listed signature).trans (filed.listed signature),
    (same.signatures toolId).trans filed.own,
    fun probe other => (same.signatures probe).trans (filed.others probe other),
    fun nonempty => same.nonempty (filed.nonempty nonempty)⟩

/-- The card of the tool use that is filed. -/
theorem Filed.card_self (filed : Filed toolId filing before after) :
    after.card toolId = (before.card toolId).filed filing := by
  have under : ∀ signature, (after.listed signature).contains toolId =
      ((before.card toolId).filed filing).isUnder signature := by
    intro signature
    rw [Bool.eq_iff_iff, List.contains_iff_mem, filed.listed]
    cases filing with
    | create new =>
        simp only [Filing.list, Card.filed, Tracker.card]
        split <;> simp_all [mem_enlist]
    | move old new =>
        simp only [Filing.list, Card.filed, Tracker.card]
        split
        · simp_all [mem_enlist]
        · split <;> simp_all [mem_delist]
    | rename old new => exact List.contains_iff_mem.symm
  have own : ((before.card toolId).filed filing).own = some filing.signature := by
    cases filing <;> rfl
  exact Card.ext (filed.own.trans own.symm) (funext under)

/-- The cards of the others. -/
theorem Filed.card_of_ne (filed : Filed toolId filing before after) (elsewhere : probe ≠ toolId) :
    after.card probe = before.card probe := by
  have under : ∀ signature, (after.listed signature).contains probe =
      (before.listed signature).contains probe := by
    intro signature
    rw [Bool.eq_iff_iff, List.contains_iff_mem, List.contains_iff_mem, filed.listed]
    cases filing with
    | create new =>
        simp only [Filing.list]
        split <;> simp [mem_enlist, elsewhere]
    | move old new =>
        simp only [Filing.list]
        split
        · simp [mem_enlist, elsewhere]
        · split <;> simp [mem_delist, elsewhere]
    | rename old new => rfl
  exact Card.ext (filed.others probe elsewhere) (funext under)

theorem Filed.nodup (filed : Filed toolId filing before after) {signature : String}
    (distinct : (before.listed signature).Nodup) : (after.listed signature).Nodup := by
  rw [filed.listed]
  cases filing with
  | create new =>
      simp only [Filing.list]
      split
      · exact nodup_enlist distinct
      · exact distinct
  | move old new =>
      simp only [Filing.list]
      split
      · exact nodup_enlist distinct
      · split
        · exact nodup_delist distinct
        · exact distinct
  | rename old new => exact distinct

namespace FilesBy

variable {kinds : Filing → Prop}

theorem kept (files : FilesBy kinds toolId before middle) (same : SameIndex middle after) :
    FilesBy kinds toolId before after := by
  rcases files with still | ⟨filing, kind, filed⟩
  · exact Or.inl (still.trans same)
  · exact Or.inr ⟨filing, kind, filed.kept same⟩

theorem of_same (same : SameIndex before middle) (files : FilesBy kinds toolId middle after) :
    FilesBy kinds toolId before after := by
  rcases files with still | ⟨filing, kind, filed⟩
  · exact Or.inl (same.trans still)
  · refine Or.inr ⟨filing, kind, same.card toolId ▸ filed.allowed, fun signature => ?_, filed.own,
      fun probe other => (filed.others probe other).trans (same.signatures probe),
      fun nonempty => filed.nonempty (same.nonempty nonempty)⟩
    rw [filed.listed, same.listed]

theorem card_of_ne (files : FilesBy kinds toolId before after) (elsewhere : probe ≠ toolId) :
    after.card probe = before.card probe := by
  rcases files with still | ⟨filing, kind, filed⟩
  · exact still.card probe
  · exact filed.card_of_ne elsewhere

theorem nodup (files : FilesBy kinds toolId before after) {signature : String}
    (distinct : (before.listed signature).Nodup) : (after.listed signature).Nodup := by
  rcases files with still | ⟨filing, kind, filed⟩
  · exact still.listed signature ▸ distinct
  · exact filed.nodup distinct

theorem nonempty (files : FilesBy kinds toolId before after) (nonempty : before.NoEmptyEntry) :
    after.NoEmptyEntry := by
  rcases files with still | ⟨filing, kind, filed⟩
  · exact still.nonempty nonempty
  · exact filed.nonempty nonempty

end FilesBy

end Steps

/-! ## What each handler files -/

section Handlers

variable (tracker : Tracker)

/-- A step that leaves the index alone, and every call its signature. -/
theorem sameIndex_of_signatures {before after : Tracker}
    (index : after.signatures = before.signatures)
    (calls : ∀ toolId, after.signature? toolId = before.signature? toolId) :
    SameIndex before after :=
  ⟨listed_of_signatures index, calls, NoEmptyEntry.of_signatures index⟩

theorem sameIndex_modify (toolId : String) {change : ToolCall → ToolCall}
    (keeps : ∀ call, (change call).signature = call.signature) :
    SameIndex tracker (tracker.modify toolId change) :=
  sameIndex_of_signatures rfl fun probe =>
    tracker.map_call?_modify toolId probe ToolCall.signature keeps

theorem sameIndex_foldl {α : Type} {step : Tracker → α → Tracker}
    (keeps : ∀ tracker item, SameIndex tracker (step tracker item)) (items : List α) :
    SameIndex tracker (items.foldl step tracker) :=
  List.foldlRecOn items step (sameIndex_of_signatures rfl fun _ => rfl) fun before same item _ =>
    same.trans (keeps before item)

theorem signature?_of_call {tracker : Tracker} {toolId : String} {call : ToolCall}
    (held : tracker.call? toolId = some call) :
    tracker.signature? toolId = some call.signature := congrArg (Option.map ToolCall.signature) held

theorem signature?_of_new {tracker : Tracker} {toolId : String}
    (unknown : tracker.call? toolId = none) : tracker.signature? toolId = none :=
  congrArg (Option.map ToolCall.signature) unknown

theorem signature?_of_sameAt {left right : Tracker} {toolId : String}
    (same : SameAt left right toolId) : left.signature? toolId = right.signature? toolId :=
  congrArg (Option.map ToolCall.signature) same.call

theorem signatures_ensure_of_new {toolId : String} (unknown : tracker.call? toolId = none)
    (toolName : String) (input : Json) :
    (tracker.ensure toolId toolName input).signatures =
      (tracker.indexSignature toolId (toolSignature toolName input)).signatures := by
  unfold ensure
  rw [Table.contains_eq_false_iff.2 unknown]
  rfl

/-- A step that has created a call, and has filed it under its signature. -/
theorem filed_create {before after : Tracker} {toolId signature : String}
    (unknown : before.call? toolId = none)
    (index : after.signatures = (before.indexSignature toolId signature).signatures)
    (own : after.signature? toolId = some signature)
    (others : ∀ probe, probe ≠ toolId → after.signature? probe = before.signature? probe) :
    Filed toolId (.create signature) before after :=
  ⟨signature?_of_new unknown,
    fun probe => (listed_of_signatures index probe).trans
      (before.listed_indexSignature toolId signature probe),
    own, others, fun nonempty => .of_signatures index (nonempty.indexSignature toolId signature)⟩

theorem filesBy_ensure {kinds : Filing → Prop} (creates : ∀ signature, kinds (.create signature))
    (toolId toolName : String) (input : Json) :
    FilesBy kinds toolId tracker (tracker.ensure toolId toolName input) := by
  cases held : tracker.call? toolId with
  | some call =>
      rw [ensure_of_call held]
      exact Or.inl (sameIndex_of_signatures rfl fun _ => rfl)
  | none =>
      refine Or.inr ⟨_, creates _, filed_create held
        (tracker.signatures_ensure_of_new held toolName input) ?_ fun probe other =>
          signature?_of_sameAt (tracker.sameAt_ensure other toolName input)⟩
      unfold signature?
      rw [call?_ensure, if_pos rfl, held]
      rfl

/-! ### Records and events -/

theorem filesBy_onToolUse (toolUse : ToolUse) :
    FilesBy Filing.IsRefiling toolUse.toolId tracker (tracker.onToolUse toolUse) := by
  unfold onToolUse
  cases held : tracker.call? toolUse.toolId with
  | none => exact tracker.filesBy_ensure Filing.isRefiling_create _ _ _
  | some call =>
      dsimp only
      split
      · exact Or.inl (sameIndex_of_signatures rfl fun _ => rfl)
      · rename_i different
        refine Or.inr ⟨.move call.signature (toolSignature toolUse.name toolUse.input), trivial,
          ⟨signature?_of_call held, different⟩, fun signature => ?_, ?_, fun probe other => ?_,
          fun nonempty => nonempty.reindex toolUse.toolId _ _⟩
        · exact tracker.listed_reindex toolUse.toolId signature different
        · unfold signature?
          rw [call?_modify, if_pos rfl, call?_reindex, held]
          rfl
        · exact signature?_of_sameAt ((sameAt_modify _ other _).trans (tracker.sameAt_reindex _ _))

theorem signature_askFor (request : PermissionRequest) (call : ToolCall) :
    (askFor request call).signature = call.signature := by
  obtain ⟨_, _, _, asked⟩ := askFor_eq request call
  rw [asked]
  rfl

theorem signature_answerWith (response : PermissionResponse) (call : ToolCall) :
    (answerWith response call).signature = call.signature := by
  obtain ⟨_, _, _, answered⟩ := answerWith_eq response call
  rw [answered]
  rfl

theorem filesBy_onPermissionRequest (request : PermissionRequest) :
    ∃ toolId, FilesBy Filing.IsRefiling toolId tracker (tracker.onPermissionRequest request).1 := by
  unfold onPermissionRequest
  cases tracker.requestTarget? request with
  | none => exact ⟨"", Or.inl (sameIndex_of_signatures rfl fun _ => rfl)⟩
  | some toolId =>
      have linked : SameIndex tracker (tracker.link request.requestId toolId) :=
        sameIndex_of_signatures rfl fun _ => rfl
      have ensured := FilesBy.of_same linked
        (filesBy_ensure _ Filing.isRefiling_create toolId request.toolName request.input)
      exact ⟨toolId, ensured.kept (sameIndex_modify _ _ (signature_askFor request))⟩

theorem sameIndex_onPermissionResponse (response : PermissionResponse) :
    SameIndex tracker (tracker.onPermissionResponse response).1 := by
  unfold onPermissionResponse
  cases response.toolId.or (tracker.requested? response.requestId) with
  | none => exact sameIndex_of_signatures rfl fun _ => rfl
  | some toolId =>
      have linked : SameIndex tracker (tracker.link response.requestId toolId) :=
        sameIndex_of_signatures rfl fun _ => rfl
      have answered := linked.trans (sameIndex_modify _ toolId (signature_answerWith response))
      dsimp only
      cases (tracker.link response.requestId toolId).call? toolId with
      | none => exact linked
      | some call =>
          dsimp only
          split
          · exact answered.trans (sameIndex_of_signatures rfl fun _ => rfl)
          · exact answered

theorem filesBy_onToolResult (result : ToolResult) :
    FilesBy Filing.IsRefiling result.toolId tracker (tracker.onToolResult result) := by
  have keeps : ∀ call, (finishWith result call).signature = call.signature := fun _ => rfl
  have finished := (tracker.filesBy_ensure Filing.isRefiling_create result.toolId "" .null).kept
    (sameIndex_modify _ result.toolId keeps)
  exact finished.kept (sameIndex_of_signatures rfl fun _ => rfl)

/-- Before an event is filed, the index is as it was, or as the first sight left it. -/
theorem signatures_onToolEvent (event : ToolEvent) :
    ∃ settled : Tracker,
      settled.signatures =
        (tracker.ensure event.toolId event.toolName event.input).signatures ∧
      (tracker.onToolEvent event).signatures =
        ((tracker.call? event.toolId).elim settled fun call =>
          settled.reindex event.toolId call.signature
            (assignEvent event call).signature).signatures := by
  unfold onToolEvent
  extract_lets ensured assigned linked settled indexed
  refine ⟨settled, ?_, ?_⟩
  · have first : linked.signatures = ensured.signatures := by
      unfold linked
      split
      · rfl
      · rfl
    unfold settled
    split
    · exact first
    · exact first
  · have third : indexed = (tracker.call? event.toolId).elim settled fun call =>
        settled.reindex event.toolId call.signature (assignEvent event call).signature := by
      unfold indexed
      cases held : tracker.call? event.toolId with
      | none => rfl
      | some call =>
          have told : assigned.call? event.toolId = some (assignEvent event call) := by
            unfold assigned ensured
            rw [call?_modify_ensure, callOrStart_of_call held]
          rw [told]
          rfl
    rw [← third]
    split
    · rfl
    · rfl

theorem filesBy_onToolEvent (event : ToolEvent) :
    FilesBy Filing.IsRefiling event.toolId tracker (tracker.onToolEvent event) := by
  obtain ⟨settled, before, index⟩ := tracker.signatures_onToolEvent event
  have others : ∀ probe, probe ≠ event.toolId →
      (tracker.onToolEvent event).signature? probe = tracker.signature? probe :=
    fun probe other => signature?_of_sameAt (tracker.sameAt_onToolEvent other)
  have told := signature?_of_call (tracker.call?_onToolEvent event)
  cases held : tracker.call? event.toolId with
  | none =>
      rw [held] at index
      rw [tracker.signatures_ensure_of_new held] at before
      refine Or.inr ⟨_, Filing.isRefiling_create _, filed_create held (index.trans before) ?_ others⟩
      rw [told, callOrStart_of_new held, assignEvent_eq]
      exact congrArg (fun input => some (toolSignature event.toolName input)) event.getD_brought
  | some call =>
      rw [held] at index
      rw [ensure_of_call held] at before
      rw [callOrStart_of_call held] at told
      by_cases same : call.signature = (assignEvent event call).signature
      · have still : settled.reindex event.toolId call.signature
            (assignEvent event call).signature = settled := if_pos same
        rw [Option.elim_some, still] at index
        refine Or.inl (sameIndex_of_signatures (index.trans before) fun probe => ?_)
        by_cases here : probe = event.toolId
        · rw [here, told, signature?_of_call held, same]
        · exact others probe here
      · refine Or.inr ⟨.move call.signature (assignEvent event call).signature, trivial,
          ⟨signature?_of_call held, same⟩, fun signature => ?_, told, others, fun nonempty => ?_⟩
        · have moved := settled.listed_reindex event.toolId signature same
          rw [listed_of_signatures before] at moved
          exact (listed_of_signatures index signature).trans moved
        · exact .of_signatures index ((nonempty.of_signatures before).reindex event.toolId _ _)

/-! ### Display blocks -/

theorem sameIndex_applyDisplayLinks (display : Display) :
    SameIndex tracker (tracker.applyDisplayLinks display) := by
  unfold applyDisplayLinks
  cases display.links with
  | none => exact sameIndex_of_signatures rfl fun _ => rfl
  | some links =>
      refine tracker.sameIndex_foldl (fun tracker entry => ?_) _
      exact sameIndex_of_signatures rfl fun _ => rfl

theorem signatures_applyDisplayedTool (toolId : String) (tool : DisplayedTool) :
    (tracker.applyDisplayedTool toolId tool).signatures =
      (tracker.ensure toolId (tool.toolName.getD "") .null).signatures := by
  unfold applyDisplayedTool
  extract_lets status ensured assigned counted
  have counting : counted.signatures = ensured.signatures := by
    unfold counted
    split
    · rfl
    · rfl
  split
  · exact counting
  · exact counting

/-- The name that a state brings for a call without one. -/
theorem toolName_shownAs (tool : DisplayedTool) (call : ToolCall) :
    (shownAs tool call).toolName = call.toolName ∨
      call.toolName = "" ∧ (shownAs tool call).toolName ≠ "" := by
  by_cases unnamed : call.toolName = ""
  · by_cases still : (shownAs tool call).toolName = ""
    · exact Or.inl (still.trans unnamed.symm)
    · exact Or.inr ⟨unnamed, still⟩
  · have named : call.toolName.isEmpty = false := by simpa using unnamed
    refine Or.inl ?_
    unfold shownAs
    rw [named]
    rfl

/-- A state of a tool use creates its call, or names it without filing it anew. -/
theorem filesBy_applyDisplayedTool (toolId : String) (tool : DisplayedTool) :
    FilesBy Filing.IsShowing toolId tracker (tracker.applyDisplayedTool toolId tool) := by
  have index := tracker.signatures_applyDisplayedTool toolId tool
  have others : ∀ probe, probe ≠ toolId →
      (tracker.applyDisplayedTool toolId tool).signature? probe = tracker.signature? probe :=
    fun probe other => signature?_of_sameAt (tracker.sameAt_applyDisplayedTool other tool)
  have told := signature?_of_call (tracker.call?_applyDisplayedTool_self toolId tool)
  cases held : tracker.call? toolId with
  | none =>
      rw [tracker.signatures_ensure_of_new held] at index
      refine Or.inr ⟨_, Filing.isShowing_create _, filed_create held index ?_ others⟩
      rw [told, callOrStart_of_new held]
      have named : (shownAs tool (ToolCall.start tracker.sessionId toolId (tool.toolName.getD "")
          .null tracker.nextSeq)).toolName = tool.toolName.getD "" := by
        unfold shownAs ToolCall.start
        cases tool.toolName <;> simp
      exact congrArg (fun name => some (toolSignature name .null)) named
  | some call =>
      rw [ensure_of_call held] at index
      rw [callOrStart_of_call held] at told
      rcases toolName_shownAs tool call with same | ⟨unnamed, named⟩
      · refine Or.inl (sameIndex_of_signatures index fun probe => ?_)
        by_cases here : probe = toolId
        · rw [here, told, signature?_of_call held]
          exact congrArg (fun name => some (toolSignature name call.input)) same
        · exact others probe here
      · have nameless : Nameless call.signature :=
          ⟨call.input, congrArg (fun name => toolSignature name call.input) unnamed⟩
        exact Or.inr ⟨.rename call.signature (shownAs tool call).signature, trivial,
          ⟨signature?_of_call held, nameless, not_nameless_of_name named call.input⟩,
          listed_of_signatures index, told, others, NoEmptyEntry.of_signatures index⟩

theorem sameIndex_replaceOrphans (notices : List OrphanNotice) :
    SameIndex tracker (tracker.replaceOrphans notices) := by
  refine sameIndex_of_signatures (tracker.signatures_replaceOrphans notices) fun toolId => ?_
  unfold signature?
  rw [call?_replaceOrphans, Option.map_map]
  congr 1
  funext call
  obtain ⟨_, _, _, ruled⟩ := ruleOn_eq (judged? notices toolId) (tracker.isOrphaned toolId) call
  show (ruleOn _ _ call).signature = _
  rw [ruled]
  rfl

theorem sameIndex_markOrphaned (toolId reason : String) (message : Option String) :
    SameIndex tracker (tracker.markOrphaned toolId reason message) := by
  have keeps : ∀ call, (orphanCall reason call).signature = call.signature := fun _ => rfl
  exact (tracker.sameIndex_modify toolId keeps).trans (sameIndex_of_signatures rfl fun _ => rfl)

end Handlers

/-! ## What each change files -/

section Changes

variable (tracker : Tracker)

/-- Records and events do one filing at most. -/
theorem filesBy_after {change : TrackerChange} (noStates : change.isDisplayStates = false) :
    ∃ toolId, FilesBy Filing.IsRefiling toolId tracker (tracker.after change) := by
  cases change with
  | toolUse toolUse => exact ⟨_, tracker.filesBy_onToolUse toolUse⟩
  | permissionRequest request => exact tracker.filesBy_onPermissionRequest request
  | permissionResponse response => exact ⟨"", Or.inl (tracker.sameIndex_onPermissionResponse response)⟩
  | toolResult result => exact ⟨_, tracker.filesBy_onToolResult result⟩
  | toolEvent event => exact ⟨_, tracker.filesBy_onToolEvent event⟩
  | displayLinks display => exact ⟨"", Or.inl (tracker.sameIndex_applyDisplayLinks display)⟩
  | displayStates display => cases noStates
  | markOrphaned toolId reason message =>
      exact ⟨"", Or.inl (tracker.sameIndex_markOrphaned toolId reason message)⟩
  | orphanUnfinished reason =>
      exact ⟨"", Or.inl (tracker.sameIndex_foldl
        (fun tracker toolId => tracker.sameIndex_markOrphaned toolId reason none) _)⟩
  | recount => exact ⟨"", Or.inl (sameIndex_of_signatures rfl fun _ => rfl)⟩
  | toggle toolId =>
      refine ⟨"", Or.inl ?_⟩
      simp only [after, toggleExpanded]
      split
      · exact sameIndex_of_signatures rfl fun _ => rfl
      · exact tracker.sameIndex_modify toolId fun _ => rfl

/-- The list of orphans of a display block files nothing. -/
theorem sameIndex_applyDisplayStates (display : Display) :
    SameIndex (tracker.applyShown display.shown) (tracker.applyDisplayStates display) := by
  rw [applyDisplayStates_eq, applyDisplayedTools_eq]
  cases display.orphans with
  | none => exact sameIndex_of_signatures rfl fun _ => rfl
  | some notices => exact sameIndex_replaceOrphans _ notices

/-- What no filing takes away, no change takes away. -/
theorem kept_after {holds : Tracker → Prop}
    (keeps : ∀ {kinds : Filing → Prop} {toolId : String} {before after : Tracker},
      FilesBy kinds toolId before after → holds before → holds after)
    {tracker : Tracker} (held : holds tracker) (change : TrackerChange) :
    holds (tracker.after change) := by
  cases shown : change.isDisplayStates with
  | false =>
      obtain ⟨toolId, files⟩ := tracker.filesBy_after shown
      exact keeps files held
  | true =>
      cases change with
      | displayStates display =>
          have told : holds (tracker.applyShown display.shown) :=
            List.foldlRecOn display.shown _ held fun before held entry _ =>
              keeps (before.filesBy_applyDisplayedTool entry.1 entry.2) held
          have same : FilesBy Filing.IsShowing "" _ _ :=
            Or.inl (tracker.sameIndex_applyDisplayStates display)
          exact keeps same told
      | _ => cases shown

/-- A card stays as it is, or takes one filing of some kinds. -/
def Card.Step (kinds : Filing → Prop) (before after : Card) : Prop :=
  after = before ∨ ∃ filing, kinds filing ∧ before.Allows filing ∧ after = before.filed filing

theorem FilesBy.cardStep {kinds : Filing → Prop} {toolId : String} {before after : Tracker}
    (files : FilesBy kinds toolId before after) (probe : String) :
    Card.Step kinds (before.card probe) (after.card probe) := by
  by_cases here : probe = toolId
  · subst here
    rcases files with still | ⟨filing, kind, filed⟩
    · exact Or.inl (still.card probe)
    · exact Or.inr ⟨filing, kind, filed.allowed, filed.card_self⟩
  · exact Or.inl (files.card_of_ne here)

/-- A block has one state for a tool use at most, so it does one filing to it at most. -/
theorem cardStep_applyShown {entries : List (String × DisplayedTool)}
    (distinct : (entries.map Prod.fst).Nodup) (probe : String) :
    Card.Step Filing.IsShowing (tracker.card probe) ((tracker.applyShown entries).card probe) := by
  have untold : ∀ entries : List (String × DisplayedTool), probe ∉ entries.map Prod.fst →
      ∀ start : Tracker, (start.applyShown entries).card probe = start.card probe := by
    intro entries
    induction entries with
    | nil => exact fun _ _ => rfl
    | cons entry rest ih =>
        intro absent start
        rw [List.map_cons, List.mem_cons, not_or] at absent
        exact (ih absent.2 _).trans ((start.filesBy_applyDisplayedTool _ _).card_of_ne absent.1)
  induction entries generalizing tracker with
  | nil => exact Or.inl rfl
  | cons entry rest ih =>
      obtain ⟨fresh, others⟩ := List.nodup_cons.1 distinct
      have first := tracker.filesBy_applyDisplayedTool entry.1 entry.2
      rw [applyShown_cons]
      by_cases here : probe = entry.1
      · rw [untold rest (here ▸ fresh)]
        exact first.cardStep probe
      · rw [← first.card_of_ne here]
        exact ih _ others

/-- **One change** does one filing to a tool use at most: display blocks create and rename,
everything else creates and moves. -/
theorem cardStep_after (change : TrackerChange) (probe : String) :
    Card.Step (if change.isDisplayStates then Filing.IsShowing else Filing.IsRefiling)
      (tracker.card probe) ((tracker.after change).card probe) := by
  cases shown : change.isDisplayStates with
  | false =>
      obtain ⟨toolId, files⟩ := tracker.filesBy_after shown
      exact files.cardStep probe
  | true =>
      cases change with
      | displayStates display =>
          have same := (tracker.sameIndex_applyDisplayStates display).card probe
          have told := tracker.cardStep_applyShown display.nodup_shown probe
          exact same ▸ told
      | _ => cases shown

theorem Card.Sound.step {kinds : Filing → Prop} {before after : Card} (sound : before.Sound)
    (step : Card.Step kinds before after) : after.Sound := by
  rcases step with rfl | ⟨filing, -, allowed, rfl⟩
  · exact sound
  · exact sound.filed allowed

theorem sound_card_new (sessionId toolId : String) : ((new sessionId).card toolId).Sound := by
  constructor
  · intro signature under
    cases under
  · intro signature own
    cases own
  · intro signature under
    cases under

/-- Every card of a tracker that began empty is sound. -/
theorem sound_card_run (sessionId : String) (changes : List TrackerChange) (toolId : String) :
    (((new sessionId).run changes).card toolId).Sound := by
  have keeps : ∀ (tracker : Tracker) change, (tracker.card toolId).Sound →
      ((tracker.after change).card toolId).Sound :=
    fun tracker change sound => sound.step (tracker.cardStep_after change toolId)
  exact kept_run keeps (sound_card_new sessionId toolId) changes

end Changes

end Tracker

end SessionSync
