import SessionSync.Proofs.Log.Extraction
import SessionSync.Proofs.Log.Repetition
import SessionSync.Proofs.Sorting

/-!
# The coherence of a log

A log is coherent when its messages ascend in their milliseconds and repeat no
id, its set of ids holds exactly their ids, and its watermark is the time of one
of them, missing exactly from an empty log.

A new log is coherent.  Each of the three ways on which messages come has its own
algorithm, and each gives a coherent log: a page of history whatever the log was
before (`coherent_loadPage`), a live message and a page for a gap if the log was
coherent (`coherent_add`, `coherent_merge`).  The watermark may be below the end
of the log, and the messages may have any ids and times.
-/

set_option autoImplicit false

namespace SessionSync.Log

/-- A log whose parts fit together. -/
structure Coherent (log : Log) : Prop where
  ordered : Ascending Message.millis log.messages
  unique : (idsOf log.messages).Nodup
  contains_ids_iff : ∀ id, log.ids.contains id = true ↔ id ∈ idsOf log.messages
  watermark_eq_none_iff : log.watermark = none ↔ log.messages = []
  watermark_held : ∀ mark, log.watermark = some mark →
    ∃ message ∈ log.messages, message.millis = mark

/-- A log without messages is coherent. -/
theorem coherent_new (sessionId : String) : (Log.new sessionId).Coherent where
  ordered := List.Pairwise.nil
  unique := List.Pairwise.nil
  contains_ids_iff := by simp [Log.new]
  watermark_eq_none_iff := by simp [Log.new]
  watermark_held := by simp [Log.new]

/-- What tool calls do has no part in the coherence of a log. -/
theorem Coherent.withTracker {log : Log} (coherent : log.Coherent) (tracker : Tracker) :
    ({ log with tracker } : Log).Coherent :=
  ⟨coherent.ordered, coherent.unique, coherent.contains_ids_iff, coherent.watermark_eq_none_iff,
    coherent.watermark_held⟩

/-- The last of the times of a list of messages. -/
theorem lastMillis?_eq_none_iff {messages : List Message} :
    lastMillis? messages = none ↔ messages = [] := by
  simp [lastMillis?]

theorem lastMillis?_append (front back : List Message) :
    lastMillis? (front ++ back) = (lastMillis? back).or (lastMillis? front) := by
  unfold lastMillis?
  rw [List.getLast?_append]
  cases back.getLast? <;> rfl

theorem mem_of_lastMillis? {messages : List Message} {mark : Int}
    (last : lastMillis? messages = some mark) : ∃ message ∈ messages, message.millis = mark := by
  obtain ⟨message, atEnd, same⟩ := Option.map_eq_some_iff.1 last
  exact ⟨message, List.mem_of_getLast? atEnd, same⟩

/-! ## A page of history -/

/-- **A page of history gives a coherent log**, whatever the log was before. -/
theorem coherent_loadPage (log : Log) (page : List Message) : (log.loadPage page).Coherent := by
  rw [loadPage_eq]
  refine ⟨ascending_sortByKey _ _, ?_, ?_, lastMillis?_eq_none_iff, fun _ => mem_of_lastMillis?⟩
  · exact (idsOf_perm (sortByKey_perm _ _)).nodup_iff.2 (nodup_idsOf_firstOfEach _ _)
  · intro id
    rw [contains_withIds]
    simp

/-! ## A live message -/

theorem place_cons_of_le {message head : Message} (earlier : head.millis ≤ message.millis)
    (rest : List Message) : place message (head :: rest) = head :: place message rest := by
  simp [place, earlier]

theorem place_cons_of_not_le {message head : Message} (later : ¬ head.millis ≤ message.millis)
    (rest : List Message) : place message (head :: rest) = message :: head :: rest := by
  simp [place, later]

theorem place_perm (message : Message) (messages : List Message) :
    (place message messages).Perm (message :: messages) := by
  let earlier := fun other : Message => decide (other.millis ≤ message.millis)
  have whole : messages.takeWhile earlier ++ messages.dropWhile earlier = messages :=
    List.takeWhile_append_dropWhile
  have middle : (place message messages).Perm
      (message :: (messages.takeWhile earlier ++ messages.dropWhile earlier)) := List.perm_middle
  rw [whole] at middle
  exact middle

/-- A message that is put in its place keeps the order. -/
theorem ascending_place (message : Message) {messages : List Message}
    (ascending : Ascending Message.millis messages) :
    Ascending Message.millis (place message messages) := by
  induction messages with
  | nil => exact List.pairwise_singleton _ _
  | cons head rest ih =>
      have above := (List.pairwise_cons.1 ascending).1
      have tail := (List.pairwise_cons.1 ascending).2
      by_cases earlier : head.millis ≤ message.millis
      · rw [place_cons_of_le earlier]
        refine List.pairwise_cons.2 ⟨fun other member => ?_, ih tail⟩
        rcases List.mem_cons.1 ((place_perm message rest).mem_iff.1 member) with rfl | member
        · exact earlier
        · exact above other member
      · rw [place_cons_of_not_le earlier]
        refine List.pairwise_cons.2 ⟨fun other member => ?_, ascending⟩
        rcases List.mem_cons.1 member with rfl | member
        · omega
        · have := above other member
          omega

/-- **A live message keeps a log coherent**, also if it is known already. -/
theorem coherent_add {log : Log} (coherent : log.Coherent) (message : Message) :
    (log.add message).1.Coherent := by
  cases known : log.ids.contains message.messageId with
  | true =>
      rw [add_of_contains known]
      exact coherent
  | false =>
      have perm := place_perm message log.messages
      have fresh : message.messageId ∉ idsOf log.messages := by
        rw [← coherent.contains_ids_iff, known]
        exact Bool.false_ne_true
      rw [add_eq known]
      refine ⟨ascending_place message coherent.ordered, ?_, ?_, ?_, ?_⟩
      · rw [(idsOf_perm perm).nodup_iff]
        exact List.nodup_cons.2 ⟨fresh, coherent.unique⟩
      · intro id
        rw [(idsOf_perm perm).mem_iff, KeySet.contains_add, idsOf_cons, List.mem_cons,
          ← coherent.contains_ids_iff]
        simp
      · have filled : place message log.messages ≠ [] :=
          List.ne_nil_of_mem (perm.mem_iff.2 List.mem_cons_self)
        simp [filled]
      · intro mark here
        cases here
        exact ⟨message, perm.mem_iff.2 List.mem_cons_self, rfl⟩

/-! ## A page for a gap -/

section Missing

variable {log : Log} {page : List Message}

theorem ascending_missing (log : Log) (page : List Message) :
    Ascending Message.millis (log.missing page) :=
  ascending_sortByKey _ _

theorem nodup_idsOf_missing (log : Log) (page : List Message) :
    (idsOf (log.missing page)).Nodup :=
  (idsOf_perm (sortByKey_perm _ _)).nodup_iff.2 (nodup_idsOf_firstOfEach _ _)

/-- A page brings exactly the ids that the log does not hold and that have a
message behind the watermark. -/
theorem mem_idsOf_missing {id : String} :
    id ∈ idsOf (log.missing page) ↔
      log.ids.contains id = false ∧
        ∃ message ∈ page, message.messageId = id ∧
          (log.watermark.all fun mark => mark < message.millis) = true := by
  rw [missing, (idsOf_perm (sortByKey_perm _ _)).mem_iff, mem_idsOf_firstOfEach]
  refine and_congr_right fun _ => ?_
  unfold idsOf
  rw [List.mem_map]
  constructor
  · rintro ⟨message, member, same⟩
    obtain ⟨member, later⟩ := List.mem_filter.1 member
    exact ⟨message, member, same, later⟩
  · rintro ⟨message, member, same, later⟩
    exact ⟨message, List.mem_filter.2 ⟨member, later⟩, same⟩

end Missing

theorem join_perm (messages batch : List Message) :
    (join messages batch).Perm (messages ++ batch) := by
  unfold join
  split
  · split
    · exact List.Perm.refl _
    · exact sortByKey_perm _ _
  · exact List.Perm.refl _

/-- Whether a batch fits behind the log or has to be sorted in: it is sorted in, stably. -/
theorem join_eq_sortByKey {messages batch : List Message}
    (front : Ascending Message.millis messages) (back : Ascending Message.millis batch) :
    join messages batch = sortByKey Message.millis (messages ++ batch) := by
  unfold join
  cases atEnd : messages.getLast? with
  | none =>
      rw [List.getLast?_eq_none_iff.1 atEnd]
      exact (sortByKey_of_ascending _ back).symm
  | some last =>
      cases atFront : batch.head? with
      | none =>
          rw [List.head?_eq_none_iff.1 atFront, List.append_nil]
          exact (sortByKey_of_ascending _ front).symm
      | some first =>
          dsimp only
          split
          · rename_i fits
            refine (sortByKey_of_ascending _ ?_).symm
            apply front.append back
            intro earlier member later member'
            exact Int.le_trans (front.le_getLast atEnd member)
              (Int.le_trans fits (back.head_le atFront member'))
          · rfl

theorem ascending_join {messages batch : List Message}
    (front : Ascending Message.millis messages) (back : Ascending Message.millis batch) :
    Ascending Message.millis (join messages batch) := by
  rw [join_eq_sortByKey front back]
  exact ascending_sortByKey _ _

/-- **A page for a gap keeps a log coherent.** -/
theorem coherent_merge {log : Log} (coherent : log.Coherent) (page : List Message) :
    (log.merge page).1.Coherent := by
  by_cases nothing : log.missing page = []
  · rw [merge_of_nothing nothing]
    exact coherent
  · have perm := join_perm log.messages (log.missing page)
    have apart : ∀ id ∈ idsOf log.messages, id ∉ idsOf (log.missing page) := by
      intro id held fetched
      have fresh := (mem_idsOf_missing.1 fetched).1
      rw [(coherent.contains_ids_iff id).2 held] at fresh
      cases fresh
    rw [merge_eq nothing]
    refine ⟨ascending_join coherent.ordered (ascending_missing log page), ?_, ?_, ?_, ?_⟩
    · rw [(idsOf_perm perm).nodup_iff, idsOf_append, List.nodup_append]
      refine ⟨coherent.unique, nodup_idsOf_missing log page, fun id held id' fetched same => ?_⟩
      exact apart id held (same ▸ fetched)
    · intro id
      rw [contains_withIds, coherent.contains_ids_iff, (idsOf_perm perm).mem_iff, idsOf_append,
        List.mem_append]
    · have filled : join log.messages (log.missing page) ≠ [] := by
        intro empty
        have := perm.length_eq
        rw [empty, List.length_append] at this
        exact nothing (List.eq_nil_of_length_eq_zero (by simp at this; omega))
      simp [lastMillis?_eq_none_iff, nothing, filled]
    · intro mark last
      obtain ⟨message, member, same⟩ := mem_of_lastMillis? last
      exact ⟨message, perm.mem_iff.2 (List.mem_append_right _ member), same⟩

end SessionSync.Log
