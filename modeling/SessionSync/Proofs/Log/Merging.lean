import SessionSync.Proofs.Log.Gap

/-!
# What a page makes of a log

A page that is merged is filtered, freed of repetitions, sorted, and then put behind the
log or sorted into it.  All this comes to one plain rule.  The news of a page (`Log.news`)
are its messages behind the watermark whose ids are not held, the first of each id.  The
log after the page is the log before with the news behind it, sorted stably
(`messages_merge`), and the watermark moves to the largest time of the news
(`watermark_merge`).

The same page again brings nothing (`merge_merge`).  That takes both the watermark and
the ids: the one stops the messages that it kept out before, whose ids are not held, and
the others stop a repetition of an id at a later time.  And a page that overlaps the end of
the log brings what it has beyond the end (`messages_merge_window`), where the log is the
beginning of the one that the page was taken from.
-/

set_option autoImplicit false

namespace SessionSync.Log

/-- What a page brings to a log: of the messages behind the watermark whose ids are not
held, the first of each id, in the order of the page. -/
def news (log : Log) (page : List Message) : List Message :=
  (page.filter fun message =>
      (log.watermark.all fun mark => mark < message.millis) &&
        !(idsOf log.messages).contains message.messageId).eraseDupsBy
    fun earlier later => earlier.messageId == later.messageId

section Merge

variable {log : Log}

theorem missing_eq_sortByKey (coherent : log.Coherent) (page : List Message) :
    log.missing page = sortByKey Message.millis (log.news page) := by
  have held : ∀ message : Message, log.ids.contains message.messageId =
      (idsOf log.messages).contains message.messageId := by
    intro message
    rw [Bool.eq_iff_iff, coherent.contains_ids_iff, List.contains_iff_mem]
  unfold missing news
  dsimp only
  rw [firstOfEach_eq_eraseDupsBy, List.filter_filter]
  simp only [held, Bool.and_comm]

theorem missing_perm (coherent : log.Coherent) (page : List Message) :
    (log.missing page).Perm (log.news page) := by
  rw [missing_eq_sortByKey coherent]
  exact sortByKey_perm _ _

theorem missing_eq_nil_iff (coherent : log.Coherent) {page : List Message} :
    log.missing page = [] ↔ log.news page = [] := by
  have same := missing_perm coherent page
  constructor
  · intro nothing
    rw [nothing] at same
    exact same.nil_eq.symm
  · intro nothing
    rw [nothing] at same
    exact same.eq_nil

/-! ## The log after a page -/

/-- **The messages after a page** are those before and the news, sorted stably. -/
theorem messages_merge (coherent : log.Coherent) (page : List Message) :
    (log.merge page).1.messages = sortByKey Message.millis (log.messages ++ log.news page) := by
  by_cases nothing : log.missing page = []
  · rw [merge_of_nothing nothing, (missing_eq_nil_iff coherent).1 nothing, List.append_nil]
    exact (sortByKey_of_ascending _ coherent.ordered).symm
  · rw [merge_eq nothing]
    dsimp only
    rw [join_eq_sortByKey coherent.ordered (ascending_missing log page),
      missing_eq_sortByKey coherent, sortByKey_append_sortByKey]

theorem snd_merge (coherent : log.Coherent) (page : List Message) :
    (log.merge page).2 = (log.news page).length := by
  rw [← (missing_perm coherent page).length_eq]
  by_cases nothing : log.missing page = []
  · rw [merge_of_nothing nothing, nothing]
    rfl
  · rw [merge_eq nothing]

/-- Of sorted messages the last has the largest time. -/
theorem lastMillis?_sortByKey (messages : List Message) :
    lastMillis? (sortByKey Message.millis messages) = (messages.map Message.millis).max? := by
  cases atEnd : (sortByKey Message.millis messages).getLast? with
  | none =>
      have sorted := sortByKey_perm Message.millis messages
      rw [List.getLast?_eq_none_iff.1 atEnd] at sorted
      rw [sorted.nil_eq.symm]
      rfl
  | some last =>
      have member : last ∈ messages := mem_sortBy.1 (List.mem_of_getLast? atEnd)
      have largest : ∀ millis ∈ messages.map Message.millis, millis ≤ last.millis := by
        intro millis among
        obtain ⟨message, held, rfl⟩ := List.mem_map.1 among
        exact (ascending_sortByKey _ messages).le_getLast atEnd (mem_sortBy.2 held)
      unfold lastMillis?
      rw [atEnd]
      exact (List.max?_eq_some_iff.2 ⟨List.mem_map_of_mem member, largest⟩).symm

/-- **The watermark after a page** is the largest time of the news. -/
theorem watermark_merge (coherent : log.Coherent) (page : List Message) :
    (log.merge page).1.watermark =
      ((log.news page).map Message.millis).max?.or log.watermark := by
  rw [← lastMillis?_sortByKey, ← missing_eq_sortByKey coherent]
  by_cases nothing : log.missing page = []
  · rw [merge_of_nothing nothing, nothing]
    rfl
  · obtain ⟨mark, atEnd⟩ : ∃ mark, lastMillis? (log.missing page) = some mark :=
      Option.ne_none_iff_exists'.1 fun none => nothing (lastMillis?_eq_none_iff.1 none)
    rw [merge_eq nothing, atEnd, Option.some_or]

/-! ## The same page again -/

/-- What is missing lies behind the watermark. -/
theorem later_of_mem_missing {page : List Message} {message : Message}
    (brought : message ∈ log.missing page) :
    (log.watermark.all fun mark => mark < message.millis) = true := by
  have kept := (firstOfEach_sublist _ _).subset (mem_sortBy.1 brought)
  exact (List.mem_filter.1 kept).2

/-- A page never takes the watermark back. -/
theorem later_of_later_merge {page : List Message} {millis : Int}
    (later : ((log.merge page).1.watermark.all fun mark => mark < millis) = true) :
    (log.watermark.all fun mark => mark < millis) = true := by
  by_cases nothing : log.missing page = []
  · rwa [merge_of_nothing nothing] at later
  · obtain ⟨mark, atEnd⟩ : ∃ mark, lastMillis? (log.missing page) = some mark :=
      Option.ne_none_iff_exists'.1 fun none => nothing (lastMillis?_eq_none_iff.1 none)
    obtain ⟨message, brought, rfl⟩ := mem_of_lastMillis? atEnd
    have behind := later_of_mem_missing brought
    rw [merge_eq nothing] at later
    dsimp only at later
    rw [atEnd, Option.all_some, decide_eq_true_eq] at later
    cases before : log.watermark with
    | none => rfl
    | some old =>
        rw [before, Option.all_some, decide_eq_true_eq] at behind
        rw [Option.all_some, decide_eq_true_eq]
        exact Int.lt_trans behind later

/-- **The same page again brings nothing.**  What is behind the new watermark was behind
the old one, so its id came with the first time. -/
theorem merge_merge (coherent : log.Coherent) (page : List Message) :
    (log.merge page).1.merge page = ((log.merge page).1, 0) := by
  apply merge_of_nothing
  apply List.eq_nil_iff_forall_not_mem.2
  intro message brought
  obtain ⟨fresh, other, member, same, later⟩ :=
    mem_idsOf_missing.1 (List.mem_map_of_mem brought)
  have held : message.messageId ∈ idsOf (log.merge page).1.messages :=
    (mem_idsOf_merge coherent).2 (Or.inr ⟨other, member, same, later_of_later_merge later⟩)
  rw [((coherent_merge coherent page).contains_ids_iff _).2 held] at fresh
  cases fresh

end Merge

/-! ## A page of a log that goes on -/

section Window

variable {log : Log} {rest : List Message} (coherent : log.Coherent)
  (distinct : (idsOf (log.messages ++ rest)).Nodup)
  (increasing : (log.messages ++ rest).Pairwise fun earlier later =>
    earlier.millis < later.millis)

include coherent distinct increasing

/-- **A page that overlaps the end of a log** brings what it has beyond the end. -/
theorem news_window {offset : Nat} (within : offset ≤ log.messages.length) (limit : Nat) :
    log.news (((log.messages ++ rest).drop offset).take limit) =
      rest.take (limit - (log.messages.length - offset)) := by
  obtain ⟨-, -, across⟩ := List.pairwise_append.1 increasing
  rw [idsOf_append] at distinct
  obtain ⟨-, apart, disjoint⟩ := List.nodup_append.1 distinct
  let beyond := rest.take (limit - (log.messages.length - offset))
  have page : ((log.messages ++ rest).drop offset).take limit =
      (log.messages.drop offset).take limit ++ beyond := by
    rw [List.drop_append_of_le_length within, List.take_append, List.length_drop]
  have known : ∀ message ∈ (log.messages.drop offset).take limit,
      message.messageId ∈ idsOf log.messages := fun message member =>
    List.mem_map_of_mem (List.mem_of_mem_drop (List.mem_of_mem_take member))
  have fresh : ∀ message ∈ beyond, message.messageId ∉ idsOf log.messages :=
    fun message member held =>
      disjoint _ held _ (List.mem_map_of_mem (List.mem_of_mem_take member)) rfl
  -- The watermark is the time of some message that is held, not always of the last.
  have behind : ∀ message ∈ beyond,
      (log.watermark.all fun mark => mark < message.millis) = true := by
    intro message member
    cases marked : log.watermark with
    | none => rfl
    | some mark =>
        obtain ⟨other, held, rfl⟩ := coherent.watermark_held mark marked
        rw [Option.all_some, decide_eq_true_eq]
        exact across other held message (List.mem_of_mem_take member)
  unfold news
  rw [page, List.filter_append, List.filter_eq_nil_iff.2, List.nil_append,
    List.filter_eq_self.2, eraseDupsBy_of_nodup]
  · exact (List.take_sublist _ _).map _ |>.nodup apart
  · intro message member
    simp [behind message member, fresh message member]
  · intro message member
    simp [known message member]

/-- **The log after such a page** holds the same log to where the page ends, if that is
farther. -/
theorem messages_merge_window {offset : Nat} (within : offset ≤ log.messages.length)
    (limit : Nat) :
    (log.merge (((log.messages ++ rest).drop offset).take limit)).1.messages =
      (log.messages ++ rest).take (max log.messages.length (offset + limit)) := by
  have ordered : Ascending Message.millis (log.messages ++ rest) :=
    increasing.imp Int.le_of_lt
  have farther : limit - (log.messages.length - offset) =
      max log.messages.length (offset + limit) - log.messages.length := by omega
  have reached : log.messages ++ rest.take (limit - (log.messages.length - offset)) =
      (log.messages ++ rest).take (max log.messages.length (offset + limit)) := by
    rw [List.take_append, List.take_of_length_le (Nat.le_max_left _ _), farther]
  rw [messages_merge coherent, news_window coherent distinct increasing within, reached]
  exact sortByKey_of_ascending _ (ordered.sublist (List.take_sublist _ _))

end Window

end SessionSync.Log
