import SessionSync.Proofs.Log.Coherence

/-!
# What a page for a gap brings

Between the request for a page and its answer, live messages may come.  They add
their ids to the log and they move its watermark to the last of them that was new
(`watermark_addAll`), wherever that is.  A page that is merged then brings exactly the
ids that are not held and that have a message behind the watermark as it is by then
(`mem_idsOf_merge`).
-/

set_option autoImplicit false

namespace SessionSync.Log

/-! ## Live messages one after another -/

/-- Take in live messages one after another. -/
def addAll (log : Log) (live : List Message) : Log :=
  live.foldl (fun log message => (log.add message).1) log

@[simp] theorem addAll_nil (log : Log) : log.addAll [] = log := rfl

@[simp] theorem addAll_cons (log : Log) (message : Message) (live : List Message) :
    log.addAll (message :: live) = (log.add message).1.addAll live := rfl

theorem coherent_addAll {log : Log} (coherent : log.Coherent) (live : List Message) :
    (log.addAll live).Coherent := by
  induction live generalizing log with
  | nil => exact coherent
  | cons message rest ih => exact ih (coherent_add coherent message)

theorem ids_add (log : Log) (message : Message) :
    (log.add message).1.ids = log.ids.add message.messageId := by
  cases known : log.ids.contains message.messageId with
  | true => rw [add_of_contains known, KeySet.add_of_contains known]
  | false => rw [add_eq known]

theorem ids_addAll (log : Log) (live : List Message) :
    (log.addAll live).ids = withIds log.ids live := by
  induction live generalizing log with
  | nil => rfl
  | cons message rest ih =>
      rw [addAll_cons, ih, ids_add]
      rfl

/-- The watermark after live messages: the time of the last of them that was new, or
the watermark before them. -/
def markAfter (log : Log) (live : List Message) : Option Int :=
  (lastMillis? (firstOfEach log.ids live)).or log.watermark

/-- **Live messages move the watermark** to the last of them that was new. -/
theorem watermark_addAll (log : Log) (live : List Message) :
    (log.addAll live).watermark = log.markAfter live := by
  induction live generalizing log with
  | nil => rfl
  | cons message rest ih =>
      rw [addAll_cons, ih, markAfter, markAfter, ids_add]
      cases known : log.ids.contains message.messageId with
      | true =>
          rw [firstOfEach_cons_of_contains rest known, KeySet.add_of_contains known,
            add_of_contains known]
      | false =>
          rw [firstOfEach_cons_of_not_contains rest known, add_eq known, ← List.singleton_append,
            lastMillis?_append]
          cases lastMillis? (firstOfEach (log.ids.add message.messageId) rest) <;> rfl

/-! ## The page -/

section Page

variable {log : Log} {page : List Message} {id : String}

/-- **What is held after a page** was held before, or the page has a message under the
id behind the watermark. -/
theorem mem_idsOf_merge (coherent : log.Coherent) :
    id ∈ idsOf (log.merge page).1.messages ↔
      log.ids.contains id = true ∨
        ∃ message ∈ page, message.messageId = id ∧
          (log.watermark.all fun mark => mark < message.millis) = true := by
  have brought : id ∈ idsOf (log.merge page).1.messages ↔
      log.ids.contains id = true ∨ id ∈ idsOf (log.missing page) := by
    by_cases nothing : log.missing page = []
    · rw [merge_of_nothing nothing, nothing, coherent.contains_ids_iff]
      simp
    · rw [merge_eq nothing, coherent.contains_ids_iff,
        (idsOf_perm (join_perm _ _)).mem_iff, idsOf_append, List.mem_append]
  rw [brought, mem_idsOf_missing]
  cases log.ids.contains id <;> simp

/-- An id is held once or not at all. -/
theorem Coherent.count_eq_one_iff (coherent : log.Coherent) :
    (idsOf log.messages).count id = 1 ↔ id ∈ idsOf log.messages := by
  rw [← List.count_pos_iff]
  have once := List.nodup_iff_count.1 coherent.unique id
  omega

/-- **A page after live messages.**  An id is then held exactly once if it was held
before, or was live in between, or the page has a message under it behind the
watermark that the live messages have left; and else not at all. -/
theorem count_merge_addAll (coherent : log.Coherent) (live : List Message) :
    (idsOf ((log.addAll live).merge page).1.messages).count id = 1 ↔
      log.ids.contains id = true ∨ id ∈ idsOf live ∨
        ∃ message ∈ page, message.messageId = id ∧
          ((log.markAfter live).all fun mark => mark < message.millis) = true := by
  have streamed := coherent_addAll coherent live
  rw [(coherent_merge streamed page).count_eq_one_iff, mem_idsOf_merge streamed, ids_addAll,
    watermark_addAll, contains_withIds, or_assoc]

end Page

end SessionSync.Log
