import SessionSync.Log
import SessionSync.Proofs.Table

/-!
# Messages without repetition

A page may repeat ids, also ids that a log holds already.  Of each id the first
message is kept (`Log.firstOfEach`).  What is kept has no id twice and no id that
was held, it covers every id that was not held, and taking in two pages one after
the other keeps what taking in both at once keeps (`firstOfEach_append`).  Passing
over what is held and repetitions at once comes to the same as doing it one after
the other (`firstOfEach_eq_eraseDupsBy`).
-/

set_option autoImplicit false

namespace SessionSync.Log

/-- The ids of messages, in their order. -/
def idsOf (messages : List Message) : List String := messages.map Message.messageId

@[simp] theorem idsOf_nil : idsOf [] = [] := rfl

@[simp] theorem idsOf_cons (message : Message) (rest : List Message) :
    idsOf (message :: rest) = message.messageId :: idsOf rest := rfl

@[simp] theorem idsOf_append (front back : List Message) :
    idsOf (front ++ back) = idsOf front ++ idsOf back := List.map_append

theorem idsOf_perm {left right : List Message} (same : left.Perm right) :
    (idsOf left).Perm (idsOf right) := same.map _

/-! ## Sets of ids -/

theorem withIds_append (held : KeySet) (front back : List Message) :
    withIds held (front ++ back) = withIds (withIds held front) back := List.foldl_append

theorem contains_withIds {held : KeySet} {messages : List Message} {id : String} :
    (withIds held messages).contains id = true ↔
      held.contains id = true ∨ id ∈ idsOf messages := by
  induction messages generalizing held with
  | nil => simp [withIds]
  | cons message rest ih =>
      have step : withIds held (message :: rest) = withIds (held.add message.messageId) rest := rfl
      rw [step, ih, KeySet.contains_add]
      simp only [Bool.or_eq_true, beq_iff_eq, idsOf_cons, List.mem_cons]
      constructor
      · rintro ((here | known) | later)
        · exact Or.inr (Or.inl here)
        · exact Or.inl known
        · exact Or.inr (Or.inr later)
      · rintro (known | here | later)
        · exact Or.inl (Or.inr known)
        · exact Or.inl (Or.inl here)
        · exact Or.inr later

/-! ## The first message of each id -/

theorem firstOfEach_cons_of_contains {held : KeySet} {message : Message} (rest : List Message)
    (known : held.contains message.messageId = true) :
    firstOfEach held (message :: rest) = firstOfEach held rest := by
  simp [firstOfEach, known]

theorem firstOfEach_cons_of_not_contains {held : KeySet} {message : Message} (rest : List Message)
    (fresh : held.contains message.messageId = false) :
    firstOfEach held (message :: rest) =
      message :: firstOfEach (held.add message.messageId) rest := by
  simp [firstOfEach, fresh]

/-- What is kept is part of what came, in the same order. -/
theorem firstOfEach_sublist (held : KeySet) (messages : List Message) :
    (firstOfEach held messages).Sublist messages := by
  induction messages generalizing held with
  | nil => exact List.Sublist.refl _
  | cons message rest ih =>
      cases known : held.contains message.messageId with
      | true =>
          rw [firstOfEach_cons_of_contains rest known]
          exact (ih held).cons message
      | false =>
          rw [firstOfEach_cons_of_not_contains rest known]
          exact (ih _).cons_cons message

/-- **Exactly the ids that were not held are covered.** -/
theorem mem_idsOf_firstOfEach {held : KeySet} {messages : List Message} {id : String} :
    id ∈ idsOf (firstOfEach held messages) ↔
      held.contains id = false ∧ id ∈ idsOf messages := by
  induction messages generalizing held with
  | nil => simp [firstOfEach]
  | cons message rest ih =>
      cases known : held.contains message.messageId with
      | true =>
          rw [firstOfEach_cons_of_contains rest known, ih, idsOf_cons, List.mem_cons]
          constructor
          · rintro ⟨fresh, later⟩
            exact ⟨fresh, Or.inr later⟩
          · rintro ⟨fresh, rfl | later⟩
            · rw [known] at fresh
              cases fresh
            · exact ⟨fresh, later⟩
      | false =>
          rw [firstOfEach_cons_of_not_contains rest known, idsOf_cons, idsOf_cons, List.mem_cons,
            List.mem_cons, ih, KeySet.contains_add]
          by_cases here : id = message.messageId
          · subst here
            simp [known]
          · simp [here]

/-- No id is kept twice. -/
theorem nodup_idsOf_firstOfEach (held : KeySet) (messages : List Message) :
    (idsOf (firstOfEach held messages)).Nodup := by
  induction messages generalizing held with
  | nil => exact List.Pairwise.nil
  | cons message rest ih =>
      cases known : held.contains message.messageId with
      | true =>
          rw [firstOfEach_cons_of_contains rest known]
          exact ih held
      | false =>
          rw [firstOfEach_cons_of_not_contains rest known, idsOf_cons, List.nodup_cons]
          refine ⟨fun later => ?_, ih _⟩
          have fresh := (mem_idsOf_firstOfEach.1 later).1
          simp [KeySet.contains_add] at fresh

/-- Two pages that come one after the other are kept as if they came at once. -/
theorem firstOfEach_append (held : KeySet) (front back : List Message) :
    firstOfEach held (front ++ back) =
      firstOfEach held front ++ firstOfEach (withIds held front) back := by
  induction front generalizing held with
  | nil => rfl
  | cons message rest ih =>
      have step : withIds held (message :: rest) = withIds (held.add message.messageId) rest := rfl
      cases known : held.contains message.messageId with
      | true =>
          rw [List.cons_append, firstOfEach_cons_of_contains _ known, ih held,
            firstOfEach_cons_of_contains _ known, step, KeySet.add_of_contains known]
      | false =>
          rw [List.cons_append, firstOfEach_cons_of_not_contains _ known, ih,
            firstOfEach_cons_of_not_contains _ known, List.cons_append, step]

/-- The messages whose ids are held are passed over, and then all repetitions. -/
theorem firstOfEach_eq_eraseDupsBy (held : KeySet) (messages : List Message) :
    firstOfEach held messages =
      (messages.filter fun message => !held.contains message.messageId).eraseDupsBy
        fun left right => left.messageId == right.messageId := by
  induction messages generalizing held with
  | nil => rfl
  | cons message rest ih =>
      cases known : held.contains message.messageId with
      | true =>
          rw [firstOfEach_cons_of_contains rest known, ih, List.filter_cons_of_neg (by simp [known])]
      | false =>
          have apart : ∀ other : Message,
              (!(held.add message.messageId).contains other.messageId) =
                (decide ((other.messageId == message.messageId) = false) &&
                  !held.contains other.messageId) := by
            intro other
            rw [KeySet.contains_add, Bool.not_or]
            by_cases here : other.messageId = message.messageId <;> simp [here]
          rw [firstOfEach_cons_of_not_contains rest known, ih,
            List.filter_cons_of_pos (by simp [known]), List.eraseDupsBy_cons, List.filter_filter]
          simp only [apart]

/-- Where no id is repeated nothing is passed over. -/
theorem eraseDupsBy_of_nodup {messages : List Message} (distinct : (idsOf messages).Nodup) :
    (messages.eraseDupsBy fun left right => left.messageId == right.messageId) = messages := by
  induction messages with
  | nil => rfl
  | cons message rest ih =>
      obtain ⟨fresh, later⟩ := List.nodup_cons.1 distinct
      rw [List.eraseDupsBy_cons, List.filter_eq_self.2, ih later]
      intro other member
      have apart : other.messageId ≠ message.messageId := fun same =>
        fresh (same ▸ List.mem_map_of_mem member)
      simp [apart]

/-- Messages that are passed over bring no id that was not held. -/
theorem withIds_firstOfEach (held : KeySet) (messages : List Message) :
    withIds held (firstOfEach held messages) = withIds held messages := by
  apply KeySet.ext_contains
  intro id
  rw [Bool.eq_iff_iff, contains_withIds, contains_withIds, mem_idsOf_firstOfEach]
  cases known : held.contains id <;> simp

end SessionSync.Log
