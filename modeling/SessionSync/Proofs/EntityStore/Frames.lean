import SessionSync.EntityStore
import SessionSync.Proofs.Table

/-!
# What a change of a cache leaves alone

A change of a cache concerns one scope, and it says whether it has changed anything.  The
other scopes it leaves alone, and where it says that nothing has changed the cache is the
one before (`Reports`).
-/

set_option autoImplicit false

namespace SessionSync

/-- A change of a scope that tells whether it has changed the cache, which is read by
scopes. -/
structure Reports {κ β : Type} (get : κ → String → β) (cache : κ) (scope : String)
    (outcome : κ × Bool) : Prop where
  silent : outcome.2 = false → outcome.1 = cache
  elsewhere : ∀ probe ≠ scope, get outcome.1 probe = get cache probe

theorem Reports.silent_here {κ β : Type} {get : κ → String → β} {cache : κ} {scope : String}
    {outcome : κ × Bool} (reports : Reports get cache scope outcome)
    (silent : outcome.2 = false) : get outcome.1 scope = get cache scope := by
  rw [reports.silent silent]

variable {α : Type} (encode : α → Json) (scope : String)

namespace KeyedCache

variable (cache : KeyedCache α)

theorem get_insert_of_ne {probe : String} (elsewhere : probe ≠ scope) (items : Table α) :
    (KeyedCache.mk (cache.scopes.insert scope items)).get probe = cache.get probe := by
  rw [get, Table.find?_insert_of_ne _ _ elsewhere]
  rfl

theorem reports_upsert (key : String) (item : α) :
    Reports get cache scope (cache.upsert encode scope key item) := by
  unfold upsert
  dsimp only
  split
  · exact ⟨fun _ => rfl, fun _ _ => rfl⟩
  · exact ⟨nofun, fun _ elsewhere => cache.get_insert_of_ne scope elsewhere _⟩

theorem reports_remove (key : String) : Reports get cache scope (cache.remove scope key) := by
  unfold remove
  dsimp only
  split
  · exact ⟨nofun, fun _ elsewhere => cache.get_insert_of_ne scope elsewhere _⟩
  · exact ⟨fun _ => rfl, fun _ _ => rfl⟩

theorem get_clear_of_ne {probe : String} (elsewhere : probe ≠ scope) :
    (cache.clear scope).get probe = cache.get probe := by
  rw [get, clear, Table.find?_erase, if_neg elsewhere]
  rfl

end KeyedCache

namespace ListCache

variable (cache : ListCache α)

theorem reports_replace (items : List α) :
    Reports get cache scope (cache.replace encode scope items) := by
  unfold replace
  dsimp only
  split
  · exact ⟨fun _ => rfl, fun _ _ => rfl⟩
  · refine ⟨nofun, fun probe elsewhere => ?_⟩
    rw [get, Table.find?_insert_of_ne _ _ elsewhere]
    rfl

theorem get_clear_of_ne {probe : String} (elsewhere : probe ≠ scope) :
    (cache.clear scope).get probe = cache.get probe := by
  rw [get, clear, Table.find?_erase, if_neg elsewhere]
  rfl

end ListCache

end SessionSync
