import QuerySets.Association
import QuerySets.Cache

/-!
What a cache may hold. A relation between keys and values that holds of all entries
survives every operation on the cache, as long as what is loaded has it too; after an
invalidation only the entries of other keys have to have it.
-/

namespace QuerySets.Cache

variable {α ε : Type}

/-- Every entry stands in the relation to its key. -/
def Holds (P : String → α → Prop) (c : Cache α) : Prop := ∀ entry ∈ c.entries, P entry.1 entry.2

variable {P Q : String → α → Prop} {c : Cache α}

theorem holds_new (config : CacheConfig) : (new config : Cache α).Holds P := by
  intro entry h
  simp [new] at h

theorem Holds.clear (c : Cache α) : c.clear.Holds P := by
  intro entry h
  simp [Cache.clear] at h

theorem Holds.invalidate (h : c.Holds P) {key : String}
    (hother : ∀ other a, other ≠ key → P other a → Q other a) : (c.invalidate key).Holds Q := by
  intro entry hentry
  obtain ⟨hmem, hne⟩ := List.mem_filter.mp hentry
  exact hother entry.1 entry.2 (of_decide_eq_true hne) (h entry hmem)

/-- Moving an entry to the front, or putting one there, adds nothing else. -/
theorem holds_front (h : c.Holds P) {key : String} {a : α} (ha : P key a) (capacity : Nat) :
    (Cache.mk capacity ((key, a) :: others key c.entries)).Holds P := by
  intro entry hentry
  rcases List.mem_cons.mp hentry with rfl | hmem
  · exact ha
  · exact h entry (List.mem_filter.mp hmem).1

theorem Holds.insert (h : c.Holds P) {key : String} {a : α} (ha : P key a) :
    (c.insert key a).Holds P :=
  fun entry hentry => holds_front h ha c.capacity entry (List.mem_of_mem_take hentry)

/-- A value is either one that the cache holds or one that was loaded. -/
theorem getOrLoad_fst (h : c.Holds P) {key : String} (load : Except ε α) :
    (∃ a, P key a ∧ (c.getOrLoad key load).1 = .ok a) ∨ (c.getOrLoad key load).1 = load := by
  unfold getOrLoad get
  cases hfind : c.entries.lookup key with
  | some a => exact Or.inl ⟨a, h _ (Association.mem_of_lookup hfind), rfl⟩
  | none =>
    right
    cases load <;> rfl

theorem Holds.getOrLoad (h : c.Holds P) {key : String} {load : Except ε α}
    (hload : ∀ a, load = .ok a → P key a) : (c.getOrLoad key load).2.Holds P := by
  unfold Cache.getOrLoad get
  cases hfind : c.entries.lookup key with
  | some a => exact holds_front h (h _ (Association.mem_of_lookup hfind)) c.capacity
  | none =>
    cases load with
    | ok a => exact h.insert (hload a rfl)
    | error e => exact h

/-- A cache that holds only what would be loaded answers what would be loaded. -/
theorem getOrLoad_eq_load (h : c.Holds P) {key : String} {load : Except ε α}
    (hload : ∀ a, P key a → load = .ok a) : (c.getOrLoad key load).1 = load := by
  rcases getOrLoad_fst h load with ⟨a, ha, hresult⟩ | hresult
  · rw [hresult, hload a ha]
  · exact hresult

/-- A cache without room loads every time and keeps nothing. -/
theorem getOrLoad_disabled (key : String) (load : Except ε α) :
    (new .disabled : Cache α).getOrLoad key load = (load, new .disabled) := by
  cases load <;> rfl

end QuerySets.Cache
