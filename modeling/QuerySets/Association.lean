/-!
Lists of pairs as maps from keys. A lookup gives what stands in the first pair of its key.
-/

namespace QuerySets.Association

variable {κ α : Type} [BEq κ] [LawfulBEq κ] {key : κ} {a : α} {entries : List (κ × α)}

theorem lookup_cons [DecidableEq κ] (key k : κ) (a : α) (rest : List (κ × α)) :
    List.lookup key ((k, a) :: rest) = if k = key then some a else List.lookup key rest := by
  by_cases h : k = key
  · subst h
    simp
  · have hne : (key == k) = false := beq_eq_false_iff_ne.mpr (Ne.symm h)
    simp [List.lookup_cons, hne, h]

theorem mem_of_lookup (h : List.lookup key entries = some a) : (key, a) ∈ entries := by
  obtain ⟨_, _, rfl, -⟩ := List.lookup_eq_some_iff.mp h
  exact List.mem_append_right _ List.mem_cons_self

theorem lookup_eq_none_iff : List.lookup key entries = none ↔ key ∉ entries.map (·.1) := by
  rw [List.lookup_eq_none_iff, List.mem_map]
  constructor
  · rintro h ⟨entry, hentry, rfl⟩
    simpa using h entry hentry
  · intro h entry hentry
    exact bne_iff_ne.mpr fun heq => h ⟨entry, hentry, heq.symm⟩

/-- A key has a content if it stands in a pair at all. -/
theorem exists_lookup_of_mem (h : (key, a) ∈ entries) : ∃ b, List.lookup key entries = some b := by
  cases hlookup : List.lookup key entries with
  | some b => exact ⟨b, rfl⟩
  | none => exact absurd (List.mem_map_of_mem h) (lookup_eq_none_iff.mp hlookup)

/-- Where each key stands once, the pairs are what the lookups give. -/
theorem mem_iff_lookup (h : (entries.map (·.1)).Nodup) :
    (key, a) ∈ entries ↔ List.lookup key entries = some a := by
  refine ⟨fun hmem => ?_, mem_of_lookup⟩
  obtain ⟨earlier, later, rfl⟩ := List.append_of_mem hmem
  rw [List.map_append, List.map_cons, List.nodup_append] at h
  have hfirst : ∀ entry ∈ earlier, (key != entry.1) = true := fun entry hentry =>
    bne_iff_ne.mpr fun heq =>
      h.2.2 entry.1 (List.mem_map_of_mem hentry) key List.mem_cons_self heq.symm
  exact List.lookup_eq_some_iff.mpr ⟨earlier, later, rfl, hfirst⟩

/-- Where pairs are kept by their keys, a key finds what it found or nothing. -/
theorem lookup_filter (keep : κ → Bool) (key : κ) (entries : List (κ × α)) :
    (entries.filter (keep ·.1)).lookup key = if keep key then entries.lookup key else none := by
  induction entries with
  | nil => simp
  | cons entry rest ih =>
    obtain ⟨k, a⟩ := entry
    rw [List.filter_cons]
    cases hsame : key == k with
    | true =>
      obtain rfl : key = k := eq_of_beq hsame
      cases hkeep : keep key <;> simp [hkeep, ih]
    | false =>
      rw [List.lookup_cons, hsame, ← ih]
      split
      · rw [List.lookup_cons, hsame]
      · rfl

theorem lookup_filter_of_keep {keep : κ → Bool} (h : keep key = true) (entries : List (κ × α)) :
    (entries.filter (keep ·.1)).lookup key = entries.lookup key := by
  rw [lookup_filter, if_pos h]

end QuerySets.Association
