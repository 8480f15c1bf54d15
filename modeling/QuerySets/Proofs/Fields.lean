import QuerySets.Fields

/-!
Fields written one after the other. A lookup finds what was written last under its
name, so where all writes of a name agree the order in which they came does not count.
-/

namespace QuerySets.Fields

open Association

variable {α : Type}

instance (d : Fields α) : Decidable d.Distinct := inferInstanceAs (Decidable d.keys.Nodup)

/-- The last of the pairs with a name wins over what is there. -/
theorem get?_insertAll (pairs : List (String × α)) (d : Fields α) (key : String) :
    (pairs.foldl (fun d pair => d.insert pair.1 pair.2) d).get? key =
      (pairs.reverse.lookup key).or (d.get? key) := by
  induction pairs generalizing d with
  | nil => rfl
  | cons pair rest ih =>
    rw [List.foldl_cons, ih, get?_insert, List.reverse_cons]
    rw [List.lookup_append, Option.or_assoc, lookup_cons]
    congr 1
    split <;> rfl

/-- Where the pairs say at most one thing about a name, that is what is found. -/
theorem lookup_eq_of_mem_iff {key : String} {wanted : Option α} {entries : List (String × α)}
    (h : ∀ content, (key, content) ∈ entries ↔ wanted = some content) :
    entries.lookup key = wanted := by
  cases hlookup : entries.lookup key with
  | some content => exact ((h content).mp (mem_of_lookup hlookup)).symm
  | none =>
    cases wanted with
    | none => rfl
    | some content =>
      obtain ⟨found, hfound⟩ := exists_lookup_of_mem ((h content).mpr rfl)
      rw [hlookup] at hfound
      cases hfound

theorem get?_ofList_of_mem_iff {pairs : List (String × α)} {key : String} {wanted : Option α}
    (h : ∀ content, (key, content) ∈ pairs ↔ wanted = some content) :
    (ofList pairs).get? key = wanted := by
  have hlookup : pairs.reverse.lookup key = wanted :=
    lookup_eq_of_mem_iff fun content => by rw [List.mem_reverse, h]
  rw [ofList, get?_insertAll, hlookup]
  cases wanted <;> rfl

theorem distinct_ofList (pairs : List (String × α)) : (ofList pairs).Distinct := by
  have hfrom : ∀ (rest : List (String × α)) (d : Fields α), d.Distinct →
      (rest.foldl (fun d pair => d.insert pair.1 pair.2) d).Distinct := by
    intro rest
    induction rest with
    | nil => exact fun _ hd => hd
    | cons pair rest ih => exact fun d hd => ih _ (hd.insert pair.1 pair.2)
  exact hfrom pairs empty List.nodup_nil

theorem insertAll_of_nodup {pairs : List (String × α)} (d : Fields α)
    (h : (d.keys ++ pairs.map (·.1)).Nodup) :
    pairs.foldl (fun d pair => d.insert pair.1 pair.2) d = ⟨d.entries ++ pairs⟩ := by
  induction pairs generalizing d with
  | nil => simp
  | cons pair rest ih =>
    obtain ⟨key, content⟩ := pair
    have hnew : key ∉ d.entries.map (·.1) := fun hmem =>
      (List.nodup_append.mp h).2.2 key hmem key List.mem_cons_self rfl
    have hinsert : d.insert key content = ⟨d.entries ++ [(key, content)]⟩ := by
      rw [insert, keys_put_of_notMem hnew]
    rw [List.foldl_cons, hinsert, ih]
    · rw [List.append_assoc, List.singleton_append]
    · simpa [keys] using h

/-- All pairs are kept as they are exactly if no name comes twice. -/
theorem entries_ofList_iff {pairs : List (String × α)} :
    (ofList pairs).entries = pairs ↔ (pairs.map (·.1)).Nodup := by
  constructor
  · intro h
    have hdistinct : (ofList pairs).Distinct := distinct_ofList pairs
    rwa [Distinct, keys, h] at hdistinct
  · intro h
    rw [ofList, insertAll_of_nodup empty h]
    rfl

theorem Distinct.mem_iff {d : Fields α} (h : d.Distinct) {key : String} {content : α} :
    (key, content) ∈ d.entries ↔ d.get? key = some content :=
  mem_iff_lookup h

theorem mem_put {key : String} {content : α} {entries : List (String × α)} {entry : String × α}
    (h : entry ∈ put key content entries) : entry = (key, content) ∨ entry ∈ entries := by
  induction entries with
  | nil => exact Or.inl (List.mem_singleton.mp h)
  | cons head rest ih =>
    obtain ⟨k, old⟩ := head
    simp only [put] at h
    split at h
    next hk =>
      rcases List.mem_cons.mp h with heq | hmem
      · exact Or.inl (hk ▸ heq)
      · exact Or.inr (List.mem_cons_of_mem _ hmem)
    next =>
      rcases List.mem_cons.mp h with heq | hmem
      · exact Or.inr (heq ▸ List.mem_cons_self)
      · exact (ih hmem).imp_right (List.mem_cons_of_mem _)

theorem mem_ofList {pairs : List (String × α)} {entry : String × α}
    (h : entry ∈ (ofList pairs).entries) : entry ∈ pairs := by
  have hfrom : ∀ (rest : List (String × α)) (d : Fields α),
      entry ∈ (rest.foldl (fun d pair => d.insert pair.1 pair.2) d).entries →
        entry ∈ d.entries ∨ entry ∈ rest := by
    intro rest
    induction rest with
    | nil => exact fun _ => Or.inl
    | cons pair rest ih =>
      intro d hmem
      rcases ih (d.insert pair.1 pair.2) hmem with hfirst | hrest
      · rcases mem_put hfirst with rfl | hold
        · exact Or.inr List.mem_cons_self
        · exact Or.inl hold
      · exact Or.inr (List.mem_cons_of_mem _ hrest)
  exact (hfrom pairs empty h).resolve_left List.not_mem_nil

/-- Where each name stands once, nothing is found under an erased one. -/
theorem Distinct.get?_erase {d : Fields α} (h : d.Distinct) (key other : String) :
    (d.erase key).get? other = if key = other then none else d.get? other := by
  obtain ⟨entries⟩ := d
  change (entries.map (·.1)).Nodup at h
  change (entries.eraseP (·.1 == key)).lookup other =
    if key = other then none else entries.lookup other
  induction entries with
  | nil => simp
  | cons entry rest ih =>
    obtain ⟨k, content⟩ := entry
    obtain ⟨hnotin, hrest⟩ := List.nodup_cons.mp h
    by_cases hk : k = key
    · subst hk
      simp only [List.eraseP_cons, beq_self_eq_true, cond_true]
      by_cases hother : k = other
      · subst hother
        simpa using lookup_eq_none_iff.mpr hnotin
      · simp [hother, lookup_cons]
    · have hkey : ((k == key) = false) := by simpa using hk
      simp only [List.eraseP_cons, hkey, cond_false, lookup_cons, ih hrest]
      by_cases hother : k = other
      · subst hother
        simp [Ne.symm hk]
      · simp [hother]

/-- Erasing one name leaves what is found under the others. -/
theorem get?_erase_of_ne {key other : String} (h : key ≠ other) (d : Fields α) :
    (d.erase key).get? other = d.get? other := by
  obtain ⟨entries⟩ := d
  change (entries.eraseP (·.1 == key)).lookup other = entries.lookup other
  induction entries with
  | nil => rfl
  | cons entry rest ih =>
    obtain ⟨k, content⟩ := entry
    by_cases hk : k = key
    · simp [hk, lookup_cons, h]
    · simp [hk, lookup_cons, ih]

theorem erase_of_get?_eq_none {d : Fields α} {key : String} (h : d.get? key = none) :
    d.erase key = d := by
  have hkey : ∀ entry ∈ d.entries, ¬ (entry.1 == key) = true := by
    rintro ⟨k, content⟩ hentry heq
    obtain rfl : k = key := by simpa using heq
    obtain ⟨found, hfound⟩ := exists_lookup_of_mem hentry
    rw [← get?, h] at hfound
    cases hfound
  exact congrArg Fields.mk (List.eraseP_of_forall_not hkey)

/-- What is written twice under a name is as if only the later one were written. -/
theorem put_put (key : String) (earlier later : α) (entries : List (String × α)) :
    put key later (put key earlier entries) = put key later entries := by
  induction entries with
  | nil => simp [put]
  | cons entry rest ih =>
    obtain ⟨k, old⟩ := entry
    by_cases hk : k = key
    · simp [put, hk]
    · simp [put, hk, ih]

theorem insert_insert (d : Fields α) (key : String) (earlier later : α) :
    (d.insert key earlier).insert key later = d.insert key later :=
  congrArg Fields.mk (put_put key earlier later d.entries)

/-- Writing what is there changes nothing. -/
theorem insert_of_get? {d : Fields α} {key : String} {content : α}
    (h : d.get? key = some content) : d.insert key content = d := by
  obtain ⟨entries⟩ := d
  change entries.lookup key = some content at h
  suffices hput : put key content entries = entries from congrArg Fields.mk hput
  induction entries with
  | nil => cases h
  | cons entry rest ih =>
    obtain ⟨k, old⟩ := entry
    by_cases hk : k = key
    · simp only [lookup_cons, if_pos hk] at h
      simp [put, hk, Option.some.inj h]
    · simp only [lookup_cons, if_neg hk] at h
      simp [put, hk, ih h]

/-- Writing all fields of one record over those of another. -/
theorem Distinct.get?_insertAll {own : Fields α} (h : own.Distinct) (d : Fields α)
    (key : String) :
    (own.entries.foldl (fun d pair => d.insert pair.1 pair.2) d).get? key =
      (own.get? key).or (d.get? key) := by
  have hlookup : own.entries.reverse.lookup key = own.get? key :=
    lookup_eq_of_mem_iff fun content => by rw [List.mem_reverse, h.mem_iff]
  rw [Fields.get?_insertAll, hlookup]

end QuerySets.Fields
