import QuerySets.Proofs.Fields
import QuerySets.Proofs.Store.Index
import QuerySets.Proofs.Store.Requests

/-!
Collections held in memory under requests. A unique index keeps apart all documents of
its collection, whether they came before it was declared or after; the indexes of a
collection have different names, and every document has an identifier. All of this
holds after any requests, granted or refused.
-/

namespace QuerySets

namespace IdSupply

theorem contains_assignOne (s : IdSupply) (d : Document) :
    (s.assignOne d).2.contains "_id" = true := by
  unfold assignOne
  split
  next h => exact h
  next => rfl

theorem contains_of_mem_assign {s : IdSupply} {docs : List Document} {d : Document}
    (h : d ∈ (s.assign docs).2) : d.contains "_id" = true := by
  induction docs generalizing s with
  | nil => cases h
  | cons first rest ih =>
    rcases List.mem_cons.mp h with rfl | hrest
    · exact s.contains_assignOne first
    · exact ih hrest

/-- Documents that have identifiers are left as they are. -/
theorem assign_of_contains (s : IdSupply) {docs : List Document}
    (h : ∀ d ∈ docs, d.contains "_id" = true) : s.assign docs = (s, docs) := by
  induction docs with
  | nil => rfl
  | cons d rest ih =>
    have hfirst : s.assignOne d = (s, d) := if_pos (h d List.mem_cons_self)
    have hrest := ih fun e he => h e (List.mem_cons_of_mem _ he)
    simp [assign, hfirst, hrest]

end IdSupply

namespace MemoryStore

section Writes

theorem collection_put (s : MemoryStore) (name other : String) (c : Collection) :
    (s.put name c).collection other = if name = other then c else s.collection other := by
  simp only [collection, put, Fields.get?_insert]
  split <;> rfl

theorem collection_drop {s : MemoryStore} (h : s.collections.Distinct) (name other : String) :
    (s.drop name).collection other = if name = other then .empty else s.collection other := by
  simp only [collection, drop, h.get?_erase]
  split <;> rfl

theorem documents_put (s : MemoryStore) (name other : String) (c : Collection) :
    (s.put name c).documents other = if name = other then c.documents else s.documents other := by
  rw [documents, collection_put]
  split <;> rfl

theorem indexes_put (s : MemoryStore) (name other : String) (c : Collection) :
    (s.put name c).indexes other = if name = other then c.indexes else s.indexes other := by
  rw [indexes, collection_put]
  split <;> rfl

/-- Other documents in a collection leave all indexes as they are. -/
theorem indexes_put_documents (s : MemoryStore) (name other : String) (docs : List Document) :
    (s.put name ⟨docs, s.indexes name⟩).indexes other = s.indexes other := by
  rw [indexes_put]
  by_cases heq : name = other
  · rw [if_pos heq, heq]
  · rw [if_neg heq]

/-- Other indexes on a collection leave all documents as they are. -/
theorem documents_put_indexes (s : MemoryStore) (name other : String) (indexes : List Index) :
    (s.put name ⟨s.documents name, indexes⟩).documents other = s.documents other := by
  rw [documents_put]
  by_cases heq : name = other
  · rw [if_pos heq, heq]
  · rw [if_neg heq]

theorem insert_eq (s : MemoryStore) (ids : IdSupply) (name : String) (docs : List Document) :
    s.insert ids name docs =
      (Index.checkUnique name (s.indexes name) (s.documents name) (ids.assign docs).2).map fun _ =>
        (s.put name ⟨s.documents name ++ (ids.assign docs).2, s.indexes name⟩,
          (ids.assign docs).1) := by
  change (Index.checkUnique name (s.indexes name) (s.documents name) (ids.assign docs).2 >>=
    fun _ => pure _) = _
  cases Index.checkUnique name (s.indexes name) (s.documents name) (ids.assign docs).2 <;> rfl

theorem ensureIndex_eq (s : MemoryStore) (name : String) (i : Index) :
    s.ensureIndex name i =
      if (s.indexes name).any (·.name == i.name) then .ok s
      else (Index.checkUnique name [i] [] (s.documents name)).map fun _ =>
        s.put name ⟨s.documents name, s.indexes name ++ [i]⟩ := by
  change (if (s.indexes name).any (·.name == i.name) then .ok s
    else Index.checkUnique name [i] [] (s.documents name) >>= fun _ => pure _) = _
  cases Index.checkUnique name [i] [] (s.documents name) <;> rfl

/-- Documents that are granted have passed the check and are appended. -/
theorem put_of_insert {s s' : MemoryStore} {ids ids' : IdSupply} {name : String}
    {docs : List Document} (h : s.insert ids name docs = .ok (s', ids')) :
    Index.checkUnique name (s.indexes name) (s.documents name) (ids.assign docs).2 = .ok () ∧
      s' = s.put name ⟨s.documents name ++ (ids.assign docs).2, s.indexes name⟩ := by
  rw [insert_eq] at h
  cases hcheck : Index.checkUnique name (s.indexes name) (s.documents name)
      (ids.assign docs).2 with
  | error e =>
    rw [hcheck] at h
    cases h
  | ok _ =>
    rw [hcheck] at h
    cases h
    exact ⟨rfl, rfl⟩

/-- A declaration that is granted finds an index of its name and changes nothing, or it has
passed the check and is added. -/
theorem eq_or_put_of_ensureIndex {s s' : MemoryStore} {name : String} {i : Index}
    (h : s.ensureIndex name i = .ok s') :
    (s.indexes name).any (·.name == i.name) = true ∧ s' = s ∨
      (s.indexes name).any (·.name == i.name) = false ∧
        Index.checkUnique name [i] [] (s.documents name) = .ok () ∧
        s' = s.put name ⟨s.documents name, s.indexes name ++ [i]⟩ := by
  rw [ensureIndex_eq] at h
  by_cases hknown : (s.indexes name).any (·.name == i.name) = true
  · rw [if_pos hknown] at h
    cases h
    exact Or.inl ⟨hknown, rfl⟩
  · rw [if_neg hknown] at h
    cases hcheck : Index.checkUnique name [i] [] (s.documents name) with
    | error e =>
      rw [hcheck] at h
      cases h
    | ok _ =>
      rw [hcheck] at h
      cases h
      exact Or.inr ⟨Bool.eq_false_iff.mpr hknown, rfl, rfl⟩

end Writes

end MemoryStore

/-- A collection whose unique indexes hold: of two documents the earlier one never has
the key of the later one. -/
structure Collection.Sound (c : Collection) : Prop where
  separated : ∀ i ∈ c.indexes, i.unique = true → c.documents.Pairwise i.Separates
  named : (c.indexes.map Index.name).Nodup
  identified : ∀ d ∈ c.documents, d.contains "_id" = true

namespace Collection

theorem sound_empty : empty.Sound where
  separated _ hi := absurd hi List.not_mem_nil
  named := List.nodup_nil
  identified _ hd := absurd hd List.not_mem_nil

/-- Documents that the check of the indexes accepts can be appended. -/
theorem Sound.append {c : Collection} (h : c.Sound) {name : String} {docs : List Document}
    (hids : ∀ d ∈ docs, d.contains "_id" = true)
    (hcheck : Index.checkUnique name c.indexes c.documents docs = .ok ()) :
    Sound ⟨c.documents ++ docs, c.indexes⟩ where
  separated i hi hunique := by
    obtain ⟨hacross, hwithin⟩ := Index.checkUnique_eq_ok_iff.mp hcheck i hi hunique
    exact List.pairwise_append.mpr ⟨h.separated i hi hunique, hwithin, hacross⟩
  named := h.named
  identified d hd := (List.mem_append.mp hd).elim (h.identified d) (hids d)

/-- An index of a new name that accepts the documents that are there can be declared. -/
theorem Sound.declare {c : Collection} (h : c.Sound) {name : String} {i : Index}
    (hname : c.indexes.any (·.name == i.name) = false)
    (hcheck : Index.checkUnique name [i] [] c.documents = .ok ()) :
    Sound ⟨c.documents, c.indexes ++ [i]⟩ where
  separated j hj hunique := by
    rcases List.mem_append.mp hj with hold | hnew
    · exact h.separated j hold hunique
    · rw [List.mem_singleton.mp hnew] at hunique ⊢
      exact (Index.checkUnique_eq_ok_iff.mp hcheck i List.mem_cons_self hunique).2
  named := by
    have hfresh : ∀ j ∈ c.indexes, j.name ≠ i.name := by simpa using hname
    rw [List.map_append]
    refine List.nodup_append.mpr ⟨h.named, List.pairwise_singleton _ _, ?_⟩
    intro a ha b hb
    obtain ⟨j, hj, rfl⟩ := List.mem_map.mp ha
    rw [List.map_singleton, List.mem_singleton] at hb
    exact hb ▸ hfresh j hj
  identified := h.identified

end Collection

namespace MemoryStore

/-- Every collection is sound, and each name is that of one collection. -/
structure Sound (s : MemoryStore) : Prop where
  distinct : s.collections.Distinct
  sound : ∀ name, (s.collection name).Sound

theorem sound_empty : empty.Sound where
  distinct := List.nodup_nil
  sound _ := Collection.sound_empty

variable {s s' : MemoryStore}

theorem Sound.put (h : s.Sound) (name : String) {c : Collection} (hc : c.Sound) :
    (s.put name c).Sound where
  distinct := h.distinct.insert name c
  sound other := by
    rw [collection_put]
    split
    · exact hc
    · exact h.sound other

theorem Sound.insert (h : s.Sound) {ids ids' : IdSupply} {name : String} {docs : List Document}
    (hinsert : s.insert ids name docs = .ok (s', ids')) : s'.Sound := by
  obtain ⟨hcheck, rfl⟩ := put_of_insert hinsert
  exact h.put name ((h.sound name).append (fun _ hd => IdSupply.contains_of_mem_assign hd) hcheck)

theorem Sound.ensureIndex (h : s.Sound) {name : String} {i : Index}
    (hensure : s.ensureIndex name i = .ok s') : s'.Sound := by
  rcases eq_or_put_of_ensureIndex hensure with ⟨-, rfl⟩ | ⟨hname, hcheck, rfl⟩
  · exact h
  · exact h.put name ((h.sound name).declare hname hcheck)

theorem Sound.drop (h : s.Sound) (name : String) : (s.drop name).Sound where
  distinct := h.distinct.erase name
  sound other := by
    rw [collection_drop h.distinct]
    split
    · exact Collection.sound_empty
    · exact h.sound other

/-- Granted or refused, a request leaves a sound store in memory sound. -/
theorem Sound.answer (h : s.Sound) (request : Store.Request) :
    ∃ s', ((Store.memory s).answer request).2 = .memory s' ∧ s'.Sound := by
  obtain ⟨s', hs', hcases⟩ := Store.Kind.memory.exists_answer s request
  refine ⟨s', hs', ?_⟩
  rcases hcases with rfl | ⟨ids, ids', name, docs, -, hinsert⟩ | ⟨name, i, -, hensure⟩ |
      ⟨name, -, rfl⟩
  · exact h
  · exact h.insert hinsert
  · exact h.ensureIndex hensure
  · exact h.drop name

theorem Sound.answers (h : s.Sound) (requests : List Store.Request) :
    ∃ s', ((Store.memory s).answers requests).2 = .memory s' ∧ s'.Sound := by
  induction requests generalizing s with
  | nil => exact ⟨s, rfl, h⟩
  | cons request rest ih =>
    obtain ⟨after, hafter, hsound⟩ := h.answer request
    obtain ⟨last, hlast, hend⟩ := ih hsound
    refine ⟨last, ?_, hend⟩
    simp only [Store.answers, hafter]
    exact hlast

/-- After any requests to a store that starts out empty, no unique index of a collection
finds the key of an earlier document in a later one, the indexes of a collection have
different names, and every document has an identifier. -/
theorem unique_indexes_hold (requests : List Store.Request) :
    ∃ s : MemoryStore, ((Store.memory .empty).answers requests).2 = .memory s ∧
      ∀ collection,
        (∀ i ∈ s.indexes collection, i.unique = true →
          (s.documents collection).Pairwise fun earlier later =>
            ¬ List.Forall₂ (fun a b => Value.looseEq a b = true)
              (i.keyOf earlier) (i.keyOf later)) ∧
        ((s.indexes collection).map Index.name).Nodup ∧
        ∀ d ∈ s.documents collection, d.contains "_id" = true := by
  obtain ⟨s, hs, hsound⟩ := sound_empty.answers requests
  refine ⟨s, hs, ?_⟩
  intro collection
  have hcollection := hsound.sound collection
  exact ⟨hcollection.separated, hcollection.named, hcollection.identified⟩

end MemoryStore

end QuerySets
