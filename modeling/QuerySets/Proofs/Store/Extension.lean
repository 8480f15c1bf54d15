import QuerySets.Proofs.Store.Memory
import QuerySets.Proofs.Store.Persistent

/-!
Stores that only gain indexes. Declaring an index leaves the documents of every collection
as they are, and the indexes that are there too; a collection gains some of the indexes that
are declared on it, in the order of their declarations.
-/

namespace QuerySets.Store

/-- Indexes that are declared on one collection, as seen from any collection. -/
def declaredAt (collection : String) (indexes : List Index) (name : String) : List Index :=
  if collection = name then indexes else []

/-- The later store has the same documents, and besides the indexes of the earlier one it has
some of those that are declared. A zero character in the name of a collection could make it
see the indexes of another one. -/
structure Extends (declared : String → List Index) (s s' : Store) : Prop where
  documents : ∀ name, s'.documents name = s.documents name
  indexes : ∀ name : String, '\x00' ∉ name.toList → ∀ is, s.indexes name = .ok is →
    ∃ is' added, s'.indexes name = .ok is' ∧ is'.Perm (is ++ added) ∧
      added.Sublist (declared name)

namespace Extends

variable {declared further : String → List Index} {s s' s'' : Store}

theorem refl (declared : String → List Index) (s : Store) : Extends declared s s where
  documents _ := rfl
  indexes _ _ is his := ⟨is, [], his, List.Perm.of_eq (List.append_nil is).symm,
    List.nil_sublist _⟩

theorem trans (h : Extends declared s s') (h' : Extends further s' s'') :
    Extends (fun name => declared name ++ further name) s s'' where
  documents name := (h'.documents name).trans (h.documents name)
  indexes name hname is his := by
    obtain ⟨is', added, his', hperm, hadded⟩ := h.indexes name hname is his
    obtain ⟨is'', later, his'', hperm', hlater⟩ := h'.indexes name hname is' his'
    refine ⟨is'', added ++ later, his'', ?_, hadded.append hlater⟩
    rw [← List.append_assoc]
    exact hperm'.trans (hperm.append_right later)

theorem mono (h : Extends declared s s')
    (hmore : ∀ name, (declared name).Sublist (further name)) : Extends further s s' where
  documents := h.documents
  indexes name hname is his := by
    obtain ⟨is', added, his', hperm, hadded⟩ := h.indexes name hname is his
    exact ⟨is', added, his', hperm, hadded.trans (hmore name)⟩

end Extends

section Declarations

variable {collection : String} {i : Index}

theorem extends_memory {m m' : MemoryStore} (h : m.ensureIndex collection i = .ok m') :
    Extends (declaredAt collection [i]) (memory m) (memory m') := by
  rcases MemoryStore.eq_or_put_of_ensureIndex h with ⟨-, rfl⟩ | ⟨-, -, rfl⟩
  · exact .refl _ _
  · refine ⟨?documents, ?indexes⟩
    case documents =>
      intro name
      exact congrArg Except.ok (m.documents_put_indexes collection name _)
    case indexes =>
      intro name _ is his
      cases his
      refine ⟨_, declaredAt collection [i] name, rfl, List.Perm.of_eq ?_, List.Sublist.refl _⟩
      rw [MemoryStore.indexes_put, declaredAt]
      by_cases heq : collection = name
      · rw [if_pos heq, if_pos heq, heq]
      · rw [if_neg heq, if_neg heq, List.append_nil]

theorem extends_persistent {p p' : PersistentStore} (hcollection : '\x00' ∉ collection.toList)
    (h : p.ensureIndex collection i = .ok p') :
    Extends (declaredAt collection [i]) (persistent p) (persistent p') := by
  rcases PersistentStore.eq_or_insert_of_ensureIndex h with rfl | ⟨hnew, -, rfl⟩
  · exact .refl _ _
  · refine ⟨fun _ => rfl, ?_⟩
    intro name hname is his
    obtain ⟨is', his', hperm⟩ :=
      PersistentStore.exists_indexes_declare hcollection hname hnew his
    refine ⟨is', declaredAt collection [i] name, his', hperm.trans ?_, List.Sublist.refl _⟩
    rw [declaredAt]
    by_cases heq : collection = name
    · rw [if_pos heq, if_pos heq]
      exact (List.perm_append_singleton i is).symm
    · rw [if_neg heq, if_neg heq, List.append_nil]

/-- A declaration that is granted adds at most its own index. -/
theorem extends_ensureIndex {s s' : Store} (hcollection : '\x00' ∉ collection.toList)
    (h : s.ensureIndex collection i = .ok s') : Extends (declaredAt collection [i]) s s' := by
  cases s with
  | memory m =>
    obtain ⟨m', rfl, hensure⟩ := Kind.memory.ensureIndex_cases h
    exact extends_memory hensure
  | persistent p =>
    obtain ⟨p', rfl, hensure⟩ := Kind.persistent.ensureIndex_cases h
    exact extends_persistent hcollection hensure

end Declarations

end QuerySets.Store
