import QuerySets.Proofs.Traversal
import QuerySets.Settle
import QuerySets.Store.Basic

/-!
Requests to a store of documents and their answers, so that a use of the store is a
list. A request that is refused is answered with its error and leaves the store as it
was; the requests after it find it so.
-/

namespace QuerySets.Store

inductive Request
  /-- Documents without an identifier get one from the supply. -/
  | insert (ids : IdSupply) (collection : String) (docs : List Document)
  | ensureIndex (collection : String) (index : Index)
  | drop (collection : String)
  | documents (collection : String)
  | indexes (collection : String)
  | find (collection : String) (filter : Document)
  | aggregate (collection : String) (stages : List Document)

/-- What is told of a request that is granted. -/
inductive Answer
  | done
  | inserted (count : Nat)
  | documents (docs : List Document)
  | indexes (indexes : List Index)

def answer (s : Store) : Request → Except StoreError Answer × Store
  | .insert ids collection docs =>
    settle s (.inserted docs.length) ((s.insert ids collection docs).map (·.1))
  | .ensureIndex collection i => settle s .done (s.ensureIndex collection i)
  | .drop collection => (.ok .done, s.drop collection)
  | .documents collection => ((s.documents collection).map .documents, s)
  | .indexes collection => ((s.indexes collection).map .indexes, s)
  | .find collection filter => ((s.find collection filter).map .documents, s)
  | .aggregate collection stages => ((s.aggregate collection stages).map .documents, s)

/-- Answers requests one after the other. -/
def answers (s : Store) : List Request → List (Except StoreError Answer) × Store
  | [] => ([], s)
  | request :: rest =>
    let (first, s) := s.answer request
    let (others, s) := answers s rest
    (first :: others, s)

section Cases

/-- A kind of store, with its own insertions, declarations and drops. -/
structure Kind (σ : Type) where
  store : σ → Store
  store_inj : ∀ {s s' : σ}, store s = store s' → s = s'
  insert : σ → IdSupply → String → List Document → Except StoreError (σ × IdSupply)
  ensureIndex : σ → String → Index → Except StoreError σ
  drop : σ → String → σ
  insert_store : ∀ s ids collection docs, (store s).insert ids collection docs =
    (insert s ids collection docs).map fun result => (store result.1, result.2)
  ensureIndex_store : ∀ s collection i,
    (store s).ensureIndex collection i = (ensureIndex s collection i).map store
  drop_store : ∀ s collection, (store s).drop collection = store (drop s collection)

namespace Kind

abbrev memory : Kind MemoryStore where
  store := Store.memory
  store_inj h := Store.memory.inj h
  insert := MemoryStore.insert
  ensureIndex := MemoryStore.ensureIndex
  drop := MemoryStore.drop
  insert_store _ _ _ _ := rfl
  ensureIndex_store _ _ _ := rfl
  drop_store _ _ := rfl

abbrev persistent : Kind PersistentStore where
  store := Store.persistent
  store_inj h := Store.persistent.inj h
  insert := PersistentStore.insert
  ensureIndex := PersistentStore.ensureIndex
  drop := PersistentStore.drop
  insert_store _ _ _ _ := rfl
  ensureIndex_store _ _ _ := rfl
  drop_store _ _ := rfl

variable {σ : Type} (kind : Kind σ) {s s' : σ} {after : Store} {ids ids' : IdSupply}
  {collection : String} {docs : List Document} {i : Index}

/-- What is granted leaves a store of the same kind. -/
theorem insert_cases (h : (kind.store s).insert ids collection docs = .ok (after, ids')) :
    ∃ s', after = kind.store s' ∧ kind.insert s ids collection docs = .ok (s', ids') := by
  rw [kind.insert_store] at h
  obtain ⟨⟨s', later⟩, hinsert, hpair⟩ := map_eq_ok_iff.mp h
  cases hpair
  exact ⟨s', rfl, hinsert⟩

theorem ensureIndex_cases (h : (kind.store s).ensureIndex collection i = .ok after) :
    ∃ s', after = kind.store s' ∧ kind.ensureIndex s collection i = .ok s' := by
  rw [kind.ensureIndex_store] at h
  obtain ⟨s', hensure, rfl⟩ := map_eq_ok_iff.mp h
  exact ⟨s', rfl, hensure⟩

/-- A request leaves a store of the same kind, and does nothing to it, makes a write that is
granted, or drops a collection. -/
theorem exists_answer (s : σ) (request : Request) :
    ∃ s', ((kind.store s).answer request).2 = kind.store s' ∧
      (s' = s ∨
        (∃ ids ids' collection docs, request = .insert ids collection docs ∧
          kind.insert s ids collection docs = .ok (s', ids')) ∨
        (∃ collection i, request = .ensureIndex collection i ∧
          kind.ensureIndex s collection i = .ok s') ∨
        ∃ collection, request = .drop collection ∧ s' = kind.drop s collection) := by
  obtain ⟨told, after, hanswer⟩ : ∃ told after, (kind.store s).answer request = (told, after) :=
    ⟨_, _, rfl⟩
  rw [hanswer]
  cases request with
  | insert ids collection docs =>
    rcases settle_cases hanswer with ⟨_, -, -, hsame⟩ | ⟨hgranted, -⟩
    · exact ⟨s, hsame, Or.inl rfl⟩
    · obtain ⟨⟨_, ids'⟩, hinsert, rfl⟩ := map_eq_ok_iff.mp hgranted
      obtain ⟨s', rfl, hkind⟩ := kind.insert_cases hinsert
      exact ⟨s', rfl, Or.inr (Or.inl ⟨ids, ids', collection, docs, rfl, hkind⟩)⟩
  | ensureIndex collection i =>
    rcases settle_cases hanswer with ⟨_, -, -, hsame⟩ | ⟨hgranted, -⟩
    · exact ⟨s, hsame, Or.inl rfl⟩
    · obtain ⟨s', rfl, hkind⟩ := kind.ensureIndex_cases hgranted
      exact ⟨s', rfl, Or.inr (Or.inr (Or.inl ⟨collection, i, rfl, hkind⟩))⟩
  | drop collection =>
    cases hanswer
    exact ⟨kind.drop s collection, kind.drop_store s collection,
      Or.inr (Or.inr (Or.inr ⟨collection, rfl, rfl⟩))⟩
  | documents _ | indexes _ | find _ _ | aggregate _ _ =>
    cases hanswer
    exact ⟨s, rfl, Or.inl rfl⟩

/-- What a request does to a store of the kind. -/
theorem answer_cases {request : Request}
    (h : ((kind.store s).answer request).2 = kind.store s') :
    s' = s ∨
      (∃ ids ids' collection docs, request = .insert ids collection docs ∧
        kind.insert s ids collection docs = .ok (s', ids')) ∨
      (∃ collection i, request = .ensureIndex collection i ∧
        kind.ensureIndex s collection i = .ok s') ∨
      ∃ collection, request = .drop collection ∧ s' = kind.drop s collection := by
  obtain ⟨after, hafter, hcases⟩ := kind.exists_answer s request
  obtain rfl := kind.store_inj (h.symm.trans hafter)
  exact hcases

end Kind

end Cases

end QuerySets.Store
