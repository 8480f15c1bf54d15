import QuerySets.Proofs.Store.Memory
import QuerySets.Proofs.Store.Persistent

/-!
Both kinds of stores under the same requests. A collection in memory and its records hold
the same documents in the same order and the same indexes, the latter perhaps in another
order; every request keeps this. So both stores grant and refuse the same requests and
answer them alike, although the persistent one is closed and opened again in between.
-/

namespace QuerySets

namespace Store

/-- What happens to a store. When a store that is kept is opened again, some of its counts
may have been set aside and are not used any more. -/
inductive Event
  | request (request : Request)
  | reopen (aside : Nat)

def reopen (s : Store) (aside : Nat) : Store :=
  match s with
  | memory s => memory s
  | persistent s => persistent { s with count := s.count + aside }

/-- The answers to the requests among some events, and the store after them. -/
def follow (s : Store) : List Event → List (Except StoreError Answer) × Store
  | [] => ([], s)
  | .request request :: rest =>
    let (first, s) := s.answer request
    let (others, s) := follow s rest
    (first :: others, s)
  | .reopen aside :: rest => follow (s.reopen aside) rest

/-- How many counts a store has used up. -/
def counted : Store → Nat
  | memory _ => 0
  | persistent s => s.count

/-- Two answers that say the same: both refuse, or both grant the same documents in the
same order or the same indexes in any order. -/
inductive Agree : Except StoreError Answer → Except StoreError Answer → Prop
  | refused (e e' : StoreError) : Agree (.error e) (.error e')
  | granted (a : Answer) : Agree (.ok a) (.ok a)
  | indexes {is is' : List Index} (h : is.Perm is') : Agree (.ok (.indexes is)) (.ok (.indexes is'))

theorem Agree.refl (answer : Except StoreError Answer) : Agree answer answer := by
  cases answer with
  | ok a => exact .granted a
  | error e => exact .refused e e

/-- The collection a request is about. -/
def Request.collection : Request → String
  | .insert _ collection _ | .ensureIndex collection _ | .drop collection | .documents collection
  | .indexes collection | .find collection _ | .aggregate collection _ => collection

/-- A document that has its own identifier and is read back from its record as it is. -/
structure Kept (d : Document) : Prop where
  identified : d.contains "_id" = true
  restored : PersistentStore.decodeDocument d.toJson = .ok d

/-- The request is about a collection whose name has no zero character, and the documents
it inserts can be kept. -/
structure Request.Admissible (request : Request) : Prop where
  named : '\x00' ∉ request.collection.toList
  kept : ∀ ids collection docs, request = .insert ids collection docs → ∀ d ∈ docs, Kept d

/-- The records of a persistent store stand for the collections of a store in memory. -/
structure Related (m : MemoryStore) (p : PersistentStore) : Prop where
  collections : m.collections.Distinct
  sound : p.Sound
  records : ∀ name, (p.tree name).values = (m.documents name).map (·.toJson)
  kept : ∀ name, ∀ d ∈ m.documents name, Kept d
  declared : ∀ name : String, '\x00' ∉ name.toList →
    (p.indexTree.scan (PersistentStore.indexStart name)).Perm ((m.indexes name).map (·.toJson))
  indexNames : ∀ name : String, '\x00' ∉ name.toList → ∀ key : String,
    p.indexTree.contains (PersistentStore.indexStart name ++ key.toList) =
      (m.indexes name).any (·.name == key)

/-- Both stores answer a request in the same way and are related after it. -/
def AnswerAlike (m : MemoryStore) (p : PersistentStore) (request : Request) : Prop :=
  ∃ m' p', ((memory m).answer request).2 = .memory m' ∧
    ((persistent p).answer request).2 = .persistent p' ∧
    Agree ((memory m).answer request).1 ((persistent p).answer request).1 ∧ Related m' p'

theorem related_empty : Related .empty .empty where
  collections := List.nodup_nil
  sound := .empty
  records _ := rfl
  kept _ _ hd := absurd hd List.not_mem_nil
  declared _ _ := List.Perm.nil
  indexNames _ _ _ := rfl

namespace Related

variable {m : MemoryStore} {p : PersistentStore} {name : String}

section Reads

theorem documents (h : Related m p) (name : String) :
    p.documents name = .ok (m.documents name) := by
  rw [PersistentStore.documents_eq, h.records]
  exact mapM_map_eq_ok fun d hd => (h.kept name d hd).restored

theorem indexes (h : Related m p) (hname : '\x00' ∉ name.toList) :
    ∃ is, p.indexes name = .ok is ∧ is.Perm (m.indexes name) :=
  mapM_eq_ok_of_perm PersistentStore.decodeIndex_toJson (h.declared name hname)

end Reads

section Writes

theorem reopen (h : Related m p) (aside : Nat) :
    Related m { p with count := p.count + aside } :=
  { h with sound := h.sound.aside aside }

/-- Documents are appended on both sides. -/
theorem append (h : Related m p) (name : String) {docs : List Document} (hkept : ∀ d ∈ docs, Kept d)
    (hcount : p.count + docs.length ≤ 2 ^ 64) :
    Related (m.put name ⟨m.documents name ++ docs, m.indexes name⟩)
      (p.keep name (docs.map (·.toJson))) := by
  have hlength : p.count + (docs.map (·.toJson)).length ≤ 2 ^ 64 := by
    rw [List.length_map]
    exact hcount
  have hindexes := fun other => m.indexes_put_documents name other (m.documents name ++ docs)
  refine ⟨h.collections.insert name _, h.sound.keep name hlength, ?records, ?kept,
    ?declared, ?indexNames⟩
  case records =>
    intro other
    rw [PersistentStore.tree_keep, MemoryStore.documents_put]
    split
    · rw [PersistentStore.values_keepRecords (h.sound.counted name) hlength, h.records,
        List.map_append]
    · exact h.records other
  case kept =>
    intro other d hd
    rw [MemoryStore.documents_put] at hd
    split at hd
    · exact (List.mem_append.mp hd).elim (h.kept name d) (hkept d)
    · exact h.kept other d hd
  case declared =>
    intro other hother
    rw [hindexes]
    exact h.declared other hother
  case indexNames =>
    intro other hother
    rw [hindexes]
    exact h.indexNames other hother

/-- An index of a new name is declared on both sides. -/
theorem declare (h : Related m p) (hname : '\x00' ∉ name.toList) {i : Index}
    (hnew : (m.indexes name).any (·.name == i.name) = false) :
    Related (m.put name ⟨m.documents name, m.indexes name ++ [i]⟩)
      { p with
        indexTree := p.indexTree.insert (PersistentStore.indexStart name ++ i.name.toList)
          i.toJson } := by
  have hdocuments := fun other => m.documents_put_indexes name other (m.indexes name ++ [i])
  have hfree : p.indexTree.get? (PersistentStore.indexStart name ++ i.name.toList) = none := by
    have hcontains := h.indexNames name hname i.name
    rw [hnew] at hcontains
    exact Option.not_isSome_iff_eq_none.mp (Bool.eq_false_iff.mp hcontains)
  refine ⟨h.collections.insert name _, h.sound.declare _ i, ?records, ?kept,
    ?declared, ?indexNames⟩
  case records =>
    intro other
    rw [hdocuments]
    exact h.records other
  case kept =>
    intro other
    rw [hdocuments]
    exact h.kept other
  case declared =>
    intro other hother
    refine (Tree.scan_insert_perm hfree i.toJson _).trans ?_
    simp only [MemoryStore.indexes_put, PersistentStore.isPrefixOf_indexStart hother hname,
      decide_eq_true_iff]
    split
    next heq =>
      subst heq
      rw [List.map_append]
      exact ((h.declared name hname).cons i.toJson).trans (List.perm_append_singleton _ _).symm
    next => exact h.declared other hother
  case indexNames =>
    intro other hother key
    have hlookup : (p.indexTree.insert (PersistentStore.indexStart name ++ i.name.toList)
        i.toJson).contains (PersistentStore.indexStart other ++ key.toList) =
          (decide (name = other ∧ i.name = key) || (m.indexes other).any (·.name == key)) := by
      rw [Tree.contains, Tree.get?_insert, ← h.indexNames other hother key]
      split
      next heq =>
        have hsame := PersistentStore.indexKey_inj hname hother heq
        simp [hsame]
      next hne =>
        have hdiffer : ¬ (name = other ∧ i.name = key) := by
          rintro ⟨rfl, rfl⟩
          exact hne rfl
        simp [hdiffer, Tree.contains]
    rw [hlookup, MemoryStore.indexes_put]
    by_cases heq : name = other
    · subst heq
      simp [Bool.or_comm, beq_eq_decide]
    · simp [heq]

theorem drop (h : Related m p) (hname : '\x00' ∉ name.toList) :
    Related (m.drop name) (p.drop name) := by
  refine ⟨h.collections.erase name, h.sound.drop name, ?records, ?kept,
    ?declared, ?indexNames⟩
  case records =>
    intro other
    rw [PersistentStore.tree_drop h.sound.data, MemoryStore.documents,
      MemoryStore.collection_drop h.collections]
    split
    · rfl
    · exact h.records other
  case kept =>
    intro other d hd
    rw [MemoryStore.documents, MemoryStore.collection_drop h.collections] at hd
    split at hd
    · cases hd
    · exact h.kept other d hd
  case declared =>
    intro other hother
    rw [MemoryStore.indexes, MemoryStore.collection_drop h.collections,
      PersistentStore.scan_drop hname hother]
    split
    · exact List.Perm.nil
    · exact h.declared other hother
  case indexNames =>
    intro other hother key
    rw [MemoryStore.indexes, MemoryStore.collection_drop h.collections,
      PersistentStore.contains_drop hname hother]
    split
    · rfl
    · exact h.indexNames other hother key

end Writes

section Answers

theorem insert (h : Related m p) (hname : '\x00' ∉ name.toList) (ids : IdSupply)
    {docs : List Document} (hkept : ∀ d ∈ docs, Kept d)
    (hcount : ((persistent p).answer (.insert ids name docs)).2.counted ≤ 2 ^ 64) :
    AnswerAlike m p (.insert ids name docs) := by
  obtain ⟨is, hread, hperm⟩ := h.indexes hname
  have hassign := ids.assign_of_contains fun d hd => (hkept d hd).identified
  have hmemory := m.insert_eq ids name docs
  have hpersistent := PersistentStore.insert_eq_of_read hread (h.documents name) ids docs
  have hsame : Index.checkUnique name is (m.documents name) docs = .ok () ↔
      Index.checkUnique name (m.indexes name) (m.documents name) docs = .ok () :=
    Index.checkUnique_eq_ok_iff_of_perm hperm
  rw [hassign] at hmemory hpersistent
  simp only [AnswerAlike, Store.answer, Store.insert, hmemory, hpersistent] at hcount ⊢
  cases hin : Index.checkUnique name (m.indexes name) (m.documents name) docs with
  | error e =>
    cases hout : Index.checkUnique name is (m.documents name) docs with
    | error e' => exact ⟨m, p, rfl, rfl, .refused e e', h⟩
    | ok _ =>
      rw [hsame.mp hout] at hin
      cases hin
  | ok _ =>
    rw [hsame.mpr hin] at hcount ⊢
    refine ⟨_, _, rfl, rfl, .granted _, h.append name hkept ?_⟩
    rw [← List.length_map (·.toJson)]
    exact hcount

theorem ensureIndex (h : Related m p) (hname : '\x00' ∉ name.toList) (i : Index) :
    AnswerAlike m p (.ensureIndex name i) := by
  have hmemory := m.ensureIndex_eq name i
  have hpersistent := PersistentStore.ensureIndex_eq_of_read (h.documents name) i
  rw [h.indexNames name hname] at hpersistent
  simp only [AnswerAlike, Store.answer, Store.ensureIndex, hmemory, hpersistent]
  cases hknown : (m.indexes name).any (·.name == i.name) with
  | true => exact ⟨m, p, rfl, rfl, .granted _, h⟩
  | false =>
    cases hcheck : Index.checkUnique name [i] [] (m.documents name) with
    | error e => exact ⟨m, p, rfl, rfl, .refused e e, h⟩
    | ok _ => exact ⟨_, _, rfl, rfl, .granted _, h.declare hname hknown⟩

theorem answer (h : Related m p) {request : Request} (hrequest : request.Admissible)
    (hcount : ((persistent p).answer request).2.counted ≤ 2 ^ 64) :
    AnswerAlike m p request := by
  obtain ⟨hname, hkept⟩ := hrequest
  cases request with
  | insert ids name docs => exact h.insert hname ids (hkept ids name docs rfl) hcount
  | ensureIndex name i => exact h.ensureIndex hname i
  | drop name => exact ⟨_, _, rfl, rfl, .granted _, h.drop hname⟩
  | documents name =>
    refine ⟨m, p, rfl, rfl, ?_, h⟩
    simp only [Store.answer, Store.documents, h.documents name]
    exact .granted _
  | indexes name =>
    have hfree : '\x00' ∉ name.toList := hname
    obtain ⟨is, hread, hperm⟩ := h.indexes hfree
    refine ⟨m, p, rfl, rfl, ?_, h⟩
    simp only [Store.answer, Store.indexes, hread]
    exact .indexes hperm.symm
  | find name filter =>
    refine ⟨m, p, rfl, rfl, ?_, h⟩
    simp only [Store.answer, Store.find, Store.documents, h.documents name]
    exact Agree.refl _
  | aggregate name stages =>
    refine ⟨m, p, rfl, rfl, ?_, h⟩
    simp only [Store.answer, Store.aggregate, Store.documents, h.documents name]
    exact Agree.refl _

end Answers

end Related

section Runs

theorem counted_le_reopen (s : Store) (aside : Nat) : s.counted ≤ (s.reopen aside).counted := by
  cases s with
  | memory s => exact Nat.le_refl _
  | persistent s => exact Nat.le_add_right _ _

theorem counted_le_answer (s : Store) (request : Request) :
    s.counted ≤ (s.answer request).2.counted := by
  cases s with
  | memory s => exact Nat.zero_le _
  | persistent s =>
    cases request with
    | insert ids name docs =>
      simp only [answer, Store.insert]
      cases hinsert : s.insert ids name docs with
      | error e => exact Nat.le_refl _
      | ok result => exact PersistentStore.count_le_of_insert hinsert
    | ensureIndex name i =>
      simp only [answer, Store.ensureIndex]
      cases hensure : s.ensureIndex name i with
      | error e => exact Nat.le_refl _
      | ok s' => exact Nat.le_of_eq (PersistentStore.count_of_ensureIndex hensure).symm
    | drop _ | documents _ | indexes _ | find _ _ | aggregate _ _ => exact Nat.le_refl _

theorem counted_le_follow (s : Store) (events : List Event) :
    s.counted ≤ (s.follow events).2.counted := by
  induction events generalizing s with
  | nil => exact Nat.le_refl _
  | cons event rest ih =>
    cases event with
    | request request => exact (s.counted_le_answer request).trans (ih _)
    | reopen aside => exact (s.counted_le_reopen aside).trans (ih _)

/-- Related stores answer alike whatever happens. -/
theorem Related.follow {m : MemoryStore} {p : PersistentStore} (h : Related m p)
    {events : List Event} (hevents : ∀ request, .request request ∈ events → request.Admissible)
    (hcount : ((persistent p).follow events).2.counted ≤ 2 ^ 64) :
    List.Forall₂ Agree ((memory m).follow events).1 ((persistent p).follow events).1 := by
  induction events generalizing m p with
  | nil => exact .nil
  | cons event rest ih =>
    have hrest : ∀ request, .request request ∈ rest → request.Admissible :=
      fun request hrequest => hevents request (List.mem_cons_of_mem _ hrequest)
    cases event with
    | request request =>
      simp only [Store.follow] at hcount ⊢
      obtain ⟨m', p', hm, hp, hagree, hrelated⟩ := h.answer (hevents request List.mem_cons_self)
        ((counted_le_follow _ rest).trans hcount)
      rw [hp] at hcount ⊢
      rw [hm]
      exact .cons hagree (ih hrelated hrest hcount)
    | reopen aside => exact ih (h.reopen aside) hrest hcount

/-- A store in memory and a persistent one, both empty at first, agree on every answer as
long as the counts of the persistent one do not run out. -/
theorem stores_agree (events : List Event)
    (hevents : ∀ request, .request request ∈ events → request.Admissible)
    (hcount : ((persistent .empty).follow events).2.counted ≤ 2 ^ 64) :
    List.Forall₂ Agree ((memory .empty).follow events).1
      ((persistent .empty).follow events).1 :=
  related_empty.follow hevents hcount

def sampleStation (id : Int64) (code : String) : Document :=
  .ofList [("_id", .int id), ("code", .string code), ("tags", .array [.null, .bool true])]

/-- A run with an index on two paths, a document that it refuses and a reopening. -/
def sampleEvents : List Event :=
  [.request (.ensureIndex "stations" ⟨["code", "-tags"], true⟩),
   .request (.insert ⟨0, 0, 0⟩ "stations" [sampleStation 1 "a", sampleStation 2 "b"]),
   .reopen 5,
   .request (.insert ⟨0, 0, 0⟩ "stations" [sampleStation 3 "a"]),
   .request (.insert ⟨0, 0, 0⟩ "stations" [sampleStation 4 "c"]),
   .request (.find "stations" (.ofList [("code", .string "c")])),
   .request (.indexes "stations"),
   .request (.drop "stations"),
   .request (.documents "stations")]

theorem kept_sampleStation (id : Int64) (code : String) : Kept (sampleStation id code) where
  identified := rfl
  restored := by
    have hid : Value.ofNumber (.whole id.toInt) = .int id := by
      rw [Value.ofNumber, if_pos (Int64.toInt_le id), Int64.ofInt_toInt]
    have hread : Value.ofJson (sampleStation id code).toJson.reread =
        .document (sampleStation id code) := by
      change Value.document ⟨("_id", Value.ofNumber (.whole id.toInt)) :: _⟩ = _
      rw [hid]
      rfl
    have hdepth : (sampleStation id code).toJson.depth = 2 := rfl
    rw [PersistentStore.decodeDocument, hdepth, if_neg (by decide), hread]

theorem admissible_sampleEvents (request : Request) (h : .request request ∈ sampleEvents) :
    request.Admissible := by
  simp only [sampleEvents, List.mem_cons, Event.request.injEq, reduceCtorEq, List.not_mem_nil,
    or_false, false_or] at h
  refine ⟨?_, ?_⟩
  · rcases h with rfl | rfl | rfl | rfl | rfl | rfl | rfl | rfl <;> decide
  · rintro ids collection docs rfl d hd
    simp at h
    rcases h with h | h | h
    all_goals
      obtain ⟨-, -, rfl⟩ := h
      simp at hd
    · rcases hd with rfl | rfl <;> exact kept_sampleStation _ _
    · exact hd ▸ kept_sampleStation _ _
    · exact hd ▸ kept_sampleStation _ _

theorem stores_agree_sample :
    (∀ request, .request request ∈ sampleEvents → request.Admissible) ∧
      ((persistent .empty).follow sampleEvents).2.counted ≤ 2 ^ 64 ∧
      ((persistent .empty).follow sampleEvents).1.map (·.toBool) =
        [true, true, false, true, true, true, true, true] ∧
      List.Forall₂ Agree ((memory .empty).follow sampleEvents).1
        ((persistent .empty).follow sampleEvents).1 := by
  have hcount : ((persistent .empty).follow sampleEvents).2.counted ≤ 2 ^ 64 := by
    decide +kernel
  exact ⟨admissible_sampleEvents, hcount, by decide +kernel,
    stores_agree sampleEvents admissible_sampleEvents hcount⟩

end Runs

end Store

end QuerySets
