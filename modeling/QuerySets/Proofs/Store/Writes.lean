import QuerySets.Proofs.Store.Readable

/-!
Writes as they are made. A store in memory makes the entry of a collection before it checks
what is to be written, and what is refused then leaves the entry behind. But a collection
without an entry has no index that refuses documents, and no documents that are refused to
an index; so an entry that has been made is always used. A write is made as a whole, with
all its documents in their order, or it leaves no trace.
-/

namespace QuerySets

namespace MemoryStore

variable {s : MemoryStore} {name : String}

/-- The store with an entry for the collection, which is a new one if there is none. -/
def opened (s : MemoryStore) (name : String) : MemoryStore :=
  if s.collections.contains name then s else s.put name .empty

/-- An insertion that makes the entry first. -/
def insertInPlace (s : MemoryStore) (ids : IdSupply) (name : String) (docs : List Document) :
    Except StoreError Nat × MemoryStore :=
  let opened := s.opened name
  let c := opened.collection name
  let docs := (ids.assign docs).2
  match Index.checkUnique name c.indexes c.documents docs with
  | .error e => (.error e, opened)
  | .ok _ => (.ok docs.length, opened.put name { c with documents := c.documents ++ docs })

/-- A declaration that makes the entry first. -/
def ensureIndexInPlace (s : MemoryStore) (name : String) (i : Index) :
    Except StoreError Unit × MemoryStore :=
  let opened := s.opened name
  let c := opened.collection name
  if c.indexes.any (·.name == i.name) then (.ok (), opened)
  else
    match Index.checkUnique name [i] [] c.documents with
    | .error e => (.error e, opened)
    | .ok _ => (.ok (), opened.put name { c with indexes := c.indexes ++ [i] })

theorem collection_of_not_contains (h : ¬ s.collections.contains name = true) :
    s.collection name = .empty := by
  have hnone : s.collections.get? name = none := Option.not_isSome_iff_eq_none.mp h
  rw [collection, hnone]
  rfl

/-- A collection in which there is something has an entry. -/
theorem opened_of_collection_ne (h : s.collection name ≠ .empty) : s.opened name = s :=
  if_pos (Decidable.of_not_not fun hnone => h (collection_of_not_contains hnone))

theorem collection_opened (s : MemoryStore) (name : String) :
    (s.opened name).collection name = s.collection name := by
  by_cases hentry : s.collections.contains name = true
  · rw [opened, if_pos hentry]
  · rw [opened, if_neg hentry, collection_put, if_pos rfl, collection_of_not_contains hentry]

/-- A collection that is written over the new entry is written as over none. -/
theorem put_opened (s : MemoryStore) (name : String) (c : Collection) :
    (s.opened name).put name c = s.put name c := by
  by_cases hentry : s.collections.contains name = true
  · rw [opened, if_pos hentry]
  · rw [opened, if_neg hentry]
    simp only [put, Fields.insert, Fields.put_put]

/-- Documents that are refused are refused by an index that is there. -/
theorem opened_of_refused_insert {docs : List Document} {e : StoreError}
    (h : Index.checkUnique name (s.indexes name) (s.documents name) docs = .error e) :
    s.opened name = s := by
  refine opened_of_collection_ne fun hempty => ?_
  rw [indexes, hempty] at h
  cases h

/-- An index that is refused is refused because of documents that are there. -/
theorem opened_of_refused_index {i : Index} {e : StoreError}
    (h : Index.checkUnique name [i] [] (s.documents name) = .error e) : s.opened name = s := by
  refine opened_of_collection_ne fun hempty => ?_
  have hnothing : Index.checkUnique name [i] [] (s.documents name) = .ok () := by
    rw [documents, hempty]
    exact Index.checkUnique_eq_ok_iff.mpr fun j _ _ =>
      ⟨fun d hd => absurd hd List.not_mem_nil, List.Pairwise.nil⟩
  rw [hnothing] at h
  cases h

/-- Making the entry first makes no difference to an insertion. -/
theorem insertInPlace_eq (s : MemoryStore) (ids : IdSupply) (name : String)
    (docs : List Document) : s.insertInPlace ids name docs =
      match s.insert ids name docs with
      | .error e => (.error e, s)
      | .ok (s', _) => (.ok docs.length, s') := by
  have hlength := ids.length_assign docs
  simp only [insertInPlace, collection_opened, put_opened, insert_eq, hlength]
  cases hcheck : Index.checkUnique name (s.indexes name) (s.documents name)
      (ids.assign docs).2 with
  | error e =>
    have hopened := opened_of_refused_insert hcheck
    rw [indexes, documents] at hcheck
    rw [hcheck, hopened]
    rfl
  | ok _ =>
    rw [indexes, documents] at hcheck
    rw [hcheck]
    rfl

/-- Making the entry first makes no difference to a declaration. -/
theorem ensureIndexInPlace_eq (s : MemoryStore) (name : String) (i : Index) :
    s.ensureIndexInPlace name i =
      match s.ensureIndex name i with
      | .error e => (.error e, s)
      | .ok s' => (.ok (), s') := by
  simp only [ensureIndexInPlace, collection_opened, put_opened, ensureIndex_eq]
  by_cases hknown : (s.indexes name).any (·.name == i.name) = true
  · have hentry : s.collection name ≠ .empty := by
      intro hempty
      rw [indexes, hempty] at hknown
      cases hknown
    rw [if_pos hknown, opened_of_collection_ne hentry]
    exact if_pos hknown
  · rw [if_neg hknown]
    refine (if_neg hknown).trans ?_
    cases hcheck : Index.checkUnique name [i] [] (s.documents name) with
    | error e =>
      have hopened := opened_of_refused_index hcheck
      rw [documents] at hcheck
      rw [hcheck, hopened]
      rfl
    | ok _ =>
      rw [documents] at hcheck
      rw [hcheck]
      rfl

end MemoryStore

namespace Store

/-- An insertion as it is made. A persistent store makes the records of a collection only
after the check. -/
def insertInPlace (s : Store) (ids : IdSupply) (name : String) (docs : List Document) :
    Except StoreError Answer × Store :=
  match s with
  | memory m =>
    let (result, m) := m.insertInPlace ids name docs
    (result.map .inserted, memory m)
  | persistent p => (persistent p).answer (.insert ids name docs)

/-- A declaration as it is made. -/
def ensureIndexInPlace (s : Store) (name : String) (i : Index) :
    Except StoreError Answer × Store :=
  match s with
  | memory m =>
    let (result, m) := m.ensureIndexInPlace name i
    (result.map fun _ => .done, memory m)
  | persistent p => (persistent p).answer (.ensureIndex name i)

theorem insertInPlace_eq_answer (s : Store) (ids : IdSupply) (name : String)
    (docs : List Document) : s.insertInPlace ids name docs = s.answer (.insert ids name docs) := by
  cases s with
  | memory m =>
    simp only [insertInPlace, m.insertInPlace_eq, answer, insert]
    cases m.insert ids name docs <;> rfl
  | persistent p => rfl

theorem ensureIndexInPlace_eq_answer (s : Store) (name : String) (i : Index) :
    s.ensureIndexInPlace name i = s.answer (.ensureIndex name i) := by
  cases s with
  | memory m =>
    simp only [ensureIndexInPlace, m.ensureIndexInPlace_eq, answer, ensureIndex]
    cases m.ensureIndex name i <;> rfl
  | persistent p => rfl

/-- A request in the steps in which it is carried out. -/
def answerInPlace (s : Store) : Request → Except StoreError Answer × Store
  | .insert ids collection docs => s.insertInPlace ids collection docs
  | .ensureIndex collection i => s.ensureIndexInPlace collection i
  | request => s.answer request

theorem answerInPlace_eq (s : Store) (request : Request) :
    s.answerInPlace request = s.answer request := by
  cases request with
  | insert ids collection docs => exact s.insertInPlace_eq_answer ids collection docs
  | ensureIndex collection i => exact s.ensureIndexInPlace_eq_answer collection i
  | drop _ | documents _ | indexes _ | find _ _ | aggregate _ _ => rfl

/-- Documents that are granted are counted. -/
theorem granted_insert {s s' : Store} {ids : IdSupply} {name : String} {docs : List Document}
    {told : Answer} (h : s.answer (.insert ids name docs) = (.ok told, s')) :
    ∃ ids', s.insert ids name docs = .ok (s', ids') ∧ told = .inserted docs.length := by
  rcases settle_cases h with ⟨_, -, htold, -⟩ | ⟨hgranted, htold⟩
  · cases htold
  · obtain ⟨⟨after, ids'⟩, hinsert, rfl⟩ := map_eq_ok_iff.mp hgranted
    cases htold
    exact ⟨ids', hinsert, rfl⟩

/-- A request that is refused changes nothing. -/
theorem eq_of_refused {s s' : Store} {request : Request} {e : StoreError}
    (h : s.answer request = (.error e, s')) : s' = s := by
  cases request with
  | insert _ _ _ | ensureIndex _ _ =>
    rcases settle_cases h with ⟨_, -, -, hsame⟩ | ⟨-, htold⟩
    · exact hsame
    · cases htold
  | drop _ => cases h
  | documents _ | indexes _ | find _ _ | aggregate _ _ => exact (congrArg Prod.snd h).symm

/-- What a document that has been inserted is read as. -/
def shown (s : Store) (d : Document) : Except StoreError Document :=
  match s with
  | memory _ => .ok d
  | persistent _ => PersistentStore.decodeDocument d.toJson

/-- After the documents of a collection there are further ones, and nothing else changes. -/
structure Appended (s s' : Store) (name : String) (docs : List Document) : Prop where
  documents : s'.documents name = do return (← s.documents name) ++ (← docs.mapM s.shown)
  others : ∀ other, name ≠ other → s'.documents other = s.documents other
  indexes : ∀ other, s'.indexes other = s.indexes other

theorem appended_put (m : MemoryStore) (name : String) (docs : List Document) :
    Appended (memory m) (memory (m.put name ⟨m.documents name ++ docs, m.indexes name⟩)) name
      docs where
  documents := by
    have hshown : docs.mapM (memory m).shown = .ok docs :=
      List.mapM_pure.trans (congrArg Except.ok (List.map_id docs))
    simp only [Store.documents, MemoryStore.documents_put, if_pos, hshown]
    rfl
  others other hne := by
    simp only [Store.documents, MemoryStore.documents_put, if_neg hne]
  indexes other := congrArg Except.ok (m.indexes_put_documents name other _)

theorem appended_keep {p : PersistentStore} (h : p.Sound) (name : String) {docs : List Document}
    (hcount : p.count + docs.length ≤ 2 ^ 64) :
    Appended (persistent p) (persistent (p.keep name (docs.map (·.toJson)))) name docs where
  documents := PersistentStore.documents_keep h hcount
  others _ hne := PersistentStore.documents_keep_of_ne hne _
  indexes _ := rfl

/-- Documents that are granted are appended with their identifiers. -/
theorem appended_of_insert {s s' : Store} {ids ids' : IdSupply} {name : String}
    {docs : List Document} (hsound : ∀ p, s = persistent p → p.Sound)
    (h : s.insert ids name docs = .ok (s', ids')) (hcount : s'.counted ≤ 2 ^ 64) :
    s.Appended s' name (ids.assign docs).2 := by
  cases s with
  | memory m =>
    obtain ⟨m', rfl, hgranted⟩ := Kind.memory.insert_cases h
    obtain ⟨-, rfl⟩ := MemoryStore.put_of_insert hgranted
    exact appended_put m name _
  | persistent p =>
    obtain ⟨p', rfl, hgranted⟩ := Kind.persistent.insert_cases h
    obtain rfl := PersistentStore.keep_of_insert hgranted
    exact appended_keep (hsound p rfl) name (p.count_keep name _ ▸ hcount)

/-- What is inserted with an identifier is read with the same fields in the same order. -/
theorem exists_shown (s : Store) {d : Document} (hid : d.contains "_id" = true)
    (hshallow : d.Shallow) : ∃ back, s.shown d = .ok back ∧ back.keys = d.keys := by
  cases s with
  | memory _ => exact ⟨d, rfl, rfl⟩
  | persistent _ => exact hshallow.exists_decode hid

/-- Where both the old documents and the new ones can be read, so can they together. -/
theorem Appended.exists_documents {s s' : Store} {name : String} {docs old : List Document}
    (h : s.Appended s' name docs) (hold : s.documents name = .ok old)
    (hshown : ∀ d ∈ docs, ∃ back, s.shown d = .ok back ∧ back.keys = d.keys) :
    ∃ back, s'.documents name = .ok (old ++ back) ∧
      List.Forall₂ (fun d shown => s.shown d = .ok shown ∧ shown.keys = d.keys) docs back := by
  obtain ⟨back, hback, hrelated⟩ := exists_mapM_forall₂ hshown
  refine ⟨back, ?_, hrelated⟩
  rw [h.documents, hold, hback]
  rfl

/-- Where one of the new documents cannot be read, neither can the collection. -/
theorem Appended.exists_error {s s' : Store} {name : String} {docs : List Document}
    (h : s.Appended s' name docs) {d : Document} (hd : d ∈ docs) {e : StoreError}
    (hshown : s.shown d = .error e) : ∃ e', s'.documents name = .error e' := by
  have hback : ∀ back, docs.mapM s.shown ≠ .ok back := by
    intro back hback
    obtain ⟨shown, hok⟩ := exists_mapM_eq_ok_iff.mp ⟨back, hback⟩ d hd
    rw [hshown] at hok
    cases hok
  rw [h.documents]
  cases s.documents name with
  | error e' => exact ⟨e', rfl⟩
  | ok old =>
    cases hmap : docs.mapM s.shown with
    | error e' => exact ⟨e', rfl⟩
    | ok back => exact absurd hmap (hback back)

section Runs

variable {start s : Store} {events : List Event}

/-- A store in memory stays one. -/
theorem exists_memory_of_follow (m : MemoryStore) (events : List Event) :
    ∃ m', ((memory m).follow events).2 = memory m' := by
  induction events generalizing m with
  | nil => exact ⟨m, rfl⟩
  | cons event rest ih =>
    cases event with
    | request request =>
      obtain ⟨m', hm', -⟩ := Kind.memory.exists_answer m request
      obtain ⟨last, hlast⟩ := ih m'
      refine ⟨last, ?_⟩
      simp only [follow, hm']
      exact hlast
    | reopen aside => exact ih m

/-- A store stays of its kind, and the records of a persistent one stay counted. -/
theorem cases_of_follow (hstart : start = memory .empty ∨ start = persistent .empty)
    (hrun : (start.follow events).2 = s) (hcount : s.counted ≤ 2 ^ 64) :
    start = memory .empty ∧ (∃ m, s = memory m) ∨
      start = persistent .empty ∧ ∃ p, s = persistent p ∧ p.Sound := by
  subst hrun
  rcases hstart with rfl | rfl
  · exact Or.inl ⟨rfl, exists_memory_of_follow .empty events⟩
  · exact Or.inr ⟨rfl, PersistentStore.Sound.empty.follow hcount⟩

theorem sound_of_follow (hstart : start = memory .empty ∨ start = persistent .empty)
    (hrun : (start.follow events).2 = s) (hcount : s.counted ≤ 2 ^ 64) :
    ∀ p, s = persistent p → p.Sound := by
  rintro p rfl
  rcases cases_of_follow hstart hrun hcount with ⟨-, m, hm⟩ | ⟨-, p', hp', hsound⟩
  · cases hm
  · cases hp'
    exact hsound

/-- Where nothing that a persistent store was given is nested too deeply, every collection can
be read. -/
theorem exists_documents_of_follow (hstart : start = memory .empty ∨ start = persistent .empty)
    (hrun : (start.follow events).2 = s) (hcount : s.counted ≤ 2 ^ 64)
    (hshallow : start = persistent .empty → ShallowInserts events) (name : String) :
    ∃ docs, s.documents name = .ok docs := by
  rcases cases_of_follow hstart hrun hcount with ⟨-, m, rfl⟩ | ⟨rfl, p, rfl, -⟩
  · exact ⟨_, rfl⟩
  · have hbound : ((persistent .empty).follow events).2.counted ≤ 2 ^ 64 := hrun ▸ hcount
    obtain ⟨p', hp', -, hreadable⟩ :=
      PersistentStore.readable_empty.follow .empty (hshallow rfl) hbound
    rw [hrun] at hp'
    cases hp'
    exact hreadable name

/-- The batch that an event gives identifiers to, be it granted or not. -/
def Event.batch? : Event → Option (IdSupply × List Document)
  | .request (.insert ids _ docs) => some (ids, docs)
  | _ => none

/-- A batch that is granted in a state that comes from an empty store can be read after the
documents that were there, if nothing that a persistent store was given is nested too
deeply. -/
theorem exists_documents_of_appended (hstart : start = memory .empty ∨ start = persistent .empty)
    (hrun : (start.follow events).2 = s) (hcount : s.counted ≤ 2 ^ 64) {s' : Store} {name : String}
    {ids : IdSupply} {docs : List Document} (h : s.Appended s' name (ids.assign docs).2)
    (hshallow : start = persistent .empty → ShallowInserts events ∧ ∀ d ∈ docs, d.Shallow) :
    ∃ old back, s.documents name = .ok old ∧ s'.documents name = .ok (old ++ back) ∧
      List.Forall₂ (fun d shown => s.shown d = .ok shown ∧ shown.keys = d.keys)
        (ids.assign docs).2 back := by
  obtain ⟨old, hold⟩ := exists_documents_of_follow hstart hrun hcount
    (fun hpersistent => (hshallow hpersistent).1) name
  have hshown : ∀ d ∈ (ids.assign docs).2, ∃ back, s.shown d = .ok back ∧ back.keys = d.keys := by
    intro d hd
    rcases cases_of_follow hstart hrun hcount with ⟨-, m, rfl⟩ | ⟨hpersistent, -⟩
    · exact ⟨d, rfl, rfl⟩
    · have hkept := (ids.identified_assign docs).1.forall_mem_iff
        fun _ _ => Document.shallow_withId_iff
      exact exists_shown s (IdSupply.contains_of_mem_assign hd)
        (hkept.mpr (hshallow hpersistent).2 d hd)
  obtain ⟨back, hback, hrelated⟩ := h.exists_documents hold hshown
  exact ⟨old, back, hold, hback, hrelated⟩

/-- In every state that comes from an empty store, a batch that is granted is counted and
stands after the documents of its collection in its order, with fresh identifiers for those
that have none, and changes nothing else; and what is refused leaves no trace. A persistent
store can read the documents, with their fields in their order, if nothing that it was given
is nested too deeply, and nothing is that was read of a text; but it grants documents that are,
and then the collection cannot be read. -/
theorem writes_whole (hstart : start = memory .empty ∨ start = persistent .empty)
    (hrun : (start.follow events).2 = s) :
    (∀ request, s.answerInPlace request = s.answer request) ∧
    (∀ request e s', s.answerInPlace request = (.error e, s') → s' = s) ∧
    (∀ text d, Document.ofText text = .ok d → d.Shallow) ∧
    ∀ ids name docs told s', s.answerInPlace (.insert ids name docs) = (.ok told, s') →
      s'.counted ≤ 2 ^ 64 → told = .inserted docs.length ∧
        (∀ other, name ≠ other → s'.documents other = s.documents other) ∧
        (∀ other, s'.indexes other = s.indexes other) ∧
        (∀ first, IdSupply.InTurn (first + 2 ^ 24) first
            (events.filterMap Event.batch? ++ [(ids, docs)]) →
          (IdSupply.drawn (events.filterMap Event.batch?) ++ ids.given docs).Nodup) ∧
        ∃ kept, IdSupply.Identified docs (ids.given docs) kept ∧
          ((start = persistent .empty → ShallowInserts events ∧ ∀ d ∈ docs, d.Shallow) →
            ∃ old back, s.documents name = .ok old ∧ s'.documents name = .ok (old ++ back) ∧
              List.Forall₂ (fun d shown => s.shown d = .ok shown ∧ shown.keys = d.keys)
                kept back) ∧
          (start = persistent .empty → ∀ d ∈ docs, ¬ d.Shallow →
            ∃ e, s'.documents name = .error e) := by
  refine ⟨s.answerInPlace_eq, ?refused, fun _ _ => Document.shallow_of_ofText, ?granted⟩
  case refused =>
    intro request e s' hanswer
    rw [answerInPlace_eq] at hanswer
    exact eq_of_refused hanswer
  case granted =>
    intro ids name docs told s' hanswer hcount
    rw [answerInPlace_eq] at hanswer
    have hgrows := counted_le_answer s (.insert ids name docs)
    rw [hanswer] at hgrows
    have hbefore : s.counted ≤ 2 ^ 64 := hgrows.trans hcount
    obtain ⟨ids', hinsert, htold⟩ := granted_insert hanswer
    have happended := appended_of_insert (sound_of_follow hstart hrun hbefore) hinsert hcount
    obtain ⟨hkept, -⟩ := ids.identified_assign docs
    refine ⟨htold, happended.others, happended.indexes, ?fresh, (ids.assign docs).2, hkept,
      exists_documents_of_appended hstart hrun hbefore happended, ?deep⟩
    case fresh =>
      intro first hturn
      have hdrawn : IdSupply.drawn (events.filterMap Event.batch? ++ [(ids, docs)]) =
          IdSupply.drawn (events.filterMap Event.batch?) ++ ids.given docs := by
        rw [IdSupply.drawn, List.flatMap_append, List.flatMap_singleton]
        rfl
      rw [← hdrawn]
      exact hturn.nodup (Nat.le_refl _)
    case deep =>
      intro hpersistent d hd hdeep
      have hnot : ¬ ∀ d ∈ (ids.assign docs).2, d.Shallow := fun hall =>
        hdeep ((hkept.forall_mem_iff fun _ _ => Document.shallow_withId_iff).mp hall d hd)
      obtain ⟨k, hk⟩ := not_forall.mp hnot
      obtain ⟨hmem, hk⟩ := Classical.not_imp.mp hk
      rcases cases_of_follow hstart hrun hbefore with ⟨hmemory, -⟩ | ⟨-, p, rfl, -⟩
      · rw [hpersistent] at hmemory
        cases hmemory
      · exact happended.exists_error hmem (Document.decode_of_not_shallow hk)

/-- A collection with a unique index and one document. -/
def sampleStored : List Event :=
  [.request (.ensureIndex "stations" ⟨["code"], true⟩),
   .request (.insert ⟨0, 0, 0⟩ "stations" [sampleStation 1 "a"])]

/-- A document that has no identifier and one that has. -/
def sampleBatch : List Document := [⟨[("code", .string "b")]⟩, sampleStation 2 "c"]

/-- Here the index refuses the second document, and with it the first one. -/
def sampleClash : List Document := [⟨[("code", .string "d")]⟩, sampleStation 3 "a"]

theorem shallow_sample : ShallowInserts sampleStored ∧ ∀ d ∈ sampleBatch, d.Shallow := by
  refine ⟨?_, ?_⟩
  · intro ids collection docs h d hd
    simp only [sampleStored, List.mem_cons, Event.request.injEq, reduceCtorEq,
      Request.insert.injEq, List.not_mem_nil, or_false, false_or] at h
    obtain ⟨-, -, rfl⟩ := h
    rw [List.mem_singleton.mp hd]
    exact Nat.le_add_left 2 125
  · exact List.forall_mem_cons.mpr ⟨Nat.le_add_left 1 126,
      List.forall_mem_singleton.mpr (Nat.le_add_left 2 125)⟩

theorem writes_whole_sample :
    ∃ s s' e, ((persistent .empty).follow sampleStored).2 = s ∧
      s.answerInPlace (.insert ⟨0, 0, 0⟩ "stations" sampleBatch) = (.ok (.inserted 2), s') ∧
      s'.counted ≤ 2 ^ 64 ∧ s'.documents "stations" = .ok
        [sampleStation 1 "a", ⟨[("_id", .objectId (.ofNat 0)), ("code", .string "b")]⟩,
          sampleStation 2 "c"] ∧
      (IdSupply.drawn (sampleStored.filterMap Event.batch?) ++
        IdSupply.given ⟨0, 0, 0⟩ sampleBatch).Nodup ∧
      (∃ kept old back,
        IdSupply.Identified sampleBatch (IdSupply.given ⟨0, 0, 0⟩ sampleBatch) kept ∧
          s.documents "stations" = .ok old ∧ s'.documents "stations" = .ok (old ++ back) ∧
          List.Forall₂ (fun d shown => s.shown d = .ok shown ∧ shown.keys = d.keys) kept back) ∧
      s.answerInPlace (.insert ⟨0, 0, 0⟩ "stations" sampleClash) = (.error e, s) := by
  obtain ⟨s, hrun⟩ : ∃ s, ((persistent .empty).follow sampleStored).2 = s := ⟨_, rfl⟩
  obtain ⟨s', hgranted⟩ : ∃ s', s.answerInPlace (.insert ⟨0, 0, 0⟩ "stations" sampleBatch) =
      (.ok (.inserted 2), s') := by
    cases hrun
    exact ⟨_, rfl⟩
  obtain ⟨e, after, hrefused⟩ : ∃ e after,
      s.answerInPlace (.insert ⟨0, 0, 0⟩ "stations" sampleClash) = (.error e, after) := by
    cases hrun
    exact ⟨_, _, rfl⟩
  have hcount : s'.counted ≤ 2 ^ 64 := by
    cases hrun
    cases hgranted
    decide
  have hdocuments : s'.documents "stations" = .ok
      [sampleStation 1 "a", ⟨[("_id", .objectId (.ofNat 0)), ("code", .string "b")]⟩,
        sampleStation 2 "c"] := by
    cases hrun
    cases hgranted
    rfl
  have hturn : IdSupply.InTurn (0 + 2 ^ 24) 0
      (sampleStored.filterMap Event.batch? ++ [(⟨0, 0, 0⟩, sampleBatch)]) :=
    ⟨Nat.le_refl 0, Nat.le_refl 0, (by decide : 1 ≤ 0 + 2 ^ 24)⟩
  obtain ⟨-, hsame, -, hwhole⟩ := writes_whole (Or.inr rfl) hrun
  obtain ⟨-, -, -, hfresh, kept, hkept, hread, -⟩ := hwhole _ _ _ _ _ hgranted hcount
  obtain ⟨old, back, hold, hback, hrelated⟩ := hread fun _ => shallow_sample
  have hafter : after = s := hsame _ _ _ hrefused
  rw [hafter] at hrefused
  exact ⟨s, s', e, hrun, hgranted, hcount, hdocuments, hfresh 0 hturn,
    ⟨kept, old, back, hkept, hold, hback, hrelated⟩, hrefused⟩

/-- So many arrays around an empty one. -/
def nestedArrays : Nat → Value
  | 0 => .array []
  | n + 1 => .array [nestedArrays n]

theorem depth_nestedArrays (n : Nat) : (nestedArrays n).toJson.depth = n + 1 := by
  induction n with
  | zero => rfl
  | succ n ih =>
    show max (nestedArrays n).toJson.depth 0 + 1 = n + 1 + 1
    rw [ih, Nat.max_zero]

/-- A document of 128 containers inside of each other. -/
def sampleDeep : Document := ⟨[("_id", .int 2), ("a", nestedArrays 126)]⟩

theorem not_shallow_sampleDeep : ¬ sampleDeep.Shallow := by
  have hinside := depth_nestedArrays 126
  show ¬ max 0 (max (nestedArrays 126).toJson.depth 0) + 1 ≤ 127
  omega

/-- A store in memory has the document after the one that was there. A persistent store grants it
as well, and then it can read neither of them. -/
theorem deep_batch_unreadable :
    (∃ m, (memory .empty).answer (.insert ⟨0, 0, 0⟩ "stations" [sampleStation 1 "a", sampleDeep]) =
        (.ok (.inserted 2), memory m) ∧
      (memory m).documents "stations" = .ok [sampleStation 1 "a", sampleDeep]) ∧
    ∃ p p', (persistent .empty).answer (.insert ⟨0, 0, 0⟩ "stations" [sampleStation 1 "a"]) =
        (.ok (.inserted 1), persistent p) ∧
      (persistent p).documents "stations" = .ok [sampleStation 1 "a"] ∧
      (persistent p).answer (.insert ⟨0, 0, 0⟩ "stations" [sampleDeep]) =
        (.ok (.inserted 1), persistent p') ∧
      ∃ reason, (persistent p').documents "stations" = .error (.unreadable reason) := by
  refine ⟨⟨_, rfl, rfl⟩, _, _, rfl, rfl, rfl, sampleDeep.toJson.excessMessage, ?_⟩
  have hdeep := Document.decode_of_not_shallow not_shallow_sampleDeep
  have hfirst : PersistentStore.decodeDocument (sampleStation 1 "a").toJson =
      .ok (sampleStation 1 "a") := rfl
  show ([(sampleStation 1 "a").toJson, sampleDeep.toJson].mapM PersistentStore.decodeDocument) = _
  rw [List.mapM_cons, hfirst, List.mapM_cons, hdeep]
  rfl

end Runs

end Store

end QuerySets
