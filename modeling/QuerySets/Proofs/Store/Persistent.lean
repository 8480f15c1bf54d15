import QuerySets.Proofs.Fields
import QuerySets.Proofs.Store.Index
import QuerySets.Proofs.Store.Tree
import QuerySets.Proofs.Text.Split
import QuerySets.Proofs.Traversal
import QuerySets.Store.Persistent

/-!
Collections kept as records. New records follow the old ones, because their counts are
greater; declarations of indexes are read back as they were written; and the keys of the
indexes of two collections start in different ways, so that each collection sees its own.
-/

namespace QuerySets

namespace PersistentStore

section Indexes

theorem items_strings (room : Nat) (key : List String) :
    Json.Reader.items Json.Reader.string room (Json.Draft.ofItems (key.map .string)) = .ok key := by
  induction key with
  | nil => rfl
  | cons part rest ih =>
    simp only [List.map_cons, Json.Draft.ofItems, Json.Draft.ofJson, Json.Reader.items,
      Json.Reader.string, ih]
    rfl

/-- A declaration is read back as it was written. -/
theorem decodeIndex_toJson (i : Index) : decodeIndex i.toJson = .ok i := by
  obtain ⟨key, unique⟩ := i
  have hread : Index.reader.ofJson (Index.toJson ⟨key, unique⟩) = .ok ⟨key, unique⟩ := by
    simp [Json.Reader.ofJson, Index.reader, Index.toJson, Json.record, Json.Draft.ofJson,
      Json.Draft.ofMembers, Json.depthLimit, Json.Reader.record, Json.Reader.readMembers,
      Index.members, Json.Reader.Member.of, Json.Reader.list, Json.Reader.bool, items_strings]
    rfl
  rw [decodeIndex, hread]

/-- The name of a collection that has no zero character ends where the key says. -/
theorem name_eq_of_indexStart {name other : String} (h : '\x00' ∉ name.toList)
    (hother : '\x00' ∉ other.toList) {key : List Char} (hkey : indexStart name <+: key)
    (hkey' : indexStart other <+: key) : name = other := by
  obtain ⟨rest, rfl⟩ := hkey
  obtain ⟨rest', heq⟩ := hkey'
  simp only [indexStart, List.append_assoc, List.singleton_append] at heq
  have hcut := congrArg (Text.cutFirst? '\x00') heq
  rw [Text.cutFirst?_append h, Text.cutFirst?_append hother] at hcut
  simp only [Option.some.injEq, Prod.mk.injEq] at hcut
  exact (String.toList_inj.mp hcut.1).symm

theorem isPrefixOf_indexStart {name other : String} (h : '\x00' ∉ name.toList)
    (hother : '\x00' ∉ other.toList) (rest : List Char) :
    (indexStart name).isPrefixOf (indexStart other ++ rest) = decide (other = name) := by
  rw [Bool.eq_iff_iff, List.isPrefixOf_iff_prefix, decide_eq_true_iff]
  constructor
  · intro hprefix
    exact name_eq_of_indexStart hother h (List.prefix_append _ _) hprefix
  · rintro rfl
    exact List.prefix_append _ _

theorem indexKey_inj {name other : String} (h : '\x00' ∉ name.toList)
    (hother : '\x00' ∉ other.toList) {key key' : String}
    (heq : indexStart name ++ key.toList = indexStart other ++ key'.toList) :
    name = other ∧ key = key' := by
  have hprefix : indexStart other <+: indexStart name ++ key.toList := by
    rw [heq]
    exact List.prefix_append _ _
  have hname : name = other :=
    name_eq_of_indexStart h hother (List.prefix_append _ _) hprefix
  subst hname
  exact ⟨rfl, String.toList_inj.mp (List.append_cancel_left heq)⟩

theorem scan_drop {name other : String} (h : '\x00' ∉ name.toList) (hother : '\x00' ∉ other.toList)
    (s : PersistentStore) : (s.drop name).indexTree.scan (indexStart other) =
      if name = other then [] else s.indexTree.scan (indexStart other) := by
  split
  next heq =>
    subst heq
    exact Tree.scan_eraseAll_self s.indexTree (indexStart name)
  next hne =>
    refine Tree.scan_eraseAll_of_apart s.indexTree ?_
    intro key hkey hkey'
    exact hne (name_eq_of_indexStart h hother hkey' hkey)

theorem contains_drop {name other : String} (h : '\x00' ∉ name.toList)
    (hother : '\x00' ∉ other.toList) (s : PersistentStore) (rest : List Char) :
    (s.drop name).indexTree.contains (indexStart other ++ rest) =
      if name = other then false else s.indexTree.contains (indexStart other ++ rest) := by
  simp only [drop, Tree.contains, Tree.get?_eraseAll, isPrefixOf_indexStart h hother,
    decide_eq_true_iff, eq_comm (a := other)]
  split <;> rfl

/-- An index of a new name is read with those that are there, by its own collection alone. -/
theorem exists_indexes_declare {s : PersistentStore} {name other : String}
    (hname : '\x00' ∉ name.toList) (hother : '\x00' ∉ other.toList) {i : Index}
    (hnew : s.indexTree.get? (indexStart name ++ i.name.toList) = none) {is : List Index}
    (h : s.indexes other = .ok is) :
    ∃ is', PersistentStore.indexes
        { s with indexTree := s.indexTree.insert (indexStart name ++ i.name.toList) i.toJson }
          other = .ok is' ∧
      is'.Perm (if name = other then i :: is else is) := by
  refine exists_mapM_of_perm ?_ (Tree.scan_insert_perm hnew i.toJson (indexStart other))
  rw [isPrefixOf_indexStart hother hname]
  by_cases heq : name = other
  · rw [if_pos heq, if_pos (decide_eq_true heq), List.mapM_cons, decodeIndex_toJson]
    have hread : (s.indexTree.scan (indexStart other)).mapM decodeIndex = .ok is := h
    rw [hread]
    rfl
  · rw [if_neg heq, if_neg (by simpa using heq)]
    exact h

end Indexes

section Records

/-- The records of a collection. -/
def tree (s : PersistentStore) (name : String) : Tree Json := (s.data.get? name).getD Tree.empty

theorem documents_eq (s : PersistentStore) (name : String) :
    s.documents name = (s.tree name).values.mapM decodeDocument := by
  unfold documents tree
  cases s.data.get? name <;> rfl

theorem countedBelow_keepRecords {t : Tree Json} {count : Nat} (h : t.CountedBelow count)
    {records : List Json} (hcount : count + records.length ≤ 2 ^ 64) :
    (keepRecords t count records).CountedBelow (count + records.length) := by
  induction records generalizing t count with
  | nil => exact h
  | cons record rest ih =>
    rw [List.length_cons] at hcount ⊢
    have hrest := ih (h.insert (by omega) record) (by omega)
    rw [keepRecords]
    exact hrest.mono (by omega)

/-- Records that are kept follow the records that are there, in their order. -/
theorem values_keepRecords {t : Tree Json} {count : Nat} (h : t.CountedBelow count)
    {records : List Json} (hcount : count + records.length ≤ 2 ^ 64) :
    (keepRecords t count records).values = t.values ++ records := by
  induction records generalizing t count with
  | nil => simp [keepRecords]
  | cons record rest ih =>
    rw [List.length_cons] at hcount
    rw [keepRecords, ih (h.insert (by omega) record) (by omega), h.values_insert (by omega),
      List.append_assoc, List.singleton_append]

/-- The store with further records in a collection. -/
def keep (s : PersistentStore) (name : String) (records : List Json) : PersistentStore :=
  { s with
    data := s.data.insert name (keepRecords (s.tree name) s.count records)
    count := s.count + records.length }

theorem tree_keep (s : PersistentStore) (name other : String) (records : List Json) :
    (s.keep name records).tree other =
      if name = other then keepRecords (s.tree name) s.count records else s.tree other := by
  simp only [tree, keep, Fields.get?_insert]
  split <;> rfl

theorem count_keep (s : PersistentStore) (name : String) (docs : List Document) :
    (s.keep name (docs.map (·.toJson))).count = s.count + docs.length := by
  rw [keep, List.length_map]

theorem tree_drop {s : PersistentStore} (h : s.data.Distinct) (name other : String) :
    (s.drop name).tree other = if name = other then .empty else s.tree other := by
  simp only [tree, drop, h.get?_erase]
  split <;> rfl

end Records

section Invariant

/-- The records of a collection are counted and the indexes were written as such. -/
structure Sound (s : PersistentStore) : Prop where
  data : s.data.Distinct
  counted : ∀ name, (s.tree name).CountedBelow s.count
  declared : ∀ entry ∈ s.indexTree.entries, ∃ i : Index, entry.2 = i.toJson

namespace Sound

variable {s : PersistentStore}

theorem empty : PersistentStore.empty.Sound where
  data := List.nodup_nil
  counted _ := Tree.countedBelow_empty 0
  declared _ hentry := absurd hentry List.not_mem_nil

theorem keep (h : s.Sound) (name : String) {records : List Json}
    (hcount : (s.keep name records).count ≤ 2 ^ 64) : (s.keep name records).Sound where
  data := h.data.insert name _
  counted other := by
    rw [tree_keep]
    split
    · exact countedBelow_keepRecords (h.counted name) hcount
    · exact (h.counted other).mono (Nat.le_add_right _ _)
  declared := h.declared

theorem declare (h : s.Sound) (key : List Char) (i : Index) :
    Sound { s with indexTree := s.indexTree.insert key i.toJson } where
  data := h.data
  counted := h.counted
  declared entry hentry := by
    rcases Tree.mem_put hentry with rfl | hold
    · exact ⟨i, rfl⟩
    · exact h.declared entry hold

theorem drop (h : s.Sound) (name : String) : (s.drop name).Sound where
  data := h.data.erase name
  counted other := by
    rw [tree_drop h.data]
    split
    · exact Tree.countedBelow_empty _
    · exact h.counted other
  declared entry hentry := h.declared entry (List.mem_filter.mp hentry).1

theorem aside (h : s.Sound) (aside : Nat) : Sound { s with count := s.count + aside } :=
  { h with counted := fun name => (h.counted name).mono (Nat.le_add_right _ _) }

/-- The indexes of a collection can be read. -/
theorem indexes (h : s.Sound) (name : String) : ∃ is, s.indexes name = .ok is := by
  refine exists_mapM_eq_ok_iff.mpr fun record hrecord => ?_
  obtain ⟨entry, hentry, rfl⟩ := List.mem_map.mp hrecord
  obtain ⟨i, hi⟩ := h.declared entry (List.mem_filter.mp hentry).1
  exact ⟨i, hi ▸ decodeIndex_toJson i⟩

end Sound

end Invariant

section Writes

variable {s : PersistentStore} {name : String} {docs existing : List Document}
  {indexes : List Index}

/-- The check is passed over only where there is nothing to check. -/
theorem insert_eq_of_read (hindexes : s.indexes name = .ok indexes)
    (hexisting : s.documents name = .ok existing) (ids : IdSupply) (docs : List Document) :
    s.insert ids name docs =
      (Index.checkUnique name indexes existing (ids.assign docs).2).map fun _ =>
        (s.keep name ((ids.assign docs).2.map (·.toJson)), (ids.assign docs).1) := by
  have hkeep : ∀ records : List Document, (s.keep name (records.map (·.toJson))) =
      { s with
        data := s.data.insert name
          (keepRecords ((s.data.get? name).getD Tree.empty) s.count (records.map (·.toJson)))
        count := s.count + records.length } := by
    intro records
    simp [keep, tree]
  rw [hkeep]
  simp only [insert, hindexes, hexisting, bind, Except.bind]
  cases hunique : indexes.any (·.unique) with
  | true =>
    cases Index.checkUnique name indexes existing (ids.assign docs).2 <;> rfl
  | false =>
    have hnone : ∀ i ∈ indexes, i.unique = false := by simpa using hunique
    have hcheck : Index.checkUnique name indexes existing (ids.assign docs).2 = .ok () :=
      Index.checkUnique_eq_ok_iff.mpr fun i hi hi' => by simp [hnone i hi] at hi'
    rw [hcheck]
    rfl

theorem ensureIndex_eq_of_read (hexisting : s.documents name = .ok existing) (i : Index) :
    s.ensureIndex name i =
      if s.indexTree.contains (indexStart name ++ i.name.toList) then .ok s
      else (Index.checkUnique name [i] [] existing).map fun _ =>
        { s with
          indexTree := s.indexTree.insert (indexStart name ++ i.name.toList) i.toJson } := by
  simp only [ensureIndex, hexisting, bind, Except.bind]
  split
  · rfl
  · cases Index.checkUnique name [i] [] existing <;> rfl

/-- Whatever was read before the check, documents that are granted are kept. -/
theorem keep_of_insert {ids ids' : IdSupply} {s' : PersistentStore}
    (h : s.insert ids name docs = .ok (s', ids')) :
    s' = s.keep name ((ids.assign docs).2.map (·.toJson)) := by
  have hlength : ((ids.assign docs).2.map (·.toJson)).length = (ids.assign docs).2.length :=
    List.length_map _
  simp only [insert, bind, Except.bind] at h
  split at h
  · cases h
  · split at h
    · split at h
      · cases h
      · split at h
        · cases h
        · cases h
          rw [keep, hlength, tree]
    · cases h
      rw [keep, hlength, tree]

/-- A declaration that is granted finds an index of its name and changes nothing, or it has
passed the check and is kept under a new key. -/
theorem eq_or_insert_of_ensureIndex {i : Index} {s' : PersistentStore}
    (h : s.ensureIndex name i = .ok s') : s' = s ∨
      s.indexTree.get? (indexStart name ++ i.name.toList) = none ∧
        (∃ existing, s.documents name = .ok existing ∧
          Index.checkUnique name [i] [] existing = .ok ()) ∧
        s' = { s with
          indexTree := s.indexTree.insert (indexStart name ++ i.name.toList) i.toJson } := by
  simp only [ensureIndex, bind, Except.bind] at h
  split at h
  · cases h
    exact Or.inl rfl
  next hfree =>
    have hnew := Option.not_isSome_iff_eq_none.mp hfree
    split at h
    · cases h
    next existing hexisting =>
      split at h
      · cases h
      next hcheck =>
        cases h
        exact Or.inr ⟨hnew, ⟨existing, hexisting, hcheck⟩, rfl⟩

/-- Documents that are granted have passed the check of the indexes that could be read. -/
theorem check_of_insert {ids ids' : IdSupply} {s' : PersistentStore}
    (h : s.insert ids name docs = .ok (s', ids')) (hindexes : s.indexes name = .ok indexes)
    (hexisting : s.documents name = .ok existing) :
    Index.checkUnique name indexes existing (ids.assign docs).2 = .ok () := by
  rw [insert_eq_of_read hindexes hexisting] at h
  cases hcheck : Index.checkUnique name indexes existing (ids.assign docs).2 with
  | error e =>
    rw [hcheck] at h
    cases h
  | ok _ => rfl

/-- Documents that are kept are read after those that are there. -/
theorem documents_keep (h : s.Sound) (hcount : s.count + docs.length ≤ 2 ^ 64) :
    (s.keep name (docs.map (·.toJson))).documents name =
      (do return (← s.documents name) ++
        (← docs.mapM fun d : Document => decodeDocument d.toJson)) := by
  have hlength : s.count + (docs.map (·.toJson)).length ≤ 2 ^ 64 := by
    rw [List.length_map]
    exact hcount
  rw [documents_eq, documents_eq, tree_keep, if_pos rfl,
    values_keepRecords (h.counted name) hlength, List.mapM_append, List.mapM_map]
  rfl

theorem documents_keep_of_ne {other : String} (hne : name ≠ other) (records : List Json) :
    (s.keep name records).documents other = s.documents other := by
  rw [documents_eq, documents_eq, tree_keep, if_neg hne]

theorem documents_drop (h : s.Sound) (other : String) :
    (s.drop name).documents other = if name = other then .ok [] else s.documents other := by
  rw [documents_eq, documents_eq, tree_drop h.data]
  by_cases heq : name = other
  · rw [if_pos heq, if_pos heq]
    rfl
  · rw [if_neg heq, if_neg heq]

/-- A write uses up counts and never gives one back. -/
theorem count_le_of_insert {ids ids' : IdSupply} {s' : PersistentStore}
    (h : s.insert ids name docs = .ok (s', ids')) : s.count ≤ s'.count := by
  rw [keep_of_insert h]
  exact Nat.le_add_right _ _

theorem count_of_ensureIndex {i : Index} {s' : PersistentStore}
    (h : s.ensureIndex name i = .ok s') : s'.count = s.count := by
  rcases eq_or_insert_of_ensureIndex h with rfl | ⟨-, -, rfl⟩ <;> rfl

end Writes

end PersistentStore

end QuerySets
