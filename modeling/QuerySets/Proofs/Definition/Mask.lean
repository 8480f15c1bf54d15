import QuerySets.Definition.Mask
import QuerySets.Proofs.Definition.MaskType
import QuerySets.Proofs.Definition.Store
import QuerySets.Proofs.Fields
import QuerySets.Proofs.Json.Strings

/-!
Masks by collection and field. The key of a mask determines both names, a record of
a mask is read as that mask or not at all, and the masks that count for a collection
are its own ones and, for the other fields, the general ones.
-/

namespace QuerySets.Mask

/-- A key belongs to one collection and one field, whatever their names contain. -/
theorem keyFor_inj {c f c' f' : String} (h : keyFor c f = keyFor c' f') : c = c' ∧ f = f' := by
  have htext := String.ofList_injective h
  simp only [Json.compactChars, Json.compactItems, List.cons.injEq, true_and] at htext
  obtain ⟨hc, htail⟩ := Json.quote_append_inj htext
  obtain ⟨hf, -⟩ := Json.quote_append_inj (List.cons.inj htail).2
  exact ⟨hc, hf⟩

theorem typeReader_toString (room : Nat) (t : MaskType) :
    typeReader room (.string (some t.toString)) =
      if t.fits then .ok t else .error (.refused (MaskType.unrecognised t.toString)) := by
  have hread := MaskType.ofString?_toString t
  simp only [typeReader, Json.Reader.string, bind, Except.bind, hread]
  cases t.fits <;> rfl

/-- A record of a mask may lie in as many containers as there may be around one. -/
theorem decodeInside_toJson (m : Mask) {outer : Nat} (h : outer < Json.depthLimit) :
    PersistentDefinitions.decodeInside Mask outer (Definition.toJson m) =
      if m.type.fits then .ok m
      else .error (.unreadable (.refused (MaskType.unrecognised m.type.toString))) := by
  obtain ⟨room, hroom⟩ := Nat.exists_eq_add_one_of_ne_zero (Nat.sub_ne_zero_of_lt h)
  have htype := typeReader_toString room m.type
  simp only [PersistentDefinitions.decodeInside, hroom, Definition.toJson, toJson, Json.record,
    Json.reread, Json.rereadMembers, Json.Draft.ofJson, Json.Draft.ofMembers,
    Definition.reader, reader, Json.Reader.record]
  cases hfits : m.type.fits <;> rw [hfits] at htype <;>
    simp [Json.Reader.readMembers, members, Json.Reader.Member.of, Json.Reader.string, htype,
      bind, Except.bind, Except.map, pure, Except.pure]

theorem decode_toJson (m : Mask) :
    PersistentDefinitions.decode Mask (Definition.toJson m) =
      if m.type.fits then .ok m
      else .error (.unreadable (.refused (MaskType.unrecognised m.type.toString))) :=
  m.decodeInside_toJson (by decide)

/-- A record that can be read holds the mask that was written. -/
theorem eq_of_decode (m m' : Mask)
    (h : PersistentDefinitions.decode Mask (Definition.toJson m) = .ok m') : m' = m := by
  rw [decode_toJson] at h
  split at h
  · exact (Except.ok.inj h).symm
  · cases h

theorem forCollection_congr {collection : String} {masks masks' : List Mask}
    (hown : masks.filter (·.collection == collection) =
      masks'.filter (·.collection == collection))
    (hgeneral : masks.filter (·.collection == allCollections) =
      masks'.filter (·.collection == allCollections)) :
    forCollection collection masks = forCollection collection masks' := by
  unfold forCollection fieldsOf
  rw [hown, hgeneral]

/-- Which type the masks of a collection give to a field. -/
abbrev Table := String → String → Option MaskType

/-- Masks of the collection itself go before those of all collections. -/
def Table.effective (table : Table) (collection field : String) : Option MaskType :=
  (table collection field).or (table allCollections field)

/-- The masks in a list are those of a table, in whatever order. -/
def Lists (masks : List Mask) (table : Table) : Prop :=
  ∀ m : Mask, m ∈ masks ↔ table m.collection m.field = some m.type

theorem get?_fieldsOf {masks : List Mask} {table : Table} (h : Lists masks table)
    (collection field : String) :
    (fieldsOf collection masks).get? field = table collection field := by
  apply Fields.get?_ofList_of_mem_iff
  intro type
  constructor
  · intro hmem
    obtain ⟨m, hm, heq⟩ := List.mem_map.mp hmem
    obtain ⟨hlisted, hcollection⟩ := List.mem_filter.mp hm
    cases heq
    rw [← eq_of_beq hcollection]
    exact (h m).mp hlisted
  · intro htable
    have hlisted : ⟨collection, field, type⟩ ∈ masks := (h ⟨collection, field, type⟩).mpr htable
    refine List.mem_map.mpr ⟨⟨collection, field, type⟩, ?_, rfl⟩
    exact List.mem_filter.mpr ⟨hlisted, beq_self_eq_true collection⟩

/-- A field has the mask of the collection itself, or else the general one. -/
theorem get?_forCollection {masks : List Mask} {table : Table} (h : Lists masks table)
    (collection field : String) :
    (forCollection collection masks).get? field = table.effective collection field := by
  have hdistinct : (fieldsOf collection masks).Distinct := Fields.distinct_ofList _
  rw [Table.effective, ← get?_fieldsOf h collection, ← get?_fieldsOf h allCollections]
  exact hdistinct.get?_insertAll (fieldsOf allCollections masks) field

/-- Two trees of masks agree on all collections but one. -/
def AgreeOutside (collection : String) (t t' : Tree Mask) : Prop :=
  ∀ other, other ≠ collection →
    t.values.filter (·.collection == other) = t'.values.filter (·.collection == other)

theorem collection_of_keyed {t : Tree Mask} (h : t.Keyed) {collection field : String} {m : Mask}
    (hmem : ((keyFor collection field).toList, m) ∈ t.entries) : collection = m.collection :=
  (keyFor_inj (String.toList_inj.mp (h _ m hmem))).1

theorem agreeOutside_insert {t : Tree Mask} (h : t.Keyed) (m : Mask) :
    AgreeOutside m.collection (t.insert (Definition.key m).toList m) t := by
  intro other hother
  refine Tree.filter_values_insert (by simpa using Ne.symm hother) ?_
  intro old hold
  have hsame : m.collection = old.collection := collection_of_keyed h hold
  simpa [← hsame] using Ne.symm hother

theorem agreeOutside_erase {t : Tree Mask} (h : t.Keyed) (collection field : String) :
    AgreeOutside collection (t.erase (keyFor collection field).toList) t := by
  intro other hother
  refine Tree.filter_values_erase ?_
  intro old hold
  have hsame : collection = old.collection := collection_of_keyed h hold
  simpa [← hsame] using Ne.symm hother

/-- A change under one collection is seen by no other one, unless it is the general one. -/
theorem AgreeOutside.forCollection_eq {changed collection : String} {t t' : Tree Mask}
    (h : AgreeOutside changed t t') (hgeneral : changed ≠ allCollections)
    (hother : collection ≠ changed) :
    forCollection collection t.values = forCollection collection t'.values :=
  forCollection_congr (h collection hother) (h allCollections (Ne.symm hgeneral))

end QuerySets.Mask
