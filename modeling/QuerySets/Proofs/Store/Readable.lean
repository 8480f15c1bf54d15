import QuerySets.Proofs.Store.Identifiers
import QuerySets.Proofs.Store.Restored

/-!
Records that can be read. A document with an identifier is never written as an object that
wraps something else, so its record is read as a document with the same fields in the same
order unless it is nested too deeply. Every document of a store has an identifier; so where
nothing that was inserted is nested too deeply, each collection can be read in every state
of the store.
-/

namespace QuerySets

namespace Value

/-- What wraps something has no other members than those of the notation. -/
theorem unwrap?_eq_none_of_mem {members : List (String × Json)}
    (h : "_id" ∈ members.map (·.1)) : unwrap? members = none := by
  unfold unwrap?
  split
  next key s =>
    obtain rfl : "_id" = key := List.mem_singleton.mp h
    rfl
  next key n =>
    obtain rfl : "_id" = key := List.mem_singleton.mp h
    rfl
  next key s other t =>
    rcases List.mem_cons.mp h with hkey | hother
    · obtain rfl : "_id" = key := hkey
      rfl
    · obtain rfl : "_id" = other := List.mem_singleton.mp hother
      simp
  next => rfl

theorem map_fst_toMembers (entries : List (String × Value)) :
    (toMembers entries).map (·.1) = entries.map (·.1) := by
  induction entries with
  | nil => rfl
  | cons entry rest ih => rw [toMembers, List.map_cons, List.map_cons, ih]

theorem map_fst_ofMembers (members : List (String × Json)) :
    (ofMembers members).map (·.1) = members.map (·.1) := by
  induction members with
  | nil => rfl
  | cons member rest ih => rw [ofMembers, List.map_cons, List.map_cons, ih]

theorem map_fst_rereadMembers (members : List (String × Json)) :
    (Json.rereadMembers members).map (·.1) = members.map (·.1) := by
  induction members with
  | nil => rfl
  | cons member rest ih => rw [Json.rereadMembers, List.map_cons, List.map_cons, ih]

/-- A document is read from the object of its members. -/
theorem exists_of_ofJson_eq_document {j : Json} {d : Document} (h : ofJson j = .document d) :
    ∃ members, j = .object ⟨members⟩ ∧ d = ⟨ofMembers members⟩ := by
  cases j with
  | number n =>
    cases n with
    | whole n =>
      rw [ofJson, ofNumber] at h
      split at h <;> cases h
    | float x => cases h
  | object members =>
    obtain ⟨members⟩ := members
    rw [ofJson] at h
    cases hunwrap : unwrap? members with
    | some v =>
      rw [hunwrap] at h
      rcases unwrap?_cases hunwrap with ⟨_, _, rfl⟩ | ⟨_, rfl⟩ | ⟨_, _, rfl⟩ <;> cases h
    | none =>
      rw [hunwrap] at h
      cases h
      exact ⟨members, rfl, rfl⟩
  | null | bool _ | string _ | array _ => cases h

end Value

namespace Document

theorem mem_keys_of_contains {d : Document} {key : String} (h : d.contains key = true) :
    key ∈ d.keys := by
  obtain ⟨v, hv⟩ := Option.isSome_iff_exists.mp h
  exact List.mem_map_of_mem (Association.mem_of_lookup hv)

/-- The record of a document with an identifier is read as a document with the same fields. -/
theorem Shallow.exists_decode {d : Document} (h : d.Shallow) (hid : d.contains "_id" = true) :
    ∃ back : Document,
      PersistentStore.decodeDocument d.toJson = .ok back ∧ back.keys = d.keys := by
  obtain ⟨entries⟩ := d
  have hkeys : (Json.rereadMembers (Value.toMembers entries)).map (·.1) = entries.map (·.1) :=
    (Value.map_fst_rereadMembers _).trans (Value.map_fst_toMembers entries)
  have hmem : "_id" ∈ (Json.rereadMembers (Value.toMembers entries)).map (·.1) := by
    rw [hkeys]
    exact mem_keys_of_contains hid
  have hread : Value.ofJson (toJson ⟨entries⟩).reread =
      .document ⟨Value.ofMembers (Json.rereadMembers (Value.toMembers entries))⟩ := by
    simp only [toJson, Value.toJson, Json.reread, Value.ofJson,
      Value.unwrap?_eq_none_of_mem hmem]
  refine ⟨⟨Value.ofMembers (Json.rereadMembers (Value.toMembers entries))⟩, ?_, ?_⟩
  · have hdepth : ¬ Json.depthLimit < (toJson ⟨entries⟩).depth := Nat.not_lt.mpr h
    rw [PersistentStore.decodeDocument, if_neg hdepth, hread]
  · exact (Value.map_fst_ofMembers _).trans hkeys

/-- The record of a document that is nested too deeply cannot be read. -/
theorem decode_of_not_shallow {d : Document} (h : ¬ d.Shallow) :
    PersistentStore.decodeDocument d.toJson = .error (.unreadable d.toJson.excessMessage) :=
  if_pos (Nat.not_le.mp h)

/-- An identifier is an object inside of the document, and nothing is moved deeper. -/
theorem shallow_withId_iff {d : Document} {id : ObjectId} : (d.withId id).Shallow ↔ d.Shallow := by
  obtain ⟨entries⟩ := d
  have hid : (Value.objectId id).toJson.depth = 1 := rfl
  show max (Value.objectId id).toJson.depth (Json.depthMembers (Value.toMembers entries)) + 1 ≤ 127
    ↔ Json.depthMembers (Value.toMembers entries) + 1 ≤ 127
  omega

/-- A document from JSON with an identifier in front is one that could be read from JSON. -/
theorem FromJson.withId {d : Document} (h : d.FromJson) (id : ObjectId) :
    (d.withId id).FromJson := by
  obtain ⟨j, hvalid, hlimit, hread⟩ := h
  obtain ⟨members, rfl, rfl⟩ := Value.exists_of_ofJson_eq_document hread
  have hunwrap : Value.unwrap? (("_id", (Value.objectId id).toJson) :: members) = none :=
    Value.unwrap?_eq_none_of_mem List.mem_cons_self
  refine ⟨.record (("_id", (Value.objectId id).toJson) :: members), ?valid, ?depth, ?read⟩
  case valid => exact ⟨⟨trivial, trivial⟩, hvalid⟩
  case depth =>
    have hinside : Json.depthMembers members + 1 ≤ 127 := hlimit
    have hid : (Value.objectId id).toJson.depth = 1 := rfl
    show max (Value.objectId id).toJson.depth (Json.depthMembers members) + 1 ≤ 127
    omega
  case read =>
    rw [Json.record, Value.ofJson, hunwrap, Value.ofMembers, Value.ofJson_objectId]
    rfl

end Document

/-- What is inserted in the course of the events is nested no deeper than records that can be
read. -/
def Store.ShallowInserts (events : List Store.Event) : Prop :=
  ∀ ids collection docs, .request (.insert ids collection docs) ∈ events → ∀ d ∈ docs, d.Shallow

namespace PersistentStore

variable {s s' : PersistentStore}

/-- All collections can be read. -/
def Readable (s : PersistentStore) : Prop := ∀ name, ∃ docs, s.documents name = .ok docs

theorem readable_empty : empty.Readable := fun _ => ⟨[], rfl⟩

theorem exists_decode_of_identified (ids : IdSupply) {docs : List Document}
    (hshallow : ∀ d ∈ docs, d.Shallow) :
    ∃ back, (ids.assign docs).2.mapM (fun d : Document => decodeDocument d.toJson) = .ok back := by
  obtain ⟨hkept, -⟩ := ids.identified_assign docs
  refine exists_mapM_eq_ok_iff.mpr fun d hd => ?_
  have hid : d.contains "_id" = true := IdSupply.contains_of_mem_assign hd
  have hd' : d.Shallow :=
    (hkept.forall_mem_iff fun _ _ => Document.shallow_withId_iff).mpr hshallow d hd
  obtain ⟨back, hback, -⟩ := hd'.exists_decode hid
  exact ⟨back, hback⟩

theorem Readable.insert (h : s.Readable) (hsound : s.Sound) {ids ids' : IdSupply} {name : String}
    {docs : List Document} (hshallow : ∀ d ∈ docs, d.Shallow)
    (hinsert : s.insert ids name docs = .ok (s', ids')) (hcount : s'.count ≤ 2 ^ 64) :
    s'.Readable := by
  obtain rfl := keep_of_insert hinsert
  rw [count_keep] at hcount
  intro other
  by_cases heq : name = other
  · subst heq
    obtain ⟨old, hold⟩ := h name
    obtain ⟨back, hback⟩ := exists_decode_of_identified ids hshallow
    refine ⟨old ++ back, ?_⟩
    rw [documents_keep hsound hcount, hold, hback]
    rfl
  · rw [documents_keep_of_ne heq]
    exact h other

/-- Where nothing is nested too deeply, everything can be read whatever happens. -/
theorem Readable.follow (h : s.Readable) (hsound : s.Sound) {events : List Store.Event}
    (hshallow : Store.ShallowInserts events)
    (hcount : ((Store.persistent s).follow events).2.counted ≤ 2 ^ 64) :
    ∃ s', ((Store.persistent s).follow events).2 = .persistent s' ∧ s'.Sound ∧ s'.Readable := by
  refine Sound.follow_of_answer ?_ (fun _ h => h) hsound h hcount
  intro s s' request hrequest hsound h hanswer hcount
  rcases Store.Kind.persistent.answer_cases hanswer with rfl |
      ⟨ids, ids', name, docs, rfl, hinsert⟩ | ⟨name, i, -, hensure⟩ |
      ⟨name, -, rfl⟩
  · exact h
  · exact h.insert hsound (hshallow ids name docs hrequest) hinsert hcount
  · rcases eq_or_insert_of_ensureIndex hensure with rfl | ⟨-, -, rfl⟩
    · exact h
    · exact h
  · intro other
    rw [documents_drop hsound]
    split
    · exact ⟨[], rfl⟩
    · exact h other

end PersistentStore

end QuerySets
