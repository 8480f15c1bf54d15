import QuerySets.Proofs.Json.Nesting
import QuerySets.Proofs.Store.Agreement
import QuerySets.Proofs.Value.Restored

/-!
Documents that come from JSON and are kept as records. In every state that a persistent
store can get into, its records are counted and its indexes can be read, so documents that
the indexes accept are appended and come back restored, also when the store has been
opened again.
-/

namespace QuerySets

namespace Document

/-- The document was read from JSON that is nested no deeper than JSON texts are. -/
def FromJson (d : Document) : Prop :=
  ∃ j : Json, j.Valid ∧ j.depth ≤ Json.depthLimit ∧ Value.ofJson j = .document d

/-- A document with its floats as they are read of their texts. -/
def reread (d : Document) : Document := ⟨Value.rereadEntries d.entries⟩

/-- What a document that is kept as a record comes back as, where floats survive. -/
def restored (d : Document) : Document := ⟨Value.restoredEntries d.entries⟩

/-- What a document that is kept as a record comes back as. -/
def returned (d : Document) : Document := d.reread.restored

/-- The document is nested no deeper than records that can be read. -/
def Shallow (d : Document) : Prop := d.toJson.depth ≤ Json.depthLimit

theorem shallow_of_ofJson {j : Json} {d : Document} (hread : Value.ofJson j = .document d)
    (hlimit : j.depth ≤ Json.depthLimit) : d.Shallow := by
  have hwritten := Value.depth_toJson_ofJson j
  rw [hread] at hwritten
  exact hwritten.trans hlimit

/-- No text is read as a document that is nested too deeply. -/
theorem shallow_of_ofText {text : String} {d : Document} (h : ofText text = .ok d) :
    d.Shallow := by
  unfold ofText at h
  split at h
  next j hj =>
    refine shallow_of_ofJson (j := j) ?_ (Json.depth_ofText? hj)
    unfold ofValue at h
    split at h
    next heq => rw [heq, Except.ok.inj h]
    next => cases h
  next => cases h

theorem FromJson.shallow {d : Document} (h : d.FromJson) : d.Shallow := by
  obtain ⟨j, -, hlimit, hread⟩ := h
  exact shallow_of_ofJson hread hlimit

theorem FromJson.decode {d : Document} (h : d.FromJson) :
    PersistentStore.decodeDocument d.toJson = .ok d.returned := by
  have hdepth : ¬ Json.depthLimit < d.toJson.depth := Nat.not_lt.mpr h.shallow
  obtain ⟨j, hvalid, -, hread⟩ := h
  have hregular : (Value.document d).Regular := hread ▸ Value.regular_ofJson hvalid
  have hback : Value.ofJson d.toJson.reread = .document d.returned :=
    Value.ofJson_reread_toJson hregular
  rw [PersistentStore.decodeDocument, if_neg hdepth, hback]

end Document

namespace PersistentStore

/-- Documents from JSON come back restored. -/
theorem mapM_decode {docs : List Document} (hread : ∀ d ∈ docs, d.FromJson) :
    docs.mapM (fun d : Document => decodeDocument d.toJson) =
      .ok (docs.map Document.returned) := by
  refine mapM_eq_ok_iff.mpr (List.forall₂_map_right_iff.mpr (List.forall₂_same.mpr ?_))
  intro d hd
  exact (hread d hd).decode

namespace Sound

variable {s : PersistentStore}

/-- One request leaves a sound store sound. -/
theorem answer (h : s.Sound) (request : Store.Request)
    (hcount : ((Store.persistent s).answer request).2.counted ≤ 2 ^ 64) :
    ∃ s', ((Store.persistent s).answer request).2 = .persistent s' ∧ s'.Sound := by
  obtain ⟨s', hs', hcases⟩ := Store.Kind.persistent.exists_answer s request
  refine ⟨s', hs', ?_⟩
  rw [show ((Store.persistent s).answer request).2 = .persistent s' from hs'] at hcount
  rcases hcases with rfl | ⟨ids, ids', name, docs, -, hinsert⟩ | ⟨name, i, -, hensure⟩ |
      ⟨name, -, rfl⟩
  · exact h
  · obtain rfl := keep_of_insert hinsert
    exact h.keep name hcount
  · rcases eq_or_insert_of_ensureIndex hensure with rfl | ⟨-, -, rfl⟩
    · exact h
    · exact h.declare _ i
  · exact h.drop name

/-- What each request of a run keeps of a sound store, and opening it again too, the run
keeps. -/
theorem follow_of_answer {P : PersistentStore → Prop} {events : List Store.Event}
    (hanswer : ∀ {s s' : PersistentStore} {request : Store.Request}, .request request ∈ events →
      s.Sound → P s → ((Store.persistent s).answer request).2 = .persistent s' →
      s'.count ≤ 2 ^ 64 → P s')
    (hreopen : ∀ {s : PersistentStore} (aside : Nat), P s → P { s with count := s.count + aside })
    (h : s.Sound) (hP : P s) (hcount : ((Store.persistent s).follow events).2.counted ≤ 2 ^ 64) :
    ∃ s', ((Store.persistent s).follow events).2 = .persistent s' ∧ s'.Sound ∧ P s' := by
  induction events generalizing s with
  | nil => exact ⟨s, rfl, h, hP⟩
  | cons event rest ih =>
    cases event with
    | request request =>
      simp only [Store.follow] at hcount ⊢
      have hbound := (Store.counted_le_follow _ rest).trans hcount
      obtain ⟨s', hs', hsound⟩ := h.answer request hbound
      rw [hs'] at hcount hbound ⊢
      exact ih (fun hmem => hanswer (List.mem_cons_of_mem _ hmem)) hsound
        (hanswer List.mem_cons_self h hP hs' hbound) hcount
    | reopen aside =>
      exact ih (fun hmem => hanswer (List.mem_cons_of_mem _ hmem)) (h.aside aside)
        (hreopen aside hP) hcount

/-- Whatever happens to a sound store, it is sound after it. -/
theorem follow (h : s.Sound) {events : List Store.Event}
    (hcount : ((Store.persistent s).follow events).2.counted ≤ 2 ^ 64) :
    ∃ s', ((Store.persistent s).follow events).2 = .persistent s' ∧ s'.Sound := by
  obtain ⟨s', hs', hsound, -⟩ :=
    follow_of_answer (P := fun _ => True) (fun _ _ _ _ _ => trivial) (fun _ _ => trivial) h
      trivial hcount
  exact ⟨s', hs', hsound⟩

/-- Documents from JSON that the indexes accept are appended and come back restored. -/
theorem insert (h : s.Sound) {name : String} {existing docs : List Document}
    (hexisting : s.documents name = .ok existing) (hread : ∀ d ∈ docs, d.FromJson)
    (hids : ∀ d ∈ docs, d.contains "_id" = true)
    (hcheck : ∀ is, s.indexes name = .ok is → Index.checkUnique name is existing docs = .ok ())
    (hcount : s.count + docs.length ≤ 2 ^ 64) (ids : IdSupply) :
    s.insert ids name docs = .ok (s.keep name (docs.map (·.toJson)), ids) ∧
      (s.keep name (docs.map (·.toJson))).documents name =
        .ok (existing ++ docs.map Document.returned) := by
  obtain ⟨is, his⟩ := h.indexes name
  have hinsert := insert_eq_of_read his hexisting ids docs
  rw [ids.assign_of_contains hids, hcheck is his] at hinsert
  refine ⟨hinsert, ?_⟩
  rw [documents_keep h hcount, hexisting, mapM_decode hread]
  rfl

end Sound

/-- Whatever happened to a persistent store that was empty at first: documents from JSON
that have identifiers and that the indexes accept are inserted, and from then on the
collection is read as before with the restored documents after it, however often the store
is opened again. Only their floats may have been read as other ones. -/
theorem restored_of_insert {events : List Store.Event} {s : PersistentStore}
    (hrun : ((Store.persistent .empty).follow events).2 = .persistent s) {name : String}
    {existing docs : List Document} (hexisting : s.documents name = .ok existing)
    (hread : ∀ d ∈ docs, d.FromJson) (hids : ∀ d ∈ docs, d.contains "_id" = true)
    (hcheck : ∀ is, s.indexes name = .ok is → Index.checkUnique name is existing docs = .ok ())
    (hcount : s.count + docs.length ≤ 2 ^ 64) (ids : IdSupply) :
    ∃ s', s.insert ids name docs = .ok (s', ids) ∧ ∀ aside,
      ((Store.persistent s').reopen aside).documents name =
        .ok (existing ++ docs.map Document.returned) ∧
      ((∀ d ∈ docs, d.reread = d) → ((Store.persistent s').reopen aside).documents name =
        .ok (existing ++ docs.map Document.restored)) := by
  have hcounted : ((Store.persistent .empty).follow events).2.counted ≤ 2 ^ 64 := by
    rw [hrun]
    exact (Nat.le_add_right _ _).trans hcount
  obtain ⟨s', hs', hsound⟩ := Sound.empty.follow hcounted
  rw [hrun] at hs'
  cases hs'
  obtain ⟨hinsert, hdocuments⟩ := hsound.insert hexisting hread hids hcheck hcount ids
  refine ⟨_, hinsert, fun _ => ⟨hdocuments, fun hfloats => ?_⟩⟩
  have hsame : docs.map Document.returned = docs.map Document.restored :=
    List.map_congr_left fun d hd => congrArg Document.restored (hfloats d hd)
  rw [← hsame]
  exact hdocuments

/-- A sighting at the first millisecond of the year 10000, seen before at a time that is given
in microseconds. -/
def sampleSighting : Document :=
  ⟨[("_id", .int 1), ("at", .date ⟨253402300800, 0⟩),
    ("seen", .array [.date ⟨1714979289, 123456000⟩, .null])]⟩

theorem fromJson_sampleSighting : sampleSighting.FromJson := by
  refine ⟨.record [("_id", .number (.whole 1)),
    ("at", .record [("$date", .number (.whole 253402300800000))]),
    ("seen", .array [.record [("$date", .string "2024-05-06T07:08:09.123456Z")], .null])],
    ?valid, ?depth, rfl⟩
  case valid => simp [Json.record, Json.Valid, Json.ValidMembers, Json.ValidItems]
  case depth => decide

/-- The later year has five digits and a sign, so its date comes back as a document. -/
theorem far_date_restored :
    sampleSighting.FromJson ∧ ∃ s', empty.insert ⟨0, 0, 0⟩ "sightings" [sampleSighting] =
      .ok (s', ⟨0, 0, 0⟩) ∧ s'.documents "sightings" =
        .ok [⟨[("_id", .int 1),
          ("at", .document ⟨[("$date", .string "+10000-01-01T00:00:00.000Z")]⟩),
          ("seen", .array [.date ⟨1714979289, 123000000⟩, .null])]⟩] :=
  ⟨fromJson_sampleSighting, _, rfl, rfl⟩

/-- A collection with an index on the dates and one document that has none. -/
def sampleStart : List Store.Event :=
  [.request (.ensureIndex "sightings" ⟨["at"], true⟩),
   .request (.insert ⟨0, 0, 0⟩ "sightings" [⟨[("_id", .int 7)]⟩]),
   .reopen 3]

theorem restored_of_insert_sample :
    ∃ s s', ((Store.persistent .empty).follow sampleStart).2 = .persistent s ∧
      s.documents "sightings" = .ok [⟨[("_id", .int 7)]⟩] ∧
      s.indexes "sightings" = .ok [⟨["at"], true⟩] ∧
      s.insert ⟨0, 0, 0⟩ "sightings" [sampleSighting] = .ok (s', ⟨0, 0, 0⟩) ∧
      ∀ aside, ((Store.persistent s').reopen aside).documents "sightings" =
        .ok [⟨[("_id", .int 7)]⟩, sampleSighting.restored] := by
  obtain ⟨s, hrun⟩ : ∃ s, ((Store.persistent .empty).follow sampleStart).2 = .persistent s :=
    ⟨_, rfl⟩
  have hexisting : s.documents "sightings" = .ok [⟨[("_id", .int 7)]⟩] := by
    cases hrun
    rfl
  have hindexes : s.indexes "sightings" = .ok [⟨["at"], true⟩] := by
    cases hrun
    rfl
  have hcount : s.count + [sampleSighting].length ≤ 2 ^ 64 := by
    cases hrun
    decide
  have hcheck : ∀ is, s.indexes "sightings" = .ok is →
      Index.checkUnique "sightings" is [⟨[("_id", .int 7)]⟩] [sampleSighting] = .ok () := by
    intro is his
    rw [hindexes] at his
    cases his
    rfl
  have hread : ∀ d ∈ [sampleSighting], d.FromJson :=
    List.forall_mem_singleton.mpr fromJson_sampleSighting
  have hids : ∀ d ∈ [sampleSighting], d.contains "_id" = true :=
    List.forall_mem_singleton.mpr rfl
  obtain ⟨s', hinsert, hback⟩ :=
    restored_of_insert hrun hexisting hread hids hcheck hcount ⟨0, 0, 0⟩
  have hfloats : ∀ d ∈ [sampleSighting], d.reread = d := List.forall_mem_singleton.mpr rfl
  exact ⟨s, s', hrun, hexisting, hindexes, hinsert, fun aside => (hback aside).2 hfloats⟩

end PersistentStore

end QuerySets
