import QuerySets.Proofs.Document.Path
import QuerySets.Proofs.Store.Readable

/-!
Unique indexes on records. The check compares the keys of the documents that come in with
those of the records that are read back. So where documents have the same keys after they
have been kept, a unique index keeps the documents of its collection apart in every state of
the store. But a date that is kept loses what is below a millisecond, and then documents
that come in with the same key are accepted.
-/

namespace QuerySets

namespace Index

/-- The document has the same key after it has been kept as a record. -/
def Keeps (i : Index) (d : Document) : Prop := i.keyOf d.returned = i.keyOf d

/-- What a path finds in a document with an identifier in front: something in the identifier,
or what it found before. -/
theorem getPath?_withId (d : Document) (id : ObjectId) {path segment : String}
    {rest : List String} (h : Path.ofString path = segment :: rest) :
    (d.withId id).getPath? path =
      if "_id" = segment then Value.at? rest (.objectId id) else d.getPath? path := by
  have hstep : (Value.document (d.withId id)).step? segment =
      if "_id" = segment then some (.objectId id) else (Value.document d).step? segment :=
    Association.lookup_cons segment "_id" (Value.objectId id) d.entries
  unfold Document.getPath? Document.at?
  rw [h, Value.at?, Value.at?, hstep]
  split <;> rfl

/-- An identifier is kept as it is, so putting it in front changes no key but its own. -/
theorem Keeps.withId {i : Index} {d : Document} (h : i.Keeps d) (id : ObjectId) :
    i.Keeps (d.withId id) := by
  have hreturned : (d.withId id).returned = d.returned.withId id := rfl
  have hparts : ∀ path ∈ i.fields,
      (d.returned.getPath? path).getD .null = (d.getPath? path).getD .null :=
    List.map_inj_left.mp h
  refine List.map_congr_left fun path hpath => ?_
  rw [hreturned]
  cases hsegments : Path.ofString path with
  | nil => exact absurd hsegments (Path.ofString_ne_nil path)
  | cons segment rest =>
    rw [getPath?_withId d.returned id hsegments, getPath?_withId d id hsegments]
    by_cases hid : "_id" = segment
    · rw [if_pos hid, if_pos hid]
    · rw [if_neg hid, if_neg hid]
      exact hparts path hpath

/-- Documents that the index admits can be kept among those that are there. -/
theorem Admits.pairwise_append_returned {i : Index} {existing incoming : List Document}
    (h : i.Admits existing incoming) (hexisting : existing.Pairwise i.Separates)
    (hkeeps : ∀ d ∈ incoming, i.Keeps d) :
    (existing ++ incoming.map Document.returned).Pairwise i.Separates := by
  obtain ⟨hacross, hwithin⟩ := h
  refine List.pairwise_append.mpr ⟨hexisting, ?_, ?_⟩
  · rw [List.pairwise_map]
    refine hwithin.imp_of_mem fun {d e} hd he hseparates => ?_
    unfold Separates at hseparates ⊢
    rw [hkeeps d hd, hkeeps e he]
    exact hseparates
  · intro d hd e he
    obtain ⟨given, hgiven, rfl⟩ := List.mem_map.mp he
    unfold Separates
    rw [hkeeps given hgiven]
    exact hacross d hd given hgiven

end Index

/-- The request is about a collection whose name has no zero character, and the documents
it inserts come from JSON. -/
structure Store.Request.Regular (request : Store.Request) : Prop where
  named : '\x00' ∉ request.collection.toList
  read : ∀ ids collection docs, request = .insert ids collection docs → ∀ d ∈ docs, d.FromJson

theorem Store.Request.Regular.insert {ids : IdSupply} {name : String} {docs : List Document}
    (hname : '\x00' ∉ name.toList) (hread : ∀ d ∈ docs, d.FromJson) :
    (Store.Request.insert ids name docs).Regular where
  named := hname
  read _ _ _ heq := by
    cases heq
    exact hread

theorem Store.Request.Regular.ensureIndex {name : String} (hname : '\x00' ∉ name.toList)
    (i : Index) : (Store.Request.ensureIndex name i).Regular where
  named := hname
  read _ _ _ heq := by cases heq

namespace PersistentStore

variable {s s' : PersistentStore} {name other : String} {i : Index}

/-- The collection and its indexes can be read; if the index is one of them and unique, it
keeps the documents apart. -/
def Upholds (s : PersistentStore) (name : String) (i : Index) : Prop :=
  ∃ docs is, s.documents name = .ok docs ∧ s.indexes name = .ok is ∧
    (i ∈ is → i.unique = true → docs.Pairwise i.Separates)

theorem upholds_empty (name : String) (i : Index) : empty.Upholds name i :=
  ⟨[], [], rfl, rfl, fun hmem => absurd hmem List.not_mem_nil⟩

/-- Documents from JSON come back restored, with the identifiers that they are given. -/
theorem mapM_decode_assign (ids : IdSupply) {docs : List Document}
    (hread : ∀ d ∈ docs, d.FromJson) :
    (ids.assign docs).2.mapM (fun d : Document => decodeDocument d.toJson) =
      .ok ((ids.assign docs).2.map Document.returned) := by
  obtain ⟨hkept, -⟩ := ids.identified_assign docs
  exact mapM_decode (hkept.forall_mem hread fun _ id _ h => h.withId id)

theorem Upholds.insert (h : s.Upholds name i) (hsound : s.Sound) {ids ids' : IdSupply}
    {docs : List Document} (hinsert : s.insert ids other docs = .ok (s', ids'))
    (hread : ∀ d ∈ docs, d.FromJson) (hkeeps : other = name → ∀ d ∈ docs, i.Keeps d)
    (hcount : s'.count ≤ 2 ^ 64) : s'.Upholds name i := by
  obtain ⟨existing, is, hexisting, his, hapart⟩ := h
  obtain rfl := keep_of_insert hinsert
  by_cases heq : other = name
  · subst heq
    rw [count_keep] at hcount
    have hcheck := check_of_insert hinsert his hexisting
    obtain ⟨hkept, -⟩ := ids.identified_assign docs
    have hkeeps' := hkept.forall_mem (hkeeps rfl) fun _ id _ h => h.withId id
    refine ⟨existing ++ (ids.assign docs).2.map Document.returned, is, ?_, his, ?_⟩
    · rw [documents_keep hsound hcount, hexisting, mapM_decode_assign ids hread]
      rfl
    · intro hmem hunique
      have hadmits := Index.checkUnique_eq_ok_iff.mp hcheck i hmem hunique
      exact hadmits.pairwise_append_returned (hapart hmem hunique) hkeeps'
  · refine ⟨existing, is, ?_, his, hapart⟩
    rw [documents_keep_of_ne heq]
    exact hexisting

theorem Upholds.ensureIndex (h : s.Upholds name i) (hname : '\x00' ∉ name.toList)
    (hother : '\x00' ∉ other.toList) {j : Index} (hensure : s.ensureIndex other j = .ok s') :
    s'.Upholds name i := by
  obtain ⟨docs, is, hdocs, his, hapart⟩ := h
  rcases eq_or_insert_of_ensureIndex hensure with rfl | ⟨hnew, ⟨existing, hread, hcheck⟩, rfl⟩
  · exact ⟨docs, is, hdocs, his, hapart⟩
  · obtain ⟨is', his', hperm⟩ := exists_indexes_declare hother hname hnew his
    refine ⟨docs, is', hdocs, his', ?_⟩
    intro hmem hunique
    rw [hperm.mem_iff] at hmem
    by_cases heq : other = name
    · subst heq
      rw [hdocs] at hread
      cases hread
      rw [if_pos rfl, List.mem_cons] at hmem
      rcases hmem with rfl | hold
      · exact (Index.checkUnique_eq_ok_iff.mp hcheck i List.mem_cons_self hunique).2
      · exact hapart hold hunique
    · rw [if_neg heq] at hmem
      exact hapart hmem hunique

theorem Upholds.drop (h : s.Upholds name i) (hsound : s.Sound) (hname : '\x00' ∉ name.toList)
    (hother : '\x00' ∉ other.toList) : (s.drop other).Upholds name i := by
  obtain ⟨docs, is, hdocs, his, hapart⟩ := h
  by_cases heq : other = name
  · subst heq
    obtain ⟨is', his'⟩ := (hsound.drop other).indexes other
    refine ⟨[], is', ?_, his', fun _ _ => List.Pairwise.nil⟩
    rw [documents_drop hsound, if_pos rfl]
  · refine ⟨docs, is, ?_, ?_, hapart⟩
    · rw [documents_drop hsound, if_neg heq]
      exact hdocs
    · unfold indexes
      rw [scan_drop hother hname, if_neg heq]
      exact his

/-- Whatever is requested of a sound store, the collection keeps upholding the index. -/
theorem Upholds.follow (h : s.Upholds name i) (hsound : s.Sound) {events : List Store.Event}
    (hevents : ∀ request, .request request ∈ events → request.Regular)
    (hname : '\x00' ∉ name.toList)
    (hkeeps : ∀ ids docs, .request (.insert ids name docs) ∈ events → ∀ d ∈ docs, i.Keeps d)
    (hcount : ((Store.persistent s).follow events).2.counted ≤ 2 ^ 64) :
    ∃ s', ((Store.persistent s).follow events).2 = .persistent s' ∧ s'.Sound ∧
      s'.Upholds name i := by
  refine Sound.follow_of_answer ?_ (fun _ h => h) hsound h hcount
  intro s s' request hrequest hsound h hanswer hcount
  obtain ⟨hother, hread⟩ := hevents request hrequest
  rcases Store.Kind.persistent.answer_cases hanswer with rfl |
      ⟨ids, ids', other, docs, rfl, hinsert⟩ | ⟨other, j, rfl, hensure⟩ |
      ⟨other, rfl, rfl⟩
  · exact h
  · have hkeeps' : other = name → ∀ d ∈ docs, i.Keeps d := by
      rintro rfl
      exact hkeeps ids docs hrequest
    exact h.insert hsound hinsert (hread ids other docs rfl) hkeeps' hcount
  · exact h.ensureIndex hname hother hensure
  · exact h.drop hsound hname hother

/-- In every state that comes from an empty store, a unique index of a collection keeps its
documents apart if all that have been inserted have the same keys after they have been
kept. -/
theorem apart_of_keeps {events : List Store.Event}
    (hevents : ∀ request, .request request ∈ events → request.Regular)
    (hcount : ((Store.persistent .empty).follow events).2.counted ≤ 2 ^ 64) {name : String}
    (hname : '\x00' ∉ name.toList) {i : Index}
    (hkeeps : ∀ ids docs, .request (.insert ids name docs) ∈ events → ∀ d ∈ docs, i.Keeps d) :
    ∃ s docs is, ((Store.persistent .empty).follow events).2 = .persistent s ∧
      s.documents name = .ok docs ∧ s.indexes name = .ok is ∧
      (i ∈ is → i.unique = true → i.Apart docs) := by
  obtain ⟨s, hs, -, docs, is, hdocs, his, hapart⟩ :=
    (upholds_empty name i).follow .empty hevents hname hkeeps hcount
  refine ⟨s, docs, is, hs, hdocs, his, ?_⟩
  intro hmem hunique
  exact Index.apart_of_pairwise (hapart hmem hunique)

section Samples

open Time

def sampleSeen (id : Int64) (time : Instant) : Document := ⟨[("_id", .int id), ("at", .date time)]⟩

theorem fromJson_sampleSeen (id : Int64) {text : String} {time : Instant}
    (h : Instant.readRfc3339? text = some time) : (sampleSeen id time).FromJson := by
  have hid := Value.ofNumber_int id
  have hunwrap : Value.unwrap? [("$date", .string text)] =
      (Instant.readRfc3339? text).map Value.date := rfl
  have hbounds := And.intro id.le_toInt id.toInt_lt
  refine ⟨.record [("_id", .number (.whole id.toInt)), ("at", .record [("$date", .string text)])],
    ?valid, ?depth, ?read⟩
  case valid =>
    refine ⟨⟨hbounds.1, ?_⟩, ⟨trivial, trivial⟩, trivial⟩
    omega
  case depth =>
    show 2 ≤ 127
    omega
  case read =>
    change Value.document ⟨[("_id", Value.ofNumber (.whole id.toInt)),
      ("at", Value.ofJson (.record [("$date", .string text)]))]⟩ = _
    rw [hid, Json.record, Value.ofJson, hunwrap, h]
    rfl

/-- An index on the dates, and two documents with one date in microseconds. -/
def sampleDoubled : List Store.Event :=
  [.request (.ensureIndex "sightings" ⟨["at"], true⟩),
   .request (.insert ⟨0, 0, 0⟩ "sightings" [sampleSeen 1 ⟨1714979289, 123456000⟩]),
   .request (.insert ⟨0, 0, 0⟩ "sightings" [sampleSeen 2 ⟨1714979289, 123456000⟩])]

theorem regular_sampleDoubled (request : Store.Request)
    (h : .request request ∈ sampleDoubled) : request.Regular := by
  have hname : '\x00' ∉ "sightings".toList := by decide
  have hread : Instant.readRfc3339? "2024-05-06T07:08:09.123456Z" =
      some ⟨1714979289, 123456000⟩ := rfl
  have hfrom (id : Int64) : ∀ d ∈ [sampleSeen id ⟨1714979289, 123456000⟩], d.FromJson :=
    List.forall_mem_singleton.mpr (fromJson_sampleSeen id hread)
  simp only [sampleDoubled, List.mem_cons, Store.Event.request.injEq, List.not_mem_nil,
    or_false] at h
  rcases h with rfl | rfl | rfl
  · exact .ensureIndex hname _
  · exact .insert hname (hfrom 1)
  · exact .insert hname (hfrom 2)

/-- The second document comes in with a date that is not the one that has been kept. Both are
kept, and are read with the same date. -/
theorem kept_with_same_key :
    (∀ request, .request request ∈ sampleDoubled → request.Regular) ∧
      ∃ s docs, ((Store.persistent .empty).follow sampleDoubled).2 = .persistent s ∧
        s.documents "sightings" = .ok docs ∧
        s.indexes "sightings" = .ok [⟨["at"], true⟩] ∧
        docs = [sampleSeen 1 ⟨1714979289, 123000000⟩, sampleSeen 2 ⟨1714979289, 123000000⟩] ∧
        ¬ Index.Apart ⟨["at"], true⟩ docs := by
  refine ⟨regular_sampleDoubled, _, _, rfl, rfl, rfl, rfl, ?_⟩
  intro hapart
  have hequal : (Value.date ⟨1714979289, 123000000⟩).looseEq
      (.date ⟨1714979289, 123000000⟩) = true := by decide
  exact hapart 0 1 _ _ Nat.zero_ne_one rfl rfl (.cons hequal .nil)

/-- An index on the dates, two documents with dates in milliseconds, one that is refused, and a
date in microseconds in another collection. -/
def sampleTimed : List Store.Event :=
  [.request (.ensureIndex "sightings" ⟨["at"], true⟩),
   .request (.insert ⟨0, 0, 0⟩ "sightings"
    [sampleSeen 1 ⟨1714979289, 123000000⟩, sampleSeen 2 ⟨1714979289, 124000000⟩]),
   .reopen 4,
   .request (.insert ⟨0, 0, 0⟩ "sightings" [sampleSeen 3 ⟨1714979289, 123000000⟩]),
   .request (.insert ⟨0, 0, 0⟩ "others" [sampleSeen 4 ⟨1714979289, 123456000⟩])]

theorem regular_sampleTimed (request : Store.Request)
    (h : .request request ∈ sampleTimed) : request.Regular := by
  have hname : '\x00' ∉ "sightings".toList := by decide
  have hother : '\x00' ∉ "others".toList := by decide
  have hearly : Instant.readRfc3339? "2024-05-06T07:08:09.123Z" =
      some ⟨1714979289, 123000000⟩ := rfl
  have hlate : Instant.readRfc3339? "2024-05-06T07:08:09.124Z" =
      some ⟨1714979289, 124000000⟩ := rfl
  have hfine : Instant.readRfc3339? "2024-05-06T07:08:09.123456Z" =
      some ⟨1714979289, 123456000⟩ := rfl
  simp only [sampleTimed, List.mem_cons, Store.Event.request.injEq, reduceCtorEq,
    List.not_mem_nil, or_false, false_or] at h
  rcases h with rfl | rfl | rfl | rfl
  · exact .ensureIndex hname _
  · exact .insert hname (List.forall_mem_cons.mpr ⟨fromJson_sampleSeen 1 hearly,
      List.forall_mem_singleton.mpr (fromJson_sampleSeen 2 hlate)⟩)
  · exact .insert hname (List.forall_mem_singleton.mpr (fromJson_sampleSeen 3 hearly))
  · exact .insert hother (List.forall_mem_singleton.mpr (fromJson_sampleSeen 4 hfine))

theorem keeps_sampleTimed (ids : IdSupply) (docs : List Document)
    (h : .request (.insert ids "sightings" docs) ∈ sampleTimed) :
    ∀ d ∈ docs, Index.Keeps ⟨["at"], true⟩ d := by
  simp only [sampleTimed, List.mem_cons, Store.Event.request.injEq, reduceCtorEq,
    Store.Request.insert.injEq, true_and, String.reduceEq, false_and, and_false, List.not_mem_nil,
    or_self, or_false, false_or] at h
  rcases h with ⟨-, rfl⟩ | ⟨-, rfl⟩
  · exact List.forall_mem_cons.mpr ⟨rfl, List.forall_mem_singleton.mpr rfl⟩
  · exact List.forall_mem_singleton.mpr rfl

theorem apart_of_keeps_sample :
    (∀ request, .request request ∈ sampleTimed → request.Regular) ∧
      ((Store.persistent .empty).follow sampleTimed).2.counted ≤ 2 ^ 64 ∧
      ∃ s docs is, ((Store.persistent .empty).follow sampleTimed).2 = .persistent s ∧
        s.documents "sightings" = .ok docs ∧ s.indexes "sightings" = .ok is ∧
        docs = [sampleSeen 1 ⟨1714979289, 123000000⟩, sampleSeen 2 ⟨1714979289, 124000000⟩] ∧
        is = [⟨["at"], true⟩] ∧ Index.Apart ⟨["at"], true⟩ docs := by
  have hcount : ((Store.persistent .empty).follow sampleTimed).2.counted ≤ 2 ^ 64 := by
    decide +kernel
  have hname : '\x00' ∉ "sightings".toList := by decide
  refine ⟨regular_sampleTimed, hcount, ?_⟩
  obtain ⟨s, docs, is, hs, hdocs, his, hapart⟩ :=
    apart_of_keeps regular_sampleTimed hcount hname keeps_sampleTimed
  have hread : docs =
      [sampleSeen 1 ⟨1714979289, 123000000⟩, sampleSeen 2 ⟨1714979289, 124000000⟩] := by
    cases hs
    cases hdocs
    rfl
  have hdeclared : is = [⟨["at"], true⟩] := by
    cases hs
    cases his
    rfl
  refine ⟨s, docs, is, hs, hdocs, his, hread, hdeclared, ?_⟩
  exact hapart (hdeclared ▸ List.mem_cons_self) rfl

end Samples

end PersistentStore

end QuerySets
