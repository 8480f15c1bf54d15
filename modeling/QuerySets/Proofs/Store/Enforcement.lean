import QuerySets.Proofs.Store.Memory

/-!
Unique indexes in force. An index that has been declared stays with its collection until
the collection is dropped, so a unique one keeps apart the documents of every later state.
But an index is known by its name alone, and one whose name is taken is accepted without
being declared. So what an accepted unique index promises holds where the indexes of its
name are unique and on the same fields, and not where one of them is not.
-/

namespace QuerySets

/-- The key of a document depends on the fields alone, not on their directions. -/
theorem Index.keyOf_congr {i j : Index} (h : j.fields = i.fields) (d : Document) :
    j.keyOf d = i.keyOf d := by
  unfold keyOf
  rw [h]

namespace MemoryStore

variable {s s' : MemoryStore} {name : String}

/-- A unique index is in force on a collection if one with its fields is declared there. -/
def InForce (s : MemoryStore) (name : String) (i : Index) : Prop :=
  ∃ j ∈ s.indexes name, j.unique = true ∧ j.fields = i.fields

theorem InForce.mono {i : Index} (h : s.InForce name i)
    (hkept : ∀ j ∈ s.indexes name, j ∈ s'.indexes name) : s'.InForce name i := by
  obtain ⟨j, hj, hunique, hfields⟩ := h
  exact ⟨j, hkept j hj, hunique, hfields⟩

/-- A unique index that is accepted is in force, unless its name was taken by another one. -/
theorem inForce_of_ensureIndex {i : Index} (hunique : i.unique = true)
    (h : s.ensureIndex name i = .ok s')
    (hnamed : ∀ j ∈ s.indexes name, j.name = i.name → j.unique = true ∧ j.fields = i.fields) :
    s'.InForce name i := by
  rcases eq_or_put_of_ensureIndex h with ⟨hknown, rfl⟩ | ⟨-, -, rfl⟩
  · obtain ⟨j, hj, hname⟩ := List.any_eq_true.mp hknown
    exact ⟨j, hj, hnamed j hj (beq_iff_eq.mp hname)⟩
  · refine ⟨i, ?_, hunique, rfl⟩
    rw [indexes_put, if_pos rfl]
    exact List.mem_append_right _ List.mem_cons_self

theorem Sound.apart_of_inForce (h : s.Sound) {i : Index} (hforce : s.InForce name i) :
    i.Apart (s.documents name) := by
  obtain ⟨j, hj, hunique, hfields⟩ := hforce
  have hapart := Index.apart_of_pairwise ((h.sound name).separated j hj hunique)
  intro m n d e hne hd he
  rw [← Index.keyOf_congr hfields, ← Index.keyOf_congr hfields]
  exact hapart m n d e hne hd he

section Runs

theorem mem_indexes_insert {ids ids' : IdSupply} {other : String} {docs : List Document}
    (h : s.insert ids other docs = .ok (s', ids')) {j : Index} (hj : j ∈ s.indexes name) :
    j ∈ s'.indexes name := by
  obtain ⟨-, rfl⟩ := put_of_insert h
  rw [indexes_put_documents]
  exact hj

theorem mem_indexes_ensureIndex {other : String} {i j : Index}
    (h : s.ensureIndex other i = .ok s') (hj : j ∈ s.indexes name) : j ∈ s'.indexes name := by
  rcases eq_or_put_of_ensureIndex h with ⟨-, rfl⟩ | ⟨-, -, rfl⟩
  · exact hj
  · rw [indexes_put]
    by_cases heq : other = name
    · rw [if_pos heq, heq]
      exact List.mem_append_left _ hj
    · rw [if_neg heq]
      exact hj

/-- Only dropping a collection takes an index away from it. -/
theorem Sound.mem_indexes_answer (h : s.Sound) {request : Store.Request}
    (hrequest : request ≠ .drop name) (hanswer : ((Store.memory s).answer request).2 = .memory s')
    {j : Index} (hj : j ∈ s.indexes name) : j ∈ s'.indexes name := by
  rcases Store.Kind.memory.answer_cases hanswer with rfl | ⟨ids, ids', other, docs, -, hinsert⟩ |
      ⟨other, i, -, hensure⟩ | ⟨other, hdrop, rfl⟩
  · exact hj
  · exact mem_indexes_insert hinsert hj
  · exact mem_indexes_ensureIndex hensure hj
  · have hne : other ≠ name := fun heq => hrequest (heq ▸ hdrop)
    rw [indexes, collection_drop h.distinct, if_neg hne]
    exact hj

/-- An index in force stays in force as long as its collection is not dropped. -/
theorem Sound.inForce_answers (h : s.Sound) {i : Index} (hforce : s.InForce name i)
    {requests : List Store.Request} (hkept : .drop name ∉ requests) :
    ∃ s', ((Store.memory s).answers requests).2 = .memory s' ∧ s'.Sound ∧ s'.InForce name i := by
  induction requests generalizing s with
  | nil => exact ⟨s, rfl, h, hforce⟩
  | cons request rest ih =>
    obtain ⟨hne, hrest⟩ := List.ne_and_not_mem_of_not_mem_cons hkept
    obtain ⟨after, hafter, hsound⟩ := h.answer request
    have hstays : after.InForce name i :=
      hforce.mono fun j hj => h.mem_indexes_answer hne.symm hafter hj
    obtain ⟨last, hlast, hend⟩ := ih hsound hstays hrest
    refine ⟨last, ?_, hend⟩
    simp only [Store.answers, hafter]
    exact hlast

/-- A unique index that was accepted keeps apart the documents of its collection in every
later state until the collection is dropped, if no index of its name had been declared
without being unique or on other fields. -/
theorem apart_of_ensureIndex {before : List Store.Request}
    (hbefore : ((Store.memory .empty).answers before).2 = .memory s) {i : Index}
    (hunique : i.unique = true) (haccepted : s.ensureIndex name i = .ok s')
    (hnamed : ∀ j ∈ s.indexes name, j.name = i.name → j.unique = true ∧ j.fields = i.fields)
    {after : List Store.Request} (hkept : .drop name ∉ after) :
    ∃ last, ((Store.memory s').answers after).2 = .memory last ∧
      i.Apart (last.documents name) := by
  obtain ⟨start, hstart, hsound⟩ := sound_empty.answers before
  rw [hbefore] at hstart
  cases hstart
  have hforce : s'.InForce name i := inForce_of_ensureIndex hunique haccepted hnamed
  obtain ⟨last, hlast, hend, hstays⟩ :=
    (hsound.ensureIndex haccepted).inForce_answers hforce hkept
  exact ⟨last, hlast, hend.apart_of_inForce hstays⟩

end Runs

section Samples

def sampleReading (id value : Int64) : Document := ⟨[("_id", .int id), ("a_1_b", .int value)]⟩

/-- An index on two fields, under the name that an index on `a_1_b` has too. -/
def sampleTaken : List Store.Request := [.ensureIndex "readings" ⟨["a", "b"], false⟩]

/-- The name of an index on one field may be taken by an index on two others. Then the unique
index is accepted, and two documents with the same key are too. -/
theorem accepted_without_force :
    ∃ s last, ((Store.memory .empty).answers sampleTaken).2 = .memory s ∧
      s.ensureIndex "readings" ⟨["a_1_b"], true⟩ = .ok s ∧
      ((Store.memory s).answers
        [.insert ⟨0, 0, 0⟩ "readings" [sampleReading 1 5, sampleReading 2 5]]).2 = .memory last ∧
      ¬ Index.Apart ⟨["a_1_b"], true⟩ (last.documents "readings") := by
  refine ⟨_, _, rfl, rfl, rfl, ?_⟩
  intro hapart
  have hequal : (Value.int 5).looseEq (.int 5) = true := rfl
  exact hapart 0 1 (sampleReading 1 5) (sampleReading 2 5) Nat.zero_ne_one rfl rfl
    (.cons hequal .nil)

/-- The index is declared with a sign that does not count, and two documents are there. -/
def sampleDeclared : List Store.Request :=
  [.ensureIndex "readings" ⟨["+a_1_b"], true⟩,
   .insert ⟨0, 0, 0⟩ "readings" [sampleReading 1 5, sampleReading 2 6]]

/-- A document that the index refuses, one that it does not, and another collection dropped. -/
def sampleLater : List Store.Request :=
  [.insert ⟨0, 0, 0⟩ "readings" [sampleReading 3 6],
   .insert ⟨0, 0, 0⟩ "readings" [sampleReading 4 7],
   .drop "others"]

theorem apart_of_ensureIndex_sample :
    ∃ s last, ((Store.memory .empty).answers sampleDeclared).2 = .memory s ∧
      s.indexes "readings" = [⟨["+a_1_b"], true⟩] ∧
      s.ensureIndex "readings" ⟨["a_1_b"], true⟩ = .ok s ∧
      .drop "readings" ∉ sampleLater ∧
      ((Store.memory s).answers sampleLater).2 = .memory last ∧
      last.documents "readings" = [sampleReading 1 5, sampleReading 2 6, sampleReading 4 7] ∧
      Index.Apart ⟨["a_1_b"], true⟩ (last.documents "readings") := by
  obtain ⟨s, hs⟩ : ∃ s, ((Store.memory .empty).answers sampleDeclared).2 = .memory s := ⟨_, rfl⟩
  have hindexes : s.indexes "readings" = [⟨["+a_1_b"], true⟩] := by
    cases hs
    rfl
  have haccepted : s.ensureIndex "readings" ⟨["a_1_b"], true⟩ = .ok s := by
    cases hs
    rfl
  have hnamed : ∀ j ∈ s.indexes "readings", j.name = Index.name ⟨["a_1_b"], true⟩ →
      j.unique = true ∧ j.fields = Index.fields ⟨["a_1_b"], true⟩ := by
    intro j hj _
    rw [hindexes, List.mem_singleton] at hj
    rw [hj]
    exact ⟨rfl, rfl⟩
  have hkept : .drop "readings" ∉ sampleLater := by
    simp [sampleLater]
  obtain ⟨last, hlast, hapart⟩ := apart_of_ensureIndex hs rfl haccepted hnamed hkept
  have hdocs : last.documents "readings" =
      [sampleReading 1 5, sampleReading 2 6, sampleReading 4 7] := by
    cases hs
    cases hlast
    rfl
  exact ⟨s, last, hs, hindexes, haccepted, hkept, hlast, hdocs, hapart⟩

end Samples

end MemoryStore

end QuerySets
