import QuerySets.Proofs.Definition.MaskTable
import QuerySets.Proofs.Execution.Masking
import QuerySets.Proofs.Execution.Reads

/-!
Results of an execution under the masks in force. What an execution reads of the
registry leaves it in line with the table of masks, so that each query masks its
documents with the types that the writes before the execution have put in force.
-/

namespace QuerySets

open Mask (Table)

/-- A document of a collection that masking with the types in force leaves as it is,
and in which no field that is to be removed stands at any depth. -/
structure Guarded (table : Table) (collection : String) (d : Document) : Prop where
  fixed : ∃ masks : FieldMasks, (∀ field, masks.get? field = table.effective collection field) ∧
    masks.apply [d] = .ok [d]
  clean : ∀ node, (Value.document d).HasNode node →
    ∀ key ∈ node.keys, table.effective collection key ≠ some .remove

theorem guarded_of_apply {table : Table} {collection : String} {masks : FieldMasks}
    (htypes : ∀ field, masks.get? field = table.effective collection field)
    {docs out : List Document} (h : masks.apply docs = .ok out) :
    ∀ d ∈ out, Guarded table collection d := by
  intro d hd
  have hguards := FieldMasks.guards_of_apply h d hd
  refine ⟨⟨masks, htypes, hguards.fixed⟩, ?_⟩
  intro node hnode key hkey
  rw [← htypes key]
  exact hguards.clean node hnode key hkey

/-- Reading definitions leaves the registry in line with the masks in force. -/
theorem Registry.Reads.reflects {r r' : Registry} (h : r.Reads r') {table : Table}
    (hr : r.Reflects table) : r'.Reflects table := by
  induction h with
  | none => exact hr
  | pattern _ _ ih => exact ih.congr rfl
  | script _ _ ih => exact ih.congr rfl
  | fieldMasks _ collection ih => exact ih.fieldMasks collection

namespace Session

variable {s : Session} {table : Table}

theorem guarded_of_masked (h : s.registry.Reflects table) {s' : Session} {collection : String}
    {run : Run} (hdata : run.explained = false) {docs : List Document}
    (hmasked : s.masked collection run = (.ok docs, s')) :
    ∀ d ∈ docs, Guarded table collection d := by
  rcases masked_cases hmasked with ⟨hexplained, -⟩ | ⟨-, e, registry, -, hdocs, -⟩ |
      ⟨-, masks, registry, hread, hdocs, -⟩
  · rw [hdata] at hexplained
    cases hexplained
  · cases hdocs
  · have htypes := h.of_fieldMasks (congrArg Prod.fst hread)
    cases happly : masks.apply run.docs with
    | error fault =>
      rw [happly] at hdocs
      cases hdocs
    | ok out =>
      rw [happly] at hdocs
      cases hdocs
      exact guarded_of_apply htypes happly

/-- What a query returns without explaining it has been masked. -/
theorem guarded_of_runQuery (h : s.registry.Reflects table) {s' : Session} {q : Query}
    {result : QueryResult} (hquery : s.runQuery false q = (.ok (some result), s')) :
    ∀ d ∈ result.docs, Guarded table q.collection d := by
  rcases runQuery_cases hquery with ⟨-, hfound, -⟩ | ⟨-, f, -, hfound⟩ | ⟨-, run, -, -, hfound⟩ |
      ⟨-, run, ran, docs, -, hrun, hmasked, hfound⟩
  · cases hfound
  · cases hfound
  · cases hfound
  · cases docs with
    | error f => cases hfound
    | ok docs =>
      cases hfound
      exact guarded_of_masked ((reads_run hrun).reflects h) (explained_of_run rfl hrun) hmasked

/-- Every outcome of an execution that is not explained is guarded for its collection. -/
theorem guarded_of_outcomes (h : s.registry.Reflects table) {queries : List Query}
    {o : QueryOutcome} (ho : o ∈ s.outcomes false queries) {result : QueryResult}
    (hresult : o.result = .ok (some result)) :
    ∀ d ∈ result.docs, Guarded table o.query.collection d := by
  induction queries generalizing s with
  | nil => cases ho
  | cons q rest ih =>
    rcases List.mem_cons.mp ho with rfl | hrest
    · exact guarded_of_runQuery h (Prod.ext hresult rfl)
    · exact ih ((reads_runQuery (s := s) rfl).reflects h) hrest

end Session

namespace Engine

variable {e : Engine} {watch : Time.Watch} {set : QuerySet} {vars : Variables} {s : Session}
  {table : Table}

theorem Reaches.reflects (h : e.Reaches watch set vars s) (hregistry : e.registry.Reflects table) :
    s.registry.Reflects table := by
  obtain ⟨start, hstart, hscript⟩ := h
  have hran := start.reads_runScript e.scriptCollection set.preScript
  rw [hscript] at hran
  exact (hstart.reads.trans hran).reflects hregistry

/-- What a successful execution returns, whatever masks were written in whatever order
before it: the results are those of returning queries, and every document that comes of a
query is guarded by the masks in force for the collection of the query. -/
theorem exec_guarded {start : Registry}
    (hstart : ∃ config, start = .inMemory config ∨ start = .persistent config)
    (requests : List Registry.Request) (store : Store) (scriptCollection : String)
    (watch : Time.Watch) (vars : Variables) {set : QuerySet} (hexplain : set.explain = false)
    {results : List QueryResult}
    (h : ((Engine.mk store (start.answers requests).2 scriptCollection).exec watch set vars).1 =
      .ok results) :
    ∃ s before after,
      (Engine.mk store (start.answers requests).2 scriptCollection).Reaches watch set vars s ∧
      s.outcomes false set.queries = before ++ after ∧
      (after.filter (·.query.returns)).map (·.result) = results.map (fun r => .ok (some r)) ∧
      ∀ o ∈ after, ∀ result, o.result = .ok (some result) → ∀ d ∈ result.docs,
        Guarded (Registry.Request.maskTable requests) o.query.collection d := by
  obtain ⟨s, hreaches, before, after, hsplit, -, -, hresults⟩ := exec_ok h
  have hempty : start.Reflects Table.empty := by
    obtain ⟨config, rfl | rfl⟩ := hstart
    · exact Registry.reflects_inMemory config
    · exact Registry.reflects_persistent config
  have hregistry := hreaches.reflects (hempty.answers requests)
  rw [hexplain] at hsplit
  refine ⟨s, before, after, hreaches, hsplit, hresults, ?_⟩
  intro o ho result hresult
  have hmem : o ∈ s.outcomes false set.queries := hsplit ▸ List.mem_append_right before ho
  exact Session.guarded_of_outcomes hregistry hmem hresult

/-- The totals of orders are obscured, and then those of everything are removed. -/
def sampleMasks : List Registry.Request :=
  [.masks (.upsert ⟨"orders", "total", .all⟩), .fieldMasks "orders",
    .masks (.upsert ⟨"*", "total", .remove⟩)]

/-- The sample with masks, which were read once between the two writes. -/
def maskedSample : Engine :=
  ⟨sample.store, ((Registry.inMemory ⟨4, 60⟩).answers sampleMasks).2, "scripts"⟩

theorem exec_guarded_sample :
    (maskedSample.exec (.stopped ⟨0, 0⟩) sampleSet Fields.empty).1 =
        .ok [⟨"all", [⟨[("total", .int 0)]⟩, ⟨[("total", .int 0)]⟩]⟩] ∧
      ∃ s before after, maskedSample.Reaches (.stopped ⟨0, 0⟩) sampleSet Fields.empty s ∧
        s.outcomes false sampleSet.queries = before ++ after ∧
        (after.filter (·.query.returns)).map (·.result) =
          [.ok (some ⟨"all", [⟨[("total", .int 0)]⟩, ⟨[("total", .int 0)]⟩]⟩)] ∧
        ∀ o ∈ after, ∀ result, o.result = .ok (some result) → ∀ d ∈ result.docs,
          Guarded (Registry.Request.maskTable sampleMasks) o.query.collection d := by
  have hexec : (maskedSample.exec (.stopped ⟨0, 0⟩) sampleSet Fields.empty).1 =
      .ok [⟨"all", [⟨[("total", .int 0)]⟩, ⟨[("total", .int 0)]⟩]⟩] := rfl
  exact ⟨hexec, exec_guarded ⟨⟨4, 60⟩, Or.inl rfl⟩ sampleMasks sample.store "scripts"
    (.stopped ⟨0, 0⟩) Fields.empty rfl hexec⟩

end Engine

end QuerySets
