import QuerySets.Execution.Session

/-!
The steps of an execution taken apart: what a run of a pipeline can come to, and what a
query can. Everything else about executions is derived from these cases.
-/

namespace QuerySets.Session

variable {s s' : Session}

/-- A run fails in its templates, only explains, fails in the store, or succeeds; it
saves in the last case alone. -/
theorem run_cases {j : Job} {result : Except RunFailure Run} (h : s.run j = (result, s')) :
    (∃ e, s.scope.renderAll j.stages = .error e ∧ result = .error ⟨.template e, j.stages⟩ ∧
      s' = s.looked) ∨
    (∃ rendered, s.scope.renderAll j.stages = .ok rendered ∧ j.explain = true ∧
      result = (j.explained s.store (commandsOf rendered)).mapError
        (fun e => ⟨.store e, commandsOf rendered⟩) ∧ s' = s.looked) ∨
    (∃ rendered store e, s.scope.renderAll j.stages = .ok rendered ∧ j.explain = false ∧
      j.aggregated s.store (commandsOf rendered) = (.error e, store) ∧
      result = .error ⟨.store e, commandsOf rendered⟩ ∧ s' = { s.looked with store }) ∨
    (∃ rendered store run, s.scope.renderAll j.stages = .ok rendered ∧ j.explain = false ∧
      j.aggregated s.store (commandsOf rendered) = (.ok run, store) ∧ result = .ok run ∧
      s' = { s.looked with store, bag := Job.saved rendered run s.bag }) := by
  simp only [run, Job.run] at h
  cases hrender : s.scope.renderAll j.stages with
  | error e =>
    rw [hrender] at h
    cases h
    exact Or.inl ⟨e, rfl, rfl, rfl⟩
  | ok rendered =>
    rw [hrender] at h
    cases hexplain : j.explain with
    | true =>
      simp only [hexplain, if_true] at h
      cases h
      exact Or.inr (Or.inl ⟨rendered, rfl, rfl, rfl, rfl⟩)
    | false =>
      simp only [hexplain, Bool.false_eq_true, if_false] at h
      cases hran : j.aggregated s.store (commandsOf rendered) with
      | mk ran store =>
        rw [hran] at h
        cases ran with
        | error e =>
          cases h
          exact Or.inr (Or.inr (Or.inl ⟨rendered, store, e, rfl, rfl, hran, rfl, rfl⟩))
        | ok run =>
          cases h
          exact Or.inr (Or.inr (Or.inr ⟨rendered, store, run, rfl, rfl, hran, rfl, rfl⟩))

theorem registry_run (s : Session) (j : Job) : (s.run j).2.registry = s.registry := rfl

/-- What is not explained by the store is data. -/
theorem explained_of_aggregated {j : Job} {store store' : Store} {commands : List Document}
    {run : Run} (h : j.aggregated store commands = (.ok run, store')) : run.explained = false := by
  unfold Job.aggregated at h
  cases hindexes : store.ensureIndexes j.collection j.indexes with
  | mk result indexed =>
    rw [hindexes] at h
    cases result with
    | error e => cases h
    | ok _ =>
      cases hdocs : indexed.aggregate j.collection commands with
      | error e => simp [hdocs, Except.map] at h
      | ok docs =>
        simp only [hdocs, Except.map, Prod.mk.injEq, Except.ok.injEq] at h
        rw [← h.1]

theorem explained_of_run {j : Job} {run : Run} (hexplain : j.explain = false)
    (h : s.run j = (.ok run, s')) : run.explained = false := by
  rcases run_cases h with ⟨e, -, hresult, -⟩ | ⟨rendered, -, hexplained, -⟩ |
      ⟨rendered, store, e, -, -, -, hresult, -⟩ | ⟨rendered, store, ran, -, -, hran, hresult, -⟩
  · cases hresult
  · rw [hexplain] at hexplained
    cases hexplained
  · cases hresult
  · cases hresult
    exact explained_of_aggregated hran

variable {explain : Bool} {q : Query}

/-- A query is of no known type, fails in its run, returns nothing, or returns the masked
documents of its run, unless masking fails. -/
theorem runQuery_cases {result : Except RunFailure (Option QueryResult)}
    (h : s.runQuery explain q = (result, s')) :
    (q.isPipeline = false ∧ result = .error ⟨.unsupportedType q.name q.type, q.commands⟩ ∧
      s' = s) ∨
    (q.isPipeline = true ∧ ∃ f, s.run (job explain q) = (.error f, s') ∧ result = .error f) ∨
    (q.isPipeline = true ∧ ∃ run, q.returns = false ∧
      s.run (job explain q) = (.ok run, s') ∧ result = .ok none) ∨
    (q.isPipeline = true ∧ ∃ run ran docs, q.returns = true ∧
      s.run (job explain q) = (.ok run, ran) ∧ ran.masked q.collection run = (docs, s') ∧
      result = docs.map fun docs => some ⟨q.name, docs⟩) := by
  unfold runQuery at h
  cases htype : q.isPipeline with
  | false =>
    simp only [htype, Bool.not_false, if_true] at h
    cases h
    exact Or.inl ⟨rfl, rfl, rfl⟩
  | true =>
    simp only [htype, Bool.not_true, Bool.false_eq_true, if_false] at h
    cases hrun : s.run (job explain q) with
    | mk ran after =>
      rw [hrun] at h
      cases ran with
      | error f =>
        cases h
        exact Or.inr (Or.inl ⟨rfl, f, rfl, rfl⟩)
      | ok run =>
        cases hreturns : q.returns with
        | false =>
          simp only [hreturns, Bool.not_false, if_true] at h
          cases h
          exact Or.inr (Or.inr (Or.inl ⟨rfl, run, rfl, rfl, rfl⟩))
        | true =>
          simp only [hreturns, Bool.not_true, Bool.false_eq_true, if_false] at h
          cases h
          exact Or.inr (Or.inr (Or.inr ⟨rfl, run, after, _, rfl, rfl, rfl, rfl⟩))

/-- Masking touches neither the store nor the scope. -/
theorem masked_cases {collection : String} {run : Run} {docs : Except RunFailure (List Document)}
    (h : s.masked collection run = (docs, s')) :
    (run.explained = true ∧ docs = .ok run.docs ∧ s' = s) ∨
    (run.explained = false ∧ ∃ e registry, s.registry.fieldMasks collection = (.error e, registry) ∧
      docs = .error ⟨.definition e, run.commands⟩ ∧ s' = { s with registry }) ∨
    (run.explained = false ∧ ∃ masks registry,
      s.registry.fieldMasks collection = (.ok masks, registry) ∧
      docs = (masks.apply run.docs).mapError (fun fault => ⟨.masking fault, run.commands⟩) ∧
      s' = { s with registry }) := by
  unfold masked at h
  cases hexplained : run.explained with
  | true =>
    simp only [hexplained, if_true] at h
    cases h
    exact Or.inl ⟨rfl, rfl, rfl⟩
  | false =>
    simp only [hexplained, Bool.false_eq_true, if_false] at h
    cases hread : s.registry.fieldMasks collection with
    | mk masks registry =>
      rw [hread] at h
      cases masks with
      | error e =>
        cases h
        exact Or.inr (Or.inl ⟨rfl, e, registry, rfl, rfl, rfl⟩)
      | ok masks =>
        cases h
        exact Or.inr (Or.inr ⟨rfl, masks, registry, rfl, rfl, rfl⟩)

/-- A query leaves the scope as its run leaves it, whatever becomes of the documents. -/
theorem scope_runQuery {result : Except RunFailure (Option QueryResult)}
    (h : s.runQuery explain q = (result, s')) :
    s'.scope = if q.isPipeline then (s.run (job explain q)).2.scope else s.scope := by
  rcases runQuery_cases h with ⟨htype, -, hs⟩ | ⟨htype, f, hrun, -⟩ | ⟨htype, run, -, hrun, -⟩ |
      ⟨htype, run, ran, docs, -, hrun, hmasked, -⟩
  · rw [hs, htype, if_neg Bool.false_ne_true]
  · rw [hrun, htype, if_pos rfl]
  · rw [hrun, htype, if_pos rfl]
  · have hscope : s'.scope = ran.scope := by
      rcases masked_cases hmasked with ⟨-, -, rfl⟩ | ⟨-, e, registry, -, -, rfl⟩ |
          ⟨-, masks, registry, -, -, rfl⟩
      all_goals rfl
    rw [hscope, hrun, htype, if_pos rfl]

end QuerySets.Session
