import QuerySets.Proofs.Execution.Outcome

/-!
What an execution does to the registry. It reads definitions and does nothing else: patterns
while the variables are checked, the scripts of a set, and the masks of the collections that
its queries return. Reading a definition only moves things about in a cache, so the
definitions and their histories stay as they are.
-/

namespace QuerySets

namespace Registry

/-- What becomes of a registry when definitions are read from it, one after the other. -/
inductive Reads (r : Registry) : Registry → Prop
  | none : Reads r r
  | pattern {r' : Registry} (h : Reads r r') (name : String) : Reads r (r'.pattern name).2
  | script {r' : Registry} (h : Reads r r') (name : String) : Reads r (r'.script name).2
  | fieldMasks {r' : Registry} (h : Reads r r') (collection : String) :
      Reads r (r'.fieldMasks collection).2

/-- The same definitions with the same histories, whatever the caches hold. -/
structure SameDefinitions (r r' : Registry) : Prop where
  sets : r'.sets = r.sets
  patterns : r'.patterns = r.patterns
  scripts : r'.scripts = r.scripts
  masks : r'.masks = r.masks

variable {r r' r'' : Registry}

theorem Reads.trans (h : r.Reads r') (h' : r'.Reads r'') : r.Reads r'' := by
  induction h' with
  | none => exact h
  | pattern _ name ih => exact ih.pattern name
  | script _ name ih => exact ih.script name
  | fieldMasks _ collection ih => exact ih.fieldMasks collection

theorem Reads.sameDefinitions (h : r.Reads r') : r.SameDefinitions r' := by
  induction h with
  | none => exact ⟨rfl, rfl, rfl, rfl⟩
  | pattern _ _ ih => exact ⟨ih.sets, ih.patterns, ih.scripts, ih.masks⟩
  | script _ _ ih => exact ⟨ih.sets, ih.patterns, ih.scripts, ih.masks⟩
  | fieldMasks _ _ ih => exact ⟨ih.sets, ih.patterns, ih.scripts, ih.masks⟩

end Registry

namespace Param

theorem reads_checkValue (p : Param) (value : String) (r : Registry) :
    r.Reads (p.checkValue value r).2 := by
  have hread : r.Reads (r.pattern p.pattern).2 := .pattern .none p.pattern
  unfold checkValue
  split
  · exact .none
  · cases hpattern : r.pattern p.pattern with
    | mk result after =>
      rw [hpattern] at hread
      cases result with
      | ok pattern => exact hread
      | error e => cases e <;> exact hread

theorem reads_check (p : Param) (vars : Variables) (r : Registry) :
    r.Reads (p.check vars r).2 := by
  unfold check
  cases vars.get? p.name with
  | none => exact .none
  | some value => exact p.reads_checkValue value r

end Param

theorem Variables.reads_reconcileFrom (faults : List ParameterFault) (vars : Variables)
    (r : Registry) (params : List Param) : r.Reads (vars.reconcileFrom faults r params).2 := by
  induction params generalizing faults vars r with
  | nil => exact .none
  | cons p rest ih =>
    have hcheck := p.reads_check (p.bind vars) r
    simp only [reconcileFrom]
    cases hchecked : p.check (p.bind vars) r with
    | mk result after =>
      rw [hchecked] at hcheck
      cases result with
      | error e => exact hcheck
      | ok found => exact hcheck.trans (ih _ _ _)

theorem Variables.reads_reconcile (vars : Variables) (params : List Param) (r : Registry) :
    r.Reads (vars.reconcile params r).2 :=
  Variables.reads_reconcileFrom [] vars r params

namespace Session

variable {s s' : Session} {explain : Bool} {q : Query}

theorem reads_run {j : Job} {result : Except RunFailure Run} (h : s.run j = (result, s')) :
    s.registry.Reads s'.registry := by
  have hregistry := registry_run s j
  rw [h] at hregistry
  rw [hregistry]
  exact .none

theorem reads_masked {collection : String} {run : Run} {docs : Except RunFailure (List Document)}
    (h : s.masked collection run = (docs, s')) : s.registry.Reads s'.registry := by
  have hread : s.registry.Reads (s.registry.fieldMasks collection).2 := .fieldMasks .none _
  rcases masked_cases h with ⟨-, -, rfl⟩ | ⟨-, e, registry, hmasks, -, rfl⟩ |
      ⟨-, masks, registry, hmasks, -, rfl⟩
  · exact .none
  · rw [hmasks] at hread
    exact hread
  · rw [hmasks] at hread
    exact hread

theorem reads_runQuery {result : Except RunFailure (Option QueryResult)}
    (h : s.runQuery explain q = (result, s')) : s.registry.Reads s'.registry := by
  rcases runQuery_cases h with ⟨-, -, rfl⟩ | ⟨-, f, hrun, -⟩ | ⟨-, run, -, hrun, -⟩ |
      ⟨-, run, ran, docs, -, hrun, hmasked, -⟩
  · exact .none
  · exact reads_run hrun
  · exact reads_run hrun
  · exact (reads_run hrun).trans (reads_masked hmasked)

theorem reads_runQueries (s : Session) (explain : Bool) (results : List QueryResult)
    (queries : List Query) :
    s.registry.Reads (s.runQueries explain results queries).2.registry := by
  induction queries generalizing s results with
  | nil => exact .none
  | cons q rest ih =>
    cases hquery : s.runQuery explain q with
    | mk result after =>
      have hstep := reads_runQuery hquery
      simp only [runQueries, hquery]
      cases result with
      | ok found => exact hstep.trans (ih after (results ++ found.toList))
      | error f =>
        cases hcontinues : q.continues with
        | true => exact hstep.trans (ih after [])
        | false => exact hstep

theorem reads_runScript (s : Session) (collection name : String) :
    s.registry.Reads (s.runScript collection name).2.registry := by
  have hread : s.registry.Reads (s.registry.script name).2 := .script .none name
  unfold runScript
  split
  · exact .none
  · cases hscript : s.registry.script name with
    | mk result registry =>
      rw [hscript] at hread
      cases result <;> exact hread

theorem reads_runSet (s : Session) (scriptCollection : String) (set : QuerySet) :
    s.registry.Reads (s.runSet scriptCollection set).2.registry := by
  have hpre := s.reads_runScript scriptCollection set.preScript
  unfold runSet
  cases hscript : s.runScript scriptCollection set.preScript with
  | mk result start =>
    rw [hscript] at hpre
    cases result with
    | error f => exact hpre
    | ok _ =>
      have hmain := hpre.trans (start.reads_runQueries set.explain [] set.queries)
      cases hqueries : start.runQueries set.explain [] set.queries with
      | mk results after =>
        rw [hqueries] at hmain
        have hpost := after.reads_runScript scriptCollection set.postScript
        cases results with
        | error f => simpa only [hqueries] using hmain
        | ok results => simpa only [hqueries] using hmain.trans hpost

end Session

namespace Engine

variable {e e' : Engine} {watch : Time.Watch} {set : QuerySet} {vars : Variables}

/-- An execution stops before it begins, stops at its parameters, or runs the set. -/
theorem exec_cases {result : SetResult} (h : e.exec watch set vars = (result, e')) :
    ((set.enabled = false ∨ set.queries = []) ∧ e' = e) ∨
    (∃ error registry, vars.reconcile set.params e.registry = (.error error, registry) ∧
      e' = { e with registry }) ∨
    ∃ s, e.Starts watch set vars s ∧ e' = e.after (s.runSet e.scriptCollection set).2 := by
  by_cases henabled : set.enabled = true
  · by_cases hqueries : set.queries = []
    · simp only [exec, henabled, hqueries, Bool.not_true, Bool.false_eq_true, if_false,
        List.isEmpty_nil, if_true] at h
      cases h
      exact Or.inl ⟨Or.inr hqueries, rfl⟩
    · cases hreconcile : vars.reconcile set.params e.registry with
      | mk reconciled registry =>
        cases reconciled with
        | error error =>
          have hsome : set.queries.isEmpty = false := by simpa using hqueries
          simp only [exec, henabled, hsome, Bool.not_true, Bool.false_eq_true, if_false,
            hreconcile] at h
          cases h
          exact Or.inr (Or.inl ⟨error, registry, rfl, rfl⟩)
        | ok reconciled =>
          have hstart : e.Starts watch set vars ⟨e.store, registry, reconciled, Bag.empty, watch⟩ :=
            ⟨henabled, hqueries, reconciled, registry, hreconcile, rfl⟩
          rw [hstart.exec_eq] at h
          cases h
          exact Or.inr (Or.inr ⟨_, hstart, rfl⟩)
  · have hdisabled : set.enabled = false := Bool.eq_false_iff.mpr henabled
    simp only [exec, hdisabled, Bool.not_false, if_true] at h
    cases h
    exact Or.inl ⟨Or.inl hdisabled, rfl⟩

theorem Starts.reads {s : Session} (h : e.Starts watch set vars s) :
    e.registry.Reads s.registry := by
  obtain ⟨_, registry, hreconcile, rfl⟩ := h.reconciled
  have hread := vars.reads_reconcile set.params e.registry
  rw [hreconcile] at hread
  exact hread

/-- Whatever an execution comes to, it reads definitions only. -/
theorem reads_exec {result : SetResult} (h : e.exec watch set vars = (result, e')) :
    e.registry.Reads e'.registry := by
  rcases exec_cases h with ⟨-, rfl⟩ | ⟨error, registry, hreconcile, rfl⟩ | ⟨s, hstart, rfl⟩
  · exact .none
  · have hread := vars.reads_reconcile set.params e.registry
    rw [hreconcile] at hread
    exact hread
  · exact hstart.reads.trans (s.reads_runSet e.scriptCollection set)

end Engine

end QuerySets
