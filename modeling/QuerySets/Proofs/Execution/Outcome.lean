import QuerySets.Engine
import QuerySets.Proofs.Execution.Steps

/-!
What an execution comes to. The outcome of each query is that of running it in the
session that the query before it left. The first failure of a query that does not let
the set continue is the failure of the execution; without one the result holds what
the queries after the last failure returned.
-/

namespace QuerySets

/-- A query of a set with what came of it. -/
structure QueryOutcome where
  query : Query
  result : Except RunFailure (Option QueryResult)

namespace QueryOutcome

/-- An outcome that takes the results before it with it. -/
def Fails (o : QueryOutcome) : Prop := ∃ f, o.result = .error f

/-- An outcome that ends the execution. -/
def Stops (o : QueryOutcome) : Prop := o.query.continues = false ∧ o.Fails

def returned (o : QueryOutcome) : Option QueryResult := o.result.toOption.join

/-- The results at hand once an outcome that does not stop has come to them. -/
def add (results : List QueryResult) (o : QueryOutcome) : List QueryResult :=
  match o.result with
  | .ok found => results ++ found.toList
  | .error _ => []

theorem continues_of_not_stops {q : Query} {f : RunFailure}
    (h : ¬ (QueryOutcome.mk q (.error f)).Stops) : q.continues = true := by
  cases hq : q.continues with
  | false => exact absurd ⟨hq, f, rfl⟩ h
  | true => rfl

theorem add_of_fails {o : QueryOutcome} (h : o.Fails) (results : List QueryResult) :
    add results o = [] := by
  obtain ⟨f, hf⟩ := h
  simp only [add, hf]

theorem add_of_not_fails {o : QueryOutcome} (h : ¬ o.Fails) (results : List QueryResult) :
    add results o = results ++ o.returned.toList := by
  cases hresult : o.result with
  | ok found =>
    simp only [add, returned, hresult]
    rfl
  | error f => exact absurd ⟨f, hresult⟩ h

theorem foldl_add_of_not_fails {outcomes : List QueryOutcome} (h : ∀ o ∈ outcomes, ¬ o.Fails)
    (results : List QueryResult) :
    outcomes.foldl add results = results ++ outcomes.filterMap (·.returned) := by
  induction outcomes generalizing results with
  | nil => simp
  | cons o rest ih =>
    have hrest := ih fun p hp => h p (List.mem_cons_of_mem o hp)
    rw [List.foldl_cons, add_of_not_fails (h o List.mem_cons_self), hrest, List.filterMap_cons]
    cases o.returned <;> simp

/-- Outcomes that end with a failure, if there are any. -/
def EndInFailure (outcomes : List QueryOutcome) : Prop :=
  outcomes = [] ∨ ∃ earlier last, outcomes = earlier ++ [last] ∧ last.Fails

theorem EndInFailure.foldl_add {outcomes : List QueryOutcome} (h : EndInFailure outcomes) :
    outcomes.foldl add [] = [] := by
  rcases h with rfl | ⟨earlier, last, rfl, hfails⟩
  · rfl
  · rw [List.foldl_append, List.foldl_cons, add_of_fails hfails, List.foldl_nil]

theorem EndInFailure.cons {o : QueryOutcome} {outcomes : List QueryOutcome}
    (h : EndInFailure outcomes) (ho : o.Fails ∨ outcomes ≠ []) : EndInFailure (o :: outcomes) := by
  rcases h with rfl | ⟨earlier, last, rfl, hfails⟩
  · exact Or.inr ⟨[], o, rfl, ho.resolve_right fun hne => hne rfl⟩
  · exact Or.inr ⟨o :: earlier, last, rfl, hfails⟩

/-- All outcomes split after the last failure among them. -/
theorem exists_split (outcomes : List QueryOutcome) :
    ∃ before after, outcomes = before ++ after ∧ EndInFailure before ∧
      ∀ o ∈ after, ¬ o.Fails := by
  induction outcomes with
  | nil => exact ⟨[], [], rfl, Or.inl rfl, fun o ho => by cases ho⟩
  | cons first rest ih =>
    obtain ⟨before, after, rfl, hbefore, hafter⟩ := ih
    by_cases hfirst : first.Fails ∨ before ≠ []
    · exact ⟨first :: before, after, rfl, hbefore.cons hfirst, hafter⟩
    · obtain ⟨hfails, hempty⟩ := not_or.mp hfirst
      obtain rfl : before = [] := Classical.not_not.mp hempty
      refine ⟨[], first :: after, rfl, Or.inl rfl, ?_⟩
      intro o ho
      rcases List.mem_cons.mp ho with rfl | ho
      · exact hfails
      · exact hafter o ho

end QueryOutcome

namespace Session

/-- The outcomes of queries, each run in the session that the one before it left. -/
def outcomes (s : Session) (explain : Bool) : List Query → List QueryOutcome
  | [] => []
  | q :: rest =>
    ⟨q, (s.runQuery explain q).1⟩ :: outcomes (s.runQuery explain q).2 explain rest

/-- The session that queries leave when all of them are run. -/
def afterQueries (s : Session) (explain : Bool) (queries : List Query) : Session :=
  queries.foldl (fun s q => (s.runQuery explain q).2) s

variable {explain : Bool}

@[simp] theorem afterQueries_nil (s : Session) : s.afterQueries explain [] = s := rfl

@[simp] theorem afterQueries_cons (s : Session) (q : Query) (rest : List Query) :
    s.afterQueries explain (q :: rest) = (s.runQuery explain q).2.afterQueries explain rest := rfl

/-- A query that succeeds contributes a result exactly if it returns. -/
theorem runQuery_returns {s s' : Session} {q : Query} {found : Option QueryResult}
    (h : s.runQuery explain q = (.ok found, s')) : found.isSome = q.returns := by
  rcases runQuery_cases h with ⟨-, hfound, -⟩ | ⟨-, f, -, hfound⟩ |
      ⟨-, run, hreturns, -, hfound⟩ | ⟨-, run, ran, docs, hreturns, -, -, hfound⟩
  · cases hfound
  · cases hfound
  · cases hfound
    exact hreturns.symm
  · cases docs with
    | error f => cases hfound
    | ok docs =>
      cases hfound
      exact hreturns.symm

theorem returned_of_ok {s : Session} {queries : List Query} {o : QueryOutcome}
    (ho : o ∈ s.outcomes explain queries) {found : Option QueryResult}
    (hok : o.result = .ok found) : found.isSome = o.query.returns := by
  induction queries generalizing s with
  | nil => cases ho
  | cons q rest ih =>
    rcases List.mem_cons.mp ho with rfl | hrest
    · exact runQuery_returns (Prod.ext hok rfl)
    · exact ih hrest

/-- Of outcomes without a failure, those of the returning queries hold the results. -/
theorem filter_returns {s : Session} {queries : List Query} {outcomes : List QueryOutcome}
    (hafter : ∀ o ∈ outcomes, ¬ o.Fails)
    (hmem : ∀ o ∈ outcomes, o ∈ s.outcomes explain queries) :
    (outcomes.filter (·.query.returns)).map (·.result) =
      (outcomes.filterMap (·.returned)).map fun r => .ok (some r) := by
  induction outcomes with
  | nil => rfl
  | cons o rest ih =>
    have hrest := ih (fun p hp => hafter p (List.mem_cons_of_mem o hp))
      fun p hp => hmem p (List.mem_cons_of_mem o hp)
    cases hresult : o.result with
    | error f => exact absurd ⟨f, hresult⟩ (hafter o List.mem_cons_self)
    | ok found =>
      have hreturns := returned_of_ok (hmem o List.mem_cons_self) hresult
      have hreturned : o.returned = found := by
        simp only [QueryOutcome.returned, hresult]
        rfl
      cases found with
      | none =>
        have hskip : o.query.returns = false := hreturns.symm
        rw [List.filter_cons, hskip, List.filterMap_cons, hreturned]
        exact hrest
      | some result =>
        have htake : o.query.returns = true := hreturns.symm
        rw [List.filter_cons, htake, List.filterMap_cons, hreturned, if_pos rfl, List.map_cons,
          List.map_cons, hrest, hresult]

/-- What outcomes add up to is what the returning queries after the last failure returned. -/
theorem exists_results (s : Session) (explain : Bool) (queries : List Query) :
    ∃ before after, s.outcomes explain queries = before ++ after ∧
      QueryOutcome.EndInFailure before ∧ (∀ o ∈ after, ¬ o.Fails) ∧
      (after.filter (·.query.returns)).map (·.result) =
        ((s.outcomes explain queries).foldl QueryOutcome.add []).map fun r => .ok (some r) := by
  obtain ⟨before, after, hsplit, hbefore, hafter⟩ :=
    QueryOutcome.exists_split (s.outcomes explain queries)
  refine ⟨before, after, hsplit, hbefore, hafter, ?_⟩
  have hmem : ∀ o ∈ after, o ∈ s.outcomes explain queries :=
    fun o ho => hsplit ▸ List.mem_append_right before ho
  rw [filter_returns hafter hmem, hsplit, List.foldl_append, hbefore.foldl_add,
    QueryOutcome.foldl_add_of_not_fails hafter, List.nil_append]

theorem runQueries_cons_of_not_stops {s s' : Session} {q : Query}
    {result : Except RunFailure (Option QueryResult)} (hrun : s.runQuery explain q = (result, s'))
    (h : ¬ (QueryOutcome.mk q result).Stops) (results : List QueryResult) (rest : List Query) :
    s.runQueries explain results (q :: rest) =
      s'.runQueries explain (QueryOutcome.add results ⟨q, result⟩) rest := by
  cases result with
  | ok found => simp only [runQueries, hrun, QueryOutcome.add]
  | error f =>
    have hcontinues := QueryOutcome.continues_of_not_stops h
    simp only [runQueries, hrun, QueryOutcome.add, hcontinues, if_true]

/-- Without a stop, the results are those that the outcomes add up to. -/
theorem runQueries_of_no_stop {s : Session} {queries : List Query}
    (h : ∀ o ∈ s.outcomes explain queries, ¬ o.Stops) (results : List QueryResult) :
    s.runQueries explain results queries =
      (.ok ((s.outcomes explain queries).foldl QueryOutcome.add results),
        s.afterQueries explain queries) := by
  induction queries generalizing s results with
  | nil => rfl
  | cons q rest ih =>
    have hrest := ih fun o ho => h o (List.mem_cons_of_mem _ ho)
    have hrun : s.runQuery explain q = ((s.runQuery explain q).1, (s.runQuery explain q).2) := rfl
    rw [runQueries_cons_of_not_stops hrun (h _ List.mem_cons_self), hrest, outcomes,
      List.foldl_cons, afterQueries_cons]

/-- The first outcome that stops is the failure of the queries, and nothing after it is
run. -/
theorem runQueries_of_stop {s : Session} {queries : List Query}
    (h : ∃ o ∈ s.outcomes explain queries, o.Stops) (results : List QueryResult) :
    ∃ before q after f, queries = before ++ q :: after ∧
      (∀ o ∈ s.outcomes explain before, ¬ o.Stops) ∧ q.continues = false ∧
      ((s.afterQueries explain before).runQuery explain q).1 = .error f ∧
      s.runQueries explain results queries =
        (.error f.toSetFailure, s.afterQueries explain (before ++ [q])) := by
  induction queries generalizing s results with
  | nil =>
    obtain ⟨o, ho, -⟩ := h
    cases ho
  | cons q rest ih =>
    cases hrun : s.runQuery explain q with
    | mk result s₁ =>
      by_cases hstops : (QueryOutcome.mk q result).Stops
      · obtain ⟨hcontinues, f, hresult⟩ := hstops
        simp only at hcontinues hresult
        subst hresult
        refine ⟨[], q, rest, f, rfl, ?_, hcontinues, congrArg Prod.fst hrun, ?_⟩
        · intro o ho
          cases ho
        · simp only [runQueries, hrun, hcontinues, Bool.false_eq_true, if_false, List.nil_append,
            afterQueries_cons, afterQueries_nil]
      · have hrest : ∃ o ∈ s₁.outcomes explain rest, o.Stops := by
          obtain ⟨o, ho, hostops⟩ := h
          simp only [outcomes, hrun] at ho
          rcases List.mem_cons.mp ho with rfl | ho
          · exact absurd hostops hstops
          · exact ⟨o, ho, hostops⟩
        obtain ⟨before, p, after, f, hsplit, hbefore, hp, hf, hruns⟩ := ih hrest _
        refine ⟨q :: before, p, after, f, congrArg (q :: ·) hsplit, ?_, hp, ?_, ?_⟩
        · intro o ho
          simp only [outcomes, hrun] at ho
          rcases List.mem_cons.mp ho with rfl | ho
          · exact hstops
          · exact hbefore o ho
        · simpa only [afterQueries_cons, hrun] using hf
        · rw [runQueries_cons_of_not_stops hrun hstops, hruns, List.cons_append,
            afterQueries_cons, hrun]

end Session

namespace Engine

/-- The session in which an execution starts: the set can be run, and its parameters are
reconciled with the variables. -/
structure Starts (e : Engine) (watch : Time.Watch) (set : QuerySet) (vars : Variables)
    (s : Session) : Prop where
  enabled : set.enabled = true
  queries : set.queries ≠ []
  reconciled : ∃ reconciled registry,
    vars.reconcile set.params e.registry = (.ok reconciled, registry) ∧
      s = ⟨e.store, registry, reconciled, Bag.empty, watch⟩

/-- The session in which an execution comes to its queries, after the script before
them, if there is one. -/
def Reaches (e : Engine) (watch : Time.Watch) (set : QuerySet) (vars : Variables)
    (s : Session) : Prop :=
  ∃ start, e.Starts watch set vars start ∧
    start.runScript e.scriptCollection set.preScript = (.ok (), s)

variable {e : Engine} {watch : Time.Watch} {set : QuerySet} {vars : Variables} {s : Session}

theorem Starts.exec_eq (h : e.Starts watch set vars s) :
    e.exec watch set vars =
      ((s.runSet e.scriptCollection set).1, e.after (s.runSet e.scriptCollection set).2) := by
  obtain ⟨reconciled, registry, hreconcile, rfl⟩ := h.reconciled
  have hqueries : set.queries.isEmpty = false := by
    simpa using h.queries
  simp only [exec, h.enabled, hqueries, Bool.not_true, Bool.false_eq_true, if_false, hreconcile]

theorem Reaches.exec_eq (h : e.Reaches watch set vars s) :
    e.exec watch set vars =
      match s.runQueries set.explain [] set.queries with
      | (.error f, s) => (.error f, e.after s)
      | (.ok results, s) =>
        let (result, s) := s.runScript e.scriptCollection set.postScript
        (result.map fun _ => results, e.after s) := by
  obtain ⟨start, hstart, hscript⟩ := h
  rw [hstart.exec_eq]
  simp only [Session.runSet, hscript]
  cases s.runQueries set.explain [] set.queries with
  | mk result s' => cases result <;> rfl

theorem exists_starts (h : (e.exec watch set vars).1.isOk) : ∃ s, e.Starts watch set vars s := by
  unfold exec at h
  cases henabled : set.enabled with
  | false => simp [henabled, failed, Except.isOk, Except.toBool] at h
  | true =>
    cases hqueries : set.queries.isEmpty with
    | true => simp [henabled, hqueries, failed, Except.isOk, Except.toBool] at h
    | false =>
      simp only [henabled, hqueries, Bool.not_true, Bool.false_eq_true, if_false] at h
      cases hreconcile : vars.reconcile set.params e.registry with
      | mk reconciled registry =>
        cases reconciled with
        | error error =>
          rw [hreconcile] at h
          cases h
        | ok reconciled =>
          have hne : set.queries ≠ [] := by
            intro hnil
            simp [hnil] at hqueries
          exact ⟨_, henabled, hne, reconciled, registry, hreconcile, rfl⟩

theorem exists_reaches (h : (e.exec watch set vars).1.isOk) : ∃ s, e.Reaches watch set vars s := by
  obtain ⟨start, hstart⟩ := exists_starts h
  rw [hstart.exec_eq] at h
  cases hscript : start.runScript e.scriptCollection set.preScript with
  | mk result s =>
    cases result with
    | error f =>
      simp only [Session.runSet, hscript] at h
      cases h
    | ok _ => exact ⟨s, start, hstart, hscript⟩

/-- What an execution that succeeds has come through, and what it returns. -/
theorem exec_ok {results : List QueryResult} (h : (e.exec watch set vars).1 = .ok results) :
    ∃ s, e.Reaches watch set vars s ∧
      ∃ before after, s.outcomes set.explain set.queries = before ++ after ∧
        QueryOutcome.EndInFailure before ∧ (∀ o ∈ after, ¬ o.Fails) ∧
        (after.filter (·.query.returns)).map (·.result) = results.map fun r => .ok (some r) := by
  have hok : (e.exec watch set vars).1.isOk := by
    rw [h]
    rfl
  obtain ⟨s, hreaches⟩ := exists_reaches hok
  refine ⟨s, hreaches, ?_⟩
  rw [hreaches.exec_eq] at h
  by_cases hstop : ∃ o ∈ s.outcomes set.explain set.queries, o.Stops
  · obtain ⟨before, q, after, f, -, -, -, -, hruns⟩ := Session.runQueries_of_stop hstop []
    rw [hruns] at h
    cases h
  · have hnone : ∀ o ∈ s.outcomes set.explain set.queries, ¬ o.Stops :=
      fun o ho hstops => hstop ⟨o, ho, hstops⟩
    obtain ⟨before, after, hsplit, hbefore, hafter, hresults⟩ :=
      s.exists_results set.explain set.queries
    refine ⟨before, after, hsplit, hbefore, hafter, ?_⟩
    rw [Session.runQueries_of_no_stop hnone []] at h
    cases hscript : ((s.afterQueries set.explain set.queries).runScript e.scriptCollection
        set.postScript).1 with
    | error f =>
      simp only [hscript] at h
      cases h
    | ok _ =>
      simp only [hscript] at h
      cases h
      exact hresults

/-- The outcome of an execution. The first failure of a query that does not let the
set continue is its failure, and the store is left as that query left it. Otherwise the
script after the queries decides, and the result holds what the returning queries after
the last failure returned. -/
theorem exec_outcome (h : e.Reaches watch set vars s) :
    ((∃ o ∈ s.outcomes set.explain set.queries, o.Stops) →
      ∃ before q after f, set.queries = before ++ q :: after ∧
        (∀ o ∈ s.outcomes set.explain before, ¬ o.Stops) ∧ q.continues = false ∧
        ((s.afterQueries set.explain before).runQuery set.explain q).1 = .error f ∧
        e.exec watch set vars = (.error ⟨some f.commands, f.error⟩,
          e.after (s.afterQueries set.explain (before ++ [q])))) ∧
    ((∀ o ∈ s.outcomes set.explain set.queries, ¬ o.Stops) →
      ∀ result last, (s.afterQueries set.explain set.queries).runScript e.scriptCollection
          set.postScript = (result, last) →
        (∀ f, result = .error f → e.exec watch set vars = (.error f, e.after last)) ∧
        (result = .ok () → ∃ before after results,
          s.outcomes set.explain set.queries = before ++ after ∧
          QueryOutcome.EndInFailure before ∧ (∀ o ∈ after, ¬ o.Fails) ∧
          (after.filter (·.query.returns)).map (·.result) = results.map (fun r => .ok (some r)) ∧
          e.exec watch set vars = (.ok results, e.after last))) := by
  refine ⟨?_, ?_⟩
  · intro hstop
    obtain ⟨before, q, after, f, hsplit, hbefore, hq, hf, hruns⟩ :=
      Session.runQueries_of_stop hstop []
    refine ⟨before, q, after, f, hsplit, hbefore, hq, hf, ?_⟩
    rw [h.exec_eq, hruns]
    rfl
  · intro hnone result last hscript
    have hexec : e.exec watch set vars = (result.map fun _ =>
        (s.outcomes set.explain set.queries).foldl QueryOutcome.add [], e.after last) := by
      rw [h.exec_eq, Session.runQueries_of_no_stop hnone []]
      simp only [hscript]
    refine ⟨?_, ?_⟩
    · intro f hf
      rw [hexec, hf]
      rfl
    · intro hok
      obtain ⟨before, after, hsplit, hbefore, hafter, hresults⟩ :=
        s.exists_results set.explain set.queries
      refine ⟨before, after, _, hsplit, hbefore, hafter, hresults, ?_⟩
      rw [hexec, hok]
      rfl

/-- Two orders in memory, and nothing defined yet. -/
def sample : Engine :=
  ⟨.memory ⟨⟨[("orders", ⟨[⟨[("total", .int 3)]⟩, ⟨[("total", .int 5)]⟩], []⟩)]⟩⟩,
    .inMemory .disabled, "scripts"⟩

/-- A query that fails and lets the set continue, and one that returns all orders. -/
def sampleSet : QuerySet :=
  ⟨"sample", "", true, false, "", "", [],
    [⟨"broken", "", "lookup", "orders", true, true, [], []⟩,
      ⟨"all", "", "pipeline", "orders", true, false, [], []⟩]⟩

def sampleSession : Session :=
  ⟨sample.store, sample.registry, Fields.empty, Bag.empty, .stopped ⟨0, 0⟩⟩

theorem reaches_sample : sample.Reaches (.stopped ⟨0, 0⟩) sampleSet Fields.empty sampleSession :=
  ⟨sampleSession, ⟨rfl, List.cons_ne_nil _ _, Fields.empty, sample.registry, rfl, rfl⟩, rfl⟩

theorem sample_no_stop :
    ∀ o ∈ sampleSession.outcomes sampleSet.explain sampleSet.queries, ¬ o.Stops := by
  intro o ho
  rcases List.mem_cons.mp ho with rfl | ho
  · rintro ⟨hcontinues, -⟩
    cases hcontinues
  · obtain rfl := List.mem_singleton.mp ho
    rintro ⟨-, f, hf⟩
    cases hf

theorem exec_outcome_sample :
    sample.Reaches (.stopped ⟨0, 0⟩) sampleSet Fields.empty sampleSession ∧
      ∃ before after results,
        sampleSession.outcomes sampleSet.explain sampleSet.queries = before ++ after ∧
        QueryOutcome.EndInFailure before ∧ (∀ o ∈ after, ¬ o.Fails) ∧
        (after.filter (·.query.returns)).map (·.result) = results.map (fun r => .ok (some r)) ∧
        sample.exec (.stopped ⟨0, 0⟩) sampleSet Fields.empty = (.ok results, sample) := by
  have hscript : (sampleSession.afterQueries sampleSet.explain sampleSet.queries).runScript
      sample.scriptCollection sampleSet.postScript = (.ok (), sampleSession) := rfl
  obtain ⟨-, hexec⟩ := exec_outcome reaches_sample
  obtain ⟨-, hok⟩ := hexec sample_no_stop (.ok ()) sampleSession hscript
  exact ⟨reaches_sample, hok rfl⟩

end Engine

end QuerySets
