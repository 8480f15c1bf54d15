import QuerySets.Proofs.Execution.Outcome
import QuerySets.Proofs.Store.Requests

/-!
Executions that only explain. An explained query renders its stages and asks the store for
the indexes of its collection. It declares nothing, saves nothing and has nothing masked, so
it leaves the session as it was but for the time, and no later query is rendered with stored
data. So all that an explanation can tell of a store is which indexes the store lists.
-/

namespace QuerySets

/-- A plan depends on the indexes of a store and not on its documents. -/
theorem Store.explain_congr {s t : Store} (h : ∀ name, s.indexes name = t.indexes name)
    (name : String) (stages : List Document) : s.explain name stages = t.explain name stages := by
  unfold explain
  rw [h name]

namespace Session

section Explained

variable (s : Session) {store : Store}

/-- An explained run has only looked at the watch, so that in particular it saves nothing, and
what it gives is an explanation. -/
theorem run_explained {s' : Session} {j : Job} {result : Except RunFailure Run}
    (hexplain : j.explain = true) (h : s.run j = (result, s')) :
    s' = s.looked ∧ ∀ run, result = .ok run → run.explained = true := by
  rcases run_cases h with ⟨_, -, rfl, hs⟩ | ⟨rendered, -, -, rfl, hs⟩ |
      ⟨_, _, _, -, hdata, -⟩ | ⟨_, _, _, -, hdata, -⟩
  · exact ⟨hs, fun run hrun => by cases hrun⟩
  · refine ⟨hs, ?_⟩
    intro run hrun
    rw [Job.explained] at hrun
    cases hplan : s.store.explain j.collection (commandsOf rendered) with
    | error e =>
      rw [hplan] at hrun
      cases hrun
    | ok plan =>
      rw [hplan] at hrun
      cases hrun
      rfl
  · rw [hexplain] at hdata
    cases hdata
  · rw [hexplain] at hdata
    cases hdata

/-- An explained run comes to the same on any store with the same indexes. -/
theorem run_explained_congr (h : ∀ name, s.store.indexes name = store.indexes name) {j : Job}
    (hexplain : j.explain = true) : (s.run j).1 = (run { s with store } j).1 := by
  have hplan := Store.explain_congr h j.collection
  have hscope : scope { s with store } = s.scope := rfl
  simp only [run, Job.run, hexplain, if_true, hscope]
  cases s.scope.renderAll j.stages with
  | error e => rfl
  | ok rendered => simp only [Job.explained, hplan]

/-- What an explained query comes to: its plan is not masked. -/
theorem runQuery_explained (q : Query) :
    s.runQuery true q =
      (if q.isPipeline then
          (s.run (job true q)).1.map fun run =>
            if q.returns then some ⟨q.name, run.docs⟩ else none
        else .error ⟨.unsupportedType q.name q.type, q.commands⟩,
        if q.isPipeline then s.looked else s) := by
  have hexplain : (job true q).explain = true := rfl
  have hsame : (s.run (job true q)).2 = s.looked := (s.run_explained hexplain rfl).1
  cases hquery : s.runQuery true q with
  | mk result after =>
    rcases runQuery_cases hquery with ⟨htype, hresult, hs⟩ | ⟨htype, f, hrun, hresult⟩ |
        ⟨htype, run, hreturns, hrun, hresult⟩ |
        ⟨htype, run, ran, docs, hreturns, hrun, hmasked, hresult⟩
    · rw [hresult, hs, htype, if_neg Bool.false_ne_true, if_neg Bool.false_ne_true]
    · rw [hrun] at hsame
      rw [hresult, htype, if_pos rfl, if_pos rfl, hrun]
      exact congrArg _ hsame
    · rw [hrun] at hsame
      rw [hresult, htype, if_pos rfl, if_pos rfl, hrun]
      simp only [Except.map, hreturns]
      exact congrArg _ hsame
    · have hexplained := (s.run_explained hexplain hrun).2 run rfl
      rw [hrun] at hsame
      rw [hresult, htype, if_pos rfl, if_pos rfl, hrun]
      rcases masked_cases hmasked with ⟨-, hdocs, hs⟩ | ⟨hdata, -⟩ | ⟨hdata, -⟩
      · rw [hdocs, hs]
        simp only [Except.map, hreturns, if_true]
        exact congrArg _ hsame
      · rw [hexplained] at hdata
        cases hdata
      · rw [hexplained] at hdata
        cases hdata

theorem runQuery_explained_congr (h : ∀ name, s.store.indexes name = store.indexes name)
    (q : Query) : (s.runQuery true q).1 = (runQuery { s with store } true q).1 := by
  rw [runQuery_explained, runQuery_explained, run_explained_congr s h rfl]

/-- Explained queries come to the same on any store with the same indexes, each of them in
the session in which the first one began but for the time. -/
theorem runQueries_explained (h : ∀ name, s.store.indexes name = store.indexes name)
    (results : List QueryResult) (queries : List Query) :
    (s.runQueries true results queries).1 = (runQueries { s with store } true results queries).1 ∧
      ∃ watch, (s.runQueries true results queries).2 = { s with watch } := by
  induction queries generalizing s results with
  | nil => exact ⟨rfl, s.watch, rfl⟩
  | cons q rest ih =>
    have hresult := s.runQuery_explained_congr h q
    cases hquery : s.runQuery true q with
    | mk result after =>
      cases hother : runQuery { s with store } true q with
      | mk result' after' =>
        have hafter := congrArg Prod.snd (s.runQuery_explained q)
        have hafter' := congrArg Prod.snd (runQuery_explained { s with store } q)
        rw [hquery] at hresult hafter
        rw [hother] at hresult hafter'
        obtain rfl : result = result' := hresult
        obtain ⟨watch, rfl, rfl⟩ : ∃ watch, after = { s with watch } ∧
            after' = { s with watch, store } := by
          cases htype : q.isPipeline with
          | false =>
            rw [htype] at hafter hafter'
            exact ⟨s.watch, hafter, hafter'⟩
          | true =>
            rw [htype] at hafter hafter'
            exact ⟨s.watch.later, hafter, hafter'⟩
        simp only [runQueries, hquery, hother]
        cases result with
        | ok found => exact ih { s with watch } h (results ++ found.toList)
        | error f =>
          cases q.continues with
          | true => exact ih { s with watch } h []
          | false => exact ⟨rfl, watch, rfl⟩

end Explained

/-- A set without scripts is its queries. -/
theorem runSet_of_no_scripts (s : Session) (scriptCollection : String) {set : QuerySet}
    (hpre : set.preScript = "") (hpost : set.postScript = "") :
    s.runSet scriptCollection set = s.runQueries set.explain [] set.queries := by
  have hnone (s : Session) : s.runScript scriptCollection "" = (.ok (), s) := rfl
  simp only [runSet, hpre, hpost, hnone]
  cases s.runQueries set.explain [] set.queries with
  | mk result after => cases result <;> rfl

end Session

namespace Engine

/-- Explaining a set reveals nothing about stored documents. On any two stores that list the
same indexes for every collection, an execution that only explains comes to the same result,
success or failure, and to the same registry, so that nothing of it shows later either. -/
theorem exec_explained_congr (e : Engine) (watch : Time.Watch) {set : QuerySet}
    (hexplain : set.explain = true) (hpre : set.preScript = "") (hpost : set.postScript = "")
    (vars : Variables) {store : Store} (h : ∀ name, e.store.indexes name = store.indexes name) :
    (e.exec watch set vars).1 = (exec { e with store } watch set vars).1 ∧
      (e.exec watch set vars).2.registry = (exec { e with store } watch set vars).2.registry := by
  unfold exec
  cases set.enabled with
  | false => exact ⟨rfl, rfl⟩
  | true =>
    cases set.queries.isEmpty with
    | true => exact ⟨rfl, rfl⟩
    | false =>
      cases vars.reconcile set.params e.registry with
      | mk reconciled registry =>
        cases reconciled with
        | error error => exact ⟨rfl, rfl⟩
        | ok vars =>
          have hrun := Session.runQueries_explained ⟨e.store, registry, vars, Bag.empty, watch⟩ h
          have hother := Session.runQueries_explained ⟨store, registry, vars, Bag.empty, watch⟩
            (fun name => (h name).symm)
          obtain ⟨hresult, _, hsame⟩ := hrun [] set.queries
          obtain ⟨-, _, hsame'⟩ := hother [] set.queries
          simp only [Bool.not_true, Bool.false_eq_true, if_false,
            Session.runSet_of_no_scripts _ e.scriptCollection hpre hpost, hexplain]
          refine ⟨hresult, ?_⟩
          rw [after, after, hsame, hsame']

section Samples

/-- One order, kept under an index on the codes. -/
def ordered (code : String) : Store :=
  ((Store.persistent .empty).answers
    [.ensureIndex "orders" ⟨["code"], false⟩,
     .insert ⟨0, 0, 0⟩ "orders" [⟨[("_id", .int 1), ("code", .string code)]⟩]]).2

/-- A query that would save the orders, and one that asks for what is saved and lets the set
continue; then one that is served by the index. -/
def askingSet (explain : Bool) : QuerySet :=
  ⟨"asking", "", true, explain, "", "", [],
    [⟨"keep", "", "pipeline", "orders", true, false,
        [⟨[("$save", .document ⟨[("$map", .string "kept")]⟩)]⟩], []⟩,
      ⟨"use", "", "pipeline", "orders", true, true,
        [⟨[("$match", .document ⟨[("code", .string "#data.0:kept.code")]⟩)]⟩], []⟩,
      ⟨"find", "", "pipeline", "orders", true, false,
        [⟨[("$match", .document ⟨[("code", .string "a")]⟩)]⟩], []⟩]⟩

/-- What the set tells if it is explained. -/
def plannedFind : Document :=
  let filter : Value := .document ⟨[("code", .string "a")]⟩
  let plan : Document := ⟨[("stage", .string "IXSCAN"), ("indexName", .string "code_1"),
    ("keyPattern", .array [.string "code"]), ("filter", filter)]⟩
  let planner : Document := ⟨[("namespace", .string "orders"),
    ("parsedPipeline", .array [.document ⟨[("$match", filter)]⟩]), ("winningPlan", .document plan)]⟩
  ⟨[("queryPlanner", .document planner), ("stages", .int 1)]⟩

/-- What the set itself gives where the one order has the code. -/
def openOrders (code : String) : List QueryResult :=
  let order : Document := ⟨[("_id", .int 1), ("code", .string code)]⟩
  [⟨"keep", [order]⟩, ⟨"use", [order]⟩, ⟨"find", if code = "a" then [order] else []⟩]

/-- The explained set does not tell two stores apart, although the set itself does. -/
theorem exec_explained_congr_sample :
    let e : Engine := ⟨ordered "a", .inMemory .disabled, "scripts"⟩
    let other : Engine := ⟨ordered "b", .inMemory .disabled, "scripts"⟩
    (∀ name, (ordered "a").indexes name = (ordered "b").indexes name) ∧
      (e.exec (.stopped ⟨0, 0⟩) (askingSet true) Fields.empty).1 = .ok [⟨"find", [plannedFind]⟩] ∧
      (other.exec (.stopped ⟨0, 0⟩) (askingSet true) Fields.empty).1 =
        .ok [⟨"find", [plannedFind]⟩] ∧
      (e.exec (.stopped ⟨0, 0⟩) (askingSet false) Fields.empty).1 = .ok (openOrders "a") ∧
      (other.exec (.stopped ⟨0, 0⟩) (askingSet false) Fields.empty).1 = .ok (openOrders "b") := by
  dsimp only
  have hindexes : ∀ name, (ordered "a").indexes name = (ordered "b").indexes name := fun _ => rfl
  have hexec : (exec ⟨ordered "a", .inMemory .disabled, "scripts"⟩ (.stopped ⟨0, 0⟩)
      (askingSet true) Fields.empty).1 = .ok [⟨"find", [plannedFind]⟩] := rfl
  have hexplain : (askingSet true).explain = true := rfl
  obtain ⟨hresult, -⟩ := exec_explained_congr ⟨ordered "a", .inMemory .disabled, "scripts"⟩
    (.stopped ⟨0, 0⟩) hexplain rfl rfl Fields.empty hindexes
  exact ⟨hindexes, hexec, hresult.symm.trans hexec, rfl, rfl⟩

end Samples

end Engine

end QuerySets
