import QuerySets.Proofs.Execution.Reads
import QuerySets.Proofs.Store.Extension

/-!
What an execution leaves alone. Its scripts and queries read definitions and documents, and
all that they write is the declarations of the indexes of queries that are run. Scripts
declare none, and an explained query does not either; so an execution that explains, or that
does not come to its queries, leaves the store as it was.
-/

namespace QuerySets

namespace Store

/-- Indexes that queries declare on a collection, in the order of the queries. -/
def declaredOn (queries : List Query) (name : String) : List Index :=
  queries.flatMap fun q => declaredAt q.collection q.indexes name

theorem declaredAt_cons (collection : String) (i : Index) (rest : List Index) (name : String) :
    declaredAt collection (i :: rest) name =
      declaredAt collection [i] name ++ declaredAt collection rest name := by
  unfold declaredAt
  by_cases heq : collection = name
  · rw [if_pos heq, if_pos heq, if_pos heq, List.singleton_append]
  · rw [if_neg heq, if_neg heq, if_neg heq, List.append_nil]

/-- Declared one after the other, indexes are all added, some of them or none. -/
theorem extends_ensureIndexes {collection : String} (hcollection : '\x00' ∉ collection.toList)
    (s : Store) (is : List Index) :
    s.Extends (declaredAt collection is) (s.ensureIndexes collection is).2 := by
  induction is generalizing s with
  | nil => exact .refl _ s
  | cons i rest ih =>
    rw [ensureIndexes]
    cases hensure : s.ensureIndex collection i with
    | error e => exact .refl _ s
    | ok s' =>
      have hboth := (extends_ensureIndex hcollection hensure).trans (ih s')
      exact hboth.mono fun name => (declaredAt_cons collection i rest name) ▸ List.Sublist.refl _

end Store

/-- A run that is not explained writes nothing but the declarations of its indexes. -/
theorem Job.store_aggregated (j : Job) (s : Store) (commands : List Document) :
    (j.aggregated s commands).2 = (s.ensureIndexes j.collection j.indexes).2 := by
  unfold aggregated
  cases s.ensureIndexes j.collection j.indexes with
  | mk result indexed => cases result <;> rfl

namespace Session

variable {s s' : Session} {explain : Bool} {q : Query}

section Stores

/-- The store after a run is that before it, or has been through the declarations. -/
theorem store_run {j : Job} {result : Except RunFailure Run} (h : s.run j = (result, s')) :
    s'.store = s.store ∨ j.explain = false ∧
      s'.store = (s.store.ensureIndexes j.collection j.indexes).2 := by
  rcases run_cases h with ⟨e, -, -, rfl⟩ | ⟨rendered, -, -, -, rfl⟩ |
      ⟨rendered, store, e, -, hexplain, hran, -, rfl⟩ |
      ⟨rendered, store, run, -, hexplain, hran, -, rfl⟩
  · exact Or.inl rfl
  · exact Or.inl rfl
  · refine Or.inr ⟨hexplain, ?_⟩
    rw [← j.store_aggregated s.store (commandsOf rendered), hran]
  · refine Or.inr ⟨hexplain, ?_⟩
    rw [← j.store_aggregated s.store (commandsOf rendered), hran]

/-- Masking does not touch the store. -/
theorem store_masked {collection : String} {run : Run} {docs : Except RunFailure (List Document)}
    (h : s.masked collection run = (docs, s')) : s'.store = s.store := by
  rcases masked_cases h with ⟨-, -, rfl⟩ | ⟨-, e, registry, -, -, rfl⟩ |
      ⟨-, masks, registry, -, -, rfl⟩
  all_goals rfl

/-- A query leaves the store as it was, or as the declarations of its indexes do if it is not
explained. -/
theorem store_runQuery {result : Except RunFailure (Option QueryResult)}
    (h : s.runQuery explain q = (result, s')) :
    s'.store = s.store ∨ explain = false ∧
      s'.store = (s.store.ensureIndexes q.collection q.indexes).2 := by
  rcases runQuery_cases h with ⟨-, -, rfl⟩ | ⟨-, f, hrun, -⟩ | ⟨-, run, -, hrun, -⟩ |
      ⟨-, run, ran, docs, -, hrun, hmasked, -⟩
  · exact Or.inl rfl
  · exact store_run hrun
  · exact store_run hrun
  · rw [store_masked hmasked]
    exact store_run hrun

/-- Scripts declare no indexes. -/
theorem store_runScript (s : Session) (collection name : String) :
    (s.runScript collection name).2.store = s.store := by
  unfold runScript
  split
  · rfl
  · cases hscript : s.registry.script name with
    | mk result registry =>
      cases result with
      | error e => rfl
      | ok script =>
        cases hrun : { s with registry }.run ⟨collection, script.commands, [], false⟩ with
        | mk ran after =>
          simp only [hrun]
          rcases store_run hrun with hsame | ⟨-, hsame⟩
          · exact hsame
          · exact hsame

theorem extends_runQuery {result : Except RunFailure (Option QueryResult)}
    (hcollection : '\x00' ∉ q.collection.toList) (h : s.runQuery explain q = (result, s')) :
    s.store.Extends (Store.declaredAt q.collection q.indexes) s'.store := by
  rcases store_runQuery h with hsame | ⟨-, hdeclared⟩
  · rw [hsame]
    exact .refl _ _
  · rw [hdeclared]
    exact Store.extends_ensureIndexes hcollection s.store q.indexes

/-- Queries add some of the indexes that those of them declare that are run. -/
theorem extends_runQueries (s : Session) (explain : Bool) (results : List QueryResult)
    {queries : List Query} (hcollections : ∀ q ∈ queries, '\x00' ∉ q.collection.toList) :
    s.store.Extends (Store.declaredOn queries)
      (s.runQueries explain results queries).2.store := by
  induction queries generalizing s results with
  | nil => exact .refl _ _
  | cons q rest ih =>
    obtain ⟨hfirst, hrest⟩ := List.forall_mem_cons.mp hcollections
    cases hquery : s.runQuery explain q with
    | mk result after =>
      have hstep := extends_runQuery hfirst hquery
      simp only [runQueries, hquery]
      cases result with
      | ok found => exact hstep.trans (ih after (results ++ found.toList) hrest)
      | error f =>
        cases hcontinues : q.continues with
        | true => exact hstep.trans (ih after [] hrest)
        | false => exact hstep.mono fun name => List.sublist_append_left _ _

/-- Queries that are explained leave the store as it was. -/
theorem store_runQueries_explained (s : Session) (results : List QueryResult)
    (queries : List Query) : (s.runQueries true results queries).2.store = s.store := by
  induction queries generalizing s results with
  | nil => rfl
  | cons q rest ih =>
    cases hquery : s.runQuery true q with
    | mk result after =>
      have hstep : after.store = s.store := by
        rcases store_runQuery hquery with hsame | ⟨hfalse, -⟩
        · exact hsame
        · cases hfalse
      simp only [runQueries, hquery]
      cases result with
      | ok found => exact (ih after (results ++ found.toList)).trans hstep
      | error f =>
        cases hcontinues : q.continues with
        | true => exact (ih after []).trans hstep
        | false => exact hstep

/-- A set leaves the store as its queries do, if it comes to them. -/
theorem store_runSet (s : Session) (scriptCollection : String) (set : QuerySet) :
    ∃ start : Session, start.store = s.store ∧
      ((s.runSet scriptCollection set).2.store = s.store ∨
        (s.runSet scriptCollection set).2.store =
          (start.runQueries set.explain [] set.queries).2.store) := by
  have hpre := s.store_runScript scriptCollection set.preScript
  unfold runSet
  cases hscript : s.runScript scriptCollection set.preScript with
  | mk result start =>
    rw [hscript] at hpre
    refine ⟨start, hpre, ?_⟩
    cases result with
    | error f => exact Or.inl hpre
    | ok _ =>
      refine Or.inr ?_
      cases hqueries : start.runQueries set.explain [] set.queries with
      | mk results after =>
        have hpost := after.store_runScript scriptCollection set.postScript
        cases results with
        | error f => simp only [hqueries]
        | ok results => simpa only [hqueries] using hpost

end Stores

end Session

namespace Engine

variable {e e' : Engine} {watch : Time.Watch} {set : QuerySet} {vars : Variables}

theorem Starts.store_eq {s : Session} (h : e.Starts watch set vars s) : s.store = e.store := by
  obtain ⟨_, _, -, rfl⟩ := h.reconciled
  rfl

theorem extends_exec (hcollections : ∀ q ∈ set.queries, '\x00' ∉ q.collection.toList)
    {result : SetResult} (h : e.exec watch set vars = (result, e')) :
    e.store.Extends (Store.declaredOn set.queries) e'.store := by
  rcases exec_cases h with ⟨-, rfl⟩ | ⟨error, registry, -, rfl⟩ | ⟨s, hstart, rfl⟩
  · exact .refl _ _
  · exact .refl _ _
  · obtain ⟨start, hstore, hsame | hqueries⟩ := s.store_runSet e.scriptCollection set
    · rw [after, hsame, hstart.store_eq]
      exact .refl _ _
    · rw [after, hqueries, ← hstart.store_eq, ← hstore]
      exact start.extends_runQueries set.explain [] hcollections

/-- An execution leaves all documents, definitions and histories as they are, and adds to the
indexes of each collection some of those that its queries declare on it. If it is not allowed
to run, has nothing to run, fails at its parameters or only explains, it leaves the whole
store as it was. -/
theorem exec_frame (e : Engine) (watch : Time.Watch) {set : QuerySet}
    (hcollections : ∀ q ∈ set.queries, '\x00' ∉ q.collection.toList) (vars : Variables) :
    e.store.Extends (Store.declaredOn set.queries) (e.exec watch set vars).2.store ∧
    e.registry.SameDefinitions (e.exec watch set vars).2.registry ∧
    (set.enabled = false ∨ set.queries = [] ∨
        (∃ error, (vars.reconcile set.params e.registry).1 = .error error) ∨
        set.explain = true →
      (e.exec watch set vars).2.store = e.store) := by
  cases hexec : e.exec watch set vars with
  | mk result e' =>
    refine ⟨extends_exec hcollections hexec, (reads_exec hexec).sameDefinitions, ?_⟩
    intro hcause
    rcases exec_cases hexec with ⟨-, rfl⟩ | ⟨error, registry, -, rfl⟩ | ⟨s, hstart, rfl⟩
    · rfl
    · rfl
    obtain ⟨_, registry, hreconcile, -⟩ := hstart.reconciled
    rcases hcause with hdisabled | hnone | ⟨error, hfails⟩ | hexplain
    · rw [hstart.enabled] at hdisabled
      cases hdisabled
    · exact absurd hnone hstart.queries
    · rw [hreconcile] at hfails
      cases hfails
    · obtain ⟨start, hstore, hsame | hqueries⟩ := s.store_runSet e.scriptCollection set
      · rw [after, hsame, hstart.store_eq]
      · rw [after, hqueries, hexplain, start.store_runQueries_explained, hstore, hstart.store_eq]

/-- Orders kept as records, with an index on their codes. -/
def stocked : Engine :=
  ⟨((Store.persistent .empty).answers
      [.ensureIndex "orders" ⟨["code"], false⟩,
       .insert ⟨0, 0, 0⟩ "orders" [⟨[("_id", .int 1), ("code", .string "a")]⟩]]).2,
    .persistent .disabled, "scripts"⟩

/-- A query that declares the index that is there and another one, and a query that fails, so
that a third one is not run. -/
def indexingSet : QuerySet :=
  ⟨"indexing", "", true, false, "", "", [],
    [⟨"all", "", "pipeline", "orders", true, false, [], [⟨["code"], false⟩, ⟨["-total"], false⟩]⟩,
      ⟨"broken", "", "lookup", "orders", true, false, [], [⟨["a"], false⟩]⟩,
      ⟨"late", "", "pipeline", "orders", true, false, [], [⟨["b"], false⟩]⟩]⟩

theorem exec_frame_sample :
    (∀ q ∈ indexingSet.queries, '\x00' ∉ q.collection.toList) ∧
      (stocked.exec (.stopped ⟨0, 0⟩) indexingSet Fields.empty).1.isOk = false ∧
      stocked.store.indexes "orders" = .ok [⟨["code"], false⟩] ∧
      (stocked.exec (.stopped ⟨0, 0⟩) indexingSet Fields.empty).2.store.indexes "orders" =
        .ok [⟨["code"], false⟩, ⟨["-total"], false⟩] ∧
      stocked.store.Extends (Store.declaredOn indexingSet.queries)
        (stocked.exec (.stopped ⟨0, 0⟩) indexingSet Fields.empty).2.store ∧
      stocked.registry.SameDefinitions
        (stocked.exec (.stopped ⟨0, 0⟩) indexingSet Fields.empty).2.registry := by
  have hcollections : ∀ q ∈ indexingSet.queries, '\x00' ∉ q.collection.toList := by decide
  obtain ⟨hextends, hsame, -⟩ := exec_frame stocked (.stopped ⟨0, 0⟩) hcollections Fields.empty
  exact ⟨hcollections, rfl, rfl, rfl, hextends, hsame⟩

end Engine

end QuerySets
