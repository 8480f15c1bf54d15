import QuerySets.Proofs.Execution.Outcome
import QuerySets.Proofs.Template.Saved

/-!
What the queries of an execution can read of the runs before them. The bag follows the
runs: under each key it holds the documents of the latest run that saved under the key,
and nothing if there is none. Runs that fail or only explain save nothing, and of the
saving stages of one pipeline the last counts.
-/

namespace QuerySets

/-- A stage that saves under a key. -/
def IsSave (stage : Document) (key : String) : Prop :=
  ∃ spec : Document, stage.entries = [("$save", .document spec)] ∧
    spec.get? "$map" = some (.string key)

/-- The last saving stage of a pipeline saves under a key. -/
def LastSave (rendered : List Document) (key : String) : Prop :=
  ∃ earlier stage later, rendered = earlier ++ stage :: later ∧ IsSave stage key ∧
    ∀ other ∈ later, ∀ name, ¬ IsSave other name

theorem saveKey?_eq_some_iff {stage : Document} {key : String} :
    saveKey? stage = some key ↔ IsSave stage key := by
  constructor
  · intro h
    unfold saveKey? at h
    split at h
    next spec hsingle =>
      obtain ⟨v, hv, hkey⟩ := Option.bind_eq_some_iff.mp h
      have hentries : stage.entries = [("$save", .document spec)] := by
        unfold Fields.single? at hsingle
        split at hsingle
        next entry hentry =>
          cases hsingle
          exact hentry
        next => cases hsingle
      have hstring : v = .string key := by
        cases v <;> first | cases hkey; rfl | cases hkey
      exact ⟨spec, hentries, hstring ▸ hv⟩
    next => cases h
  · rintro ⟨spec, hentries, hkey⟩
    simp only [saveKey?, Fields.single?, hentries, hkey, Option.bind_some, Value.string?]

theorem savedUnder?_eq_some_iff {rendered : List Document} {key : String} :
    savedUnder? rendered = some key ↔ LastSave rendered key := by
  unfold savedUnder?
  constructor
  · intro h
    obtain ⟨names, hnames⟩ := List.getLast?_eq_some_iff.mp h
    obtain ⟨earlier, rest, rfl, -, hrest⟩ := List.filterMap_eq_append_iff.mp hnames
    obtain ⟨plain, stage, later, rfl, -, hstage, hlater⟩ := List.filterMap_eq_cons_iff.mp hrest
    refine ⟨earlier ++ plain, stage, later, (List.append_assoc _ _ _).symm,
      saveKey?_eq_some_iff.mp hstage, ?_⟩
    intro other hother name hsave
    have hnone := List.filterMap_eq_nil_iff.mp hlater other hother
    rw [saveKey?_eq_some_iff.mpr hsave] at hnone
    cases hnone
  · rintro ⟨earlier, stage, later, rfl, hstage, hlater⟩
    have hnone : later.filterMap saveKey? = [] := by
      refine List.filterMap_eq_nil_iff.mpr fun other hother => ?_
      cases hname : saveKey? other with
      | none => rfl
      | some name => exact absurd (saveKey?_eq_some_iff.mp hname) (hlater other hother name)
    rw [List.filterMap_append, List.filterMap_cons, saveKey?_eq_some_iff.mpr hstage, hnone,
      List.getLast?_concat]

/-- A pipeline run in the course of an execution, with the session in which it was run. -/
structure PipelineRun where
  session : Session
  job : Job

namespace PipelineRun

/-- A run that succeeds without explaining and whose last saving stage names the key. -/
structure Saves (r : PipelineRun) (key : String) (docs : List Document) : Prop where
  executed : r.job.explain = false
  produced : ∃ run, (r.session.run r.job).1 = .ok run ∧ run.docs = docs
  named : ∃ rendered, r.session.scope.renderAll r.job.stages = .ok rendered ∧
    LastSave rendered key

/-- The documents that the latest of the runs that saved under a key has produced. -/
def LatestSave (runs : List PipelineRun) (key : String) (docs : List Document) : Prop :=
  ∃ earlier r later, runs = earlier ++ r :: later ∧ r.Saves key docs ∧
    ∀ other ∈ later, ∀ others, ¬ other.Saves key others

/-- The latest save among runs is that of the last run, or that run saves nothing under
the key. -/
theorem latestSave_concat {runs : List PipelineRun} {r : PipelineRun} {key : String}
    {docs : List Document} (h : LatestSave (runs ++ [r]) key docs) :
    r.Saves key docs ∨ (LatestSave runs key docs ∧ ∀ others, ¬ r.Saves key others) := by
  obtain ⟨earlier, saver, later, hsplit, hsaves, hlater⟩ := h
  rcases List.eq_nil_or_concat later with rfl | ⟨between, last, rfl⟩
  · obtain ⟨-, hlast⟩ := List.append_inj' hsplit rfl
    cases hlast
    exact Or.inl hsaves
  · rw [List.concat_eq_append] at hsplit hlater
    rw [← List.cons_append, ← List.append_assoc] at hsplit
    obtain ⟨hruns, hlast⟩ := List.append_inj' hsplit rfl
    cases hlast
    refine Or.inr ⟨⟨earlier, saver, between, hruns, hsaves, ?_⟩, ?_⟩
    · intro other hother
      exact hlater other (List.mem_append_left _ hother)
    · exact hlater r (List.mem_append_right _ (List.mem_singleton.mpr rfl))

end PipelineRun

open PipelineRun (LatestSave)

/-- A bag holds what the latest runs saved, and nothing else. -/
structure Bag.Follows (bag : Bag) (runs : List PipelineRun) : Prop where
  latest : ∀ key docs, LatestSave runs key docs → bag.saved.get? key = some docs
  unsaved : ∀ key, (∀ r ∈ runs, ∀ docs, ¬ r.Saves key docs) → bag.saved.get? key = none

theorem Bag.follows_empty : Bag.empty.Follows [] where
  latest := by
    rintro key docs ⟨earlier, r, later, hsplit, -⟩
    cases earlier <;> cases hsplit
  unsaved := fun _ _ => rfl

theorem Job.get?_saved (rendered : List Document) (run : Run) (bag : Bag) (key : String) :
    (LastSave rendered key → (saved rendered run bag).saved.get? key = some run.docs) ∧
      (¬ LastSave rendered key → (saved rendered run bag).saved.get? key = bag.saved.get? key) := by
  rw [← savedUnder?_eq_some_iff]
  unfold saved
  cases hname : savedUnder? rendered with
  | none => simp
  | some name =>
    refine ⟨?_, ?_⟩
    · intro hkey
      cases hkey
      simp [Bag.put, Fields.get?_insert]
    · intro hother
      have hne : name ≠ key := fun heq => hother (congrArg some heq)
      simp [Bag.put, Fields.get?_insert, hne]

namespace Session

variable {s s' : Session}

/-- One run changes what is saved under a key exactly if it saves under the key. -/
theorem get?_bag_run {j : Job} {result : Except RunFailure Run} (h : s.run j = (result, s'))
    (key : String) :
    (∀ docs, (PipelineRun.mk s j).Saves key docs → s'.bag.saved.get? key = some docs) ∧
      ((∀ docs, ¬ (PipelineRun.mk s j).Saves key docs) →
        s'.bag.saved.get? key = s.bag.saved.get? key) := by
  rcases run_cases h with ⟨e, hrender, -, rfl⟩ | ⟨rendered, -, hexplain, -, rfl⟩ |
      ⟨rendered, store, e, -, -, -, hresult, rfl⟩ |
      ⟨rendered, store, run, hrender, hexplain, -, hresult, rfl⟩
  · refine ⟨?_, fun _ => rfl⟩
    rintro docs ⟨-, -, rendered, hrendered, -⟩
    rw [hrender] at hrendered
    cases hrendered
  · refine ⟨?_, fun _ => rfl⟩
    rintro docs ⟨hexecuted, -, -⟩
    rw [hexplain] at hexecuted
    cases hexecuted
  · refine ⟨?_, fun _ => rfl⟩
    rintro docs ⟨-, ⟨run, hrun, -⟩, -⟩
    rw [h, hresult] at hrun
    cases hrun
  · obtain ⟨hsaved, hkept⟩ := Job.get?_saved rendered run s.bag key
    refine ⟨?_, ?_⟩
    · rintro docs ⟨-, ⟨ran, hran, rfl⟩, again, hagain, hlast⟩
      rw [hrender] at hagain
      cases hagain
      rw [h, hresult] at hran
      cases hran
      exact hsaved hlast
    · intro hno
      refine hkept fun hlast => hno run.docs ⟨hexplain, ⟨run, ?_, rfl⟩, rendered, hrender, hlast⟩
      rw [h, hresult]

theorem follows_run {runs : List PipelineRun} (hfollows : s.bag.Follows runs) {j : Job}
    {result : Except RunFailure Run} (h : s.run j = (result, s')) :
    s'.bag.Follows (runs ++ [⟨s, j⟩]) where
  latest := by
    intro key docs hlatest
    obtain ⟨hsaves, hkeeps⟩ := get?_bag_run h key
    rcases PipelineRun.latestSave_concat hlatest with hlast | ⟨hearlier, hno⟩
    · exact hsaves docs hlast
    · rw [hkeeps hno]
      exact hfollows.latest key docs hearlier
  unsaved := by
    intro key hno
    have hrun := hno ⟨s, j⟩ (List.mem_append_right _ (List.mem_singleton.mpr rfl))
    rw [(get?_bag_run h key).2 hrun]
    exact hfollows.unsaved key fun r hr => hno r (List.mem_append_left _ hr)

/-- The run of a script, if there is one of the name. -/
def scriptRuns (s : Session) (collection name : String) : List PipelineRun :=
  if name.isEmpty then []
  else
    match s.registry.script name with
    | (.error _, _) => []
    | (.ok script, registry) => [⟨{ s with registry }, ⟨collection, script.commands, [], false⟩⟩]

/-- The run of a query, unless it is of no known type. -/
def queryRun (s : Session) (explain : Bool) (q : Query) : List PipelineRun :=
  if q.isPipeline then [⟨s, job explain q⟩] else []

/-- The runs of queries, each in the session that the one before it left. -/
def queryRuns (s : Session) (explain : Bool) : List Query → List PipelineRun
  | [] => []
  | q :: rest => s.queryRun explain q ++ queryRuns (s.runQuery explain q).2 explain rest

theorem follows_runScript {runs : List PipelineRun} (hfollows : s.bag.Follows runs)
    {collection name : String} {result : Except SetFailure Unit}
    (h : s.runScript collection name = (result, s')) :
    s'.bag.Follows (runs ++ s.scriptRuns collection name) := by
  unfold runScript at h
  unfold scriptRuns
  cases hname : name.isEmpty with
  | true =>
    rw [hname, if_pos rfl] at h
    cases h
    simpa using hfollows
  | false =>
    rw [hname, if_neg Bool.false_ne_true] at h
    cases hscript : s.registry.script name with
    | mk script registry =>
      rw [hscript] at h
      cases script with
      | error e =>
        cases h
        simpa using hfollows
      | ok script =>
        cases h
        exact follows_run (s := { s with registry }) hfollows rfl

theorem follows_runQuery {runs : List PipelineRun} (hfollows : s.bag.Follows runs)
    {explain : Bool} {q : Query} {result : Except RunFailure (Option QueryResult)}
    (h : s.runQuery explain q = (result, s')) :
    s'.bag.Follows (runs ++ s.queryRun explain q) := by
  have hbag : s'.bag = (if q.isPipeline then (s.run (job explain q)).2.scope else s.scope).bag :=
    congrArg Scope.bag (scope_runQuery h)
  rw [hbag, queryRun]
  cases q.isPipeline with
  | false =>
    rw [if_neg Bool.false_ne_true, if_neg Bool.false_ne_true, List.append_nil]
    exact hfollows
  | true => exact follows_run hfollows rfl

theorem follows_afterQueries {runs : List PipelineRun} (hfollows : s.bag.Follows runs)
    (explain : Bool) (queries : List Query) :
    (s.afterQueries explain queries).bag.Follows (runs ++ s.queryRuns explain queries) := by
  induction queries generalizing s runs with
  | nil => simpa [queryRuns] using hfollows
  | cons q rest ih =>
    have hfirst : (s.runQuery explain q).2.bag.Follows (runs ++ s.queryRun explain q) :=
      follows_runQuery hfollows rfl
    have hrest := ih hfirst
    rw [afterQueries_cons, queryRuns, ← List.append_assoc]
    exact hrest

end Session

namespace Engine

/-- The runs of an execution before the query of a position: that of the script before
the queries, and those of the queries before it. -/
def runsBefore (e : Engine) (set : QuerySet) (start s : Session) (i : Nat) : List PipelineRun :=
  start.scriptRuns e.scriptCollection set.preScript ++
    s.queryRuns set.explain (set.queries.take i)

/-- What the query of a position is rendered with. -/
def scopeAt (set : QuerySet) (s : Session) (i : Nat) : Scope :=
  (s.afterQueries set.explain (set.queries.take i)).scope

variable {e : Engine} {watch : Time.Watch} {set : QuerySet} {vars : Variables}
  {start s : Session}

theorem follows_scopeAt (hstart : e.Starts watch set vars start)
    (hscript : start.runScript e.scriptCollection set.preScript = (.ok (), s)) (i : Nat) :
    (scopeAt set s i).bag.Follows (e.runsBefore set start s i) := by
  obtain ⟨reconciled, registry, -, rfl⟩ := hstart.reconciled
  have hran := Session.follows_runScript Bag.follows_empty hscript
  exact Session.follows_afterQueries hran set.explain (set.queries.take i)

/-- What is read of saved documents at any query. A directive gives the documents of the
latest run that saved under its key, all of them or that of an index, and without such a
run it finds no key. A numeral that fits in no word is refused before anything is read. -/
theorem saved_read (hstart : e.Starts watch set vars start)
    (hscript : start.runScript e.scriptCollection set.preScript = (.ok (), s)) (i : Nat)
    {key : String} (hdot : '.' ∉ key.toList) (hbrace : '{' ∉ key.toList) :
    (∀ docs, LatestSave (e.runsBefore set start s i) key docs →
      (scopeAt set s i).renderValue (.string (Directive.written "*" key)) =
          .ok (.array (docs.map .document)) ∧
        ∀ j < UInt64.size,
          (∀ d, docs[j]? = some d →
            (scopeAt set s i).renderValue (.string (Directive.written (toString j) key)) =
              .ok (.document d)) ∧
          (docs.length ≤ j →
            (scopeAt set s i).renderValue (.string (Directive.written (toString j) key)) =
              .error (.indexOutOfRange key j docs.length))) ∧
    ((∀ r ∈ e.runsBefore set start s i, ∀ docs, ¬ r.Saves key docs) →
      (scopeAt set s i).renderValue (.string (Directive.written "*" key)) =
          .error (.keyNotFound key) ∧
        ∀ j < UInt64.size,
          (scopeAt set s i).renderValue (.string (Directive.written (toString j) key)) =
            .error (.keyNotFound key)) ∧
    ∀ j ≥ UInt64.size,
      (scopeAt set s i).renderValue (.string (Directive.written (toString j) key)) =
        .error (.badSelector (Directive.written (toString j) key) (toString j)) := by
  have hfollows := follows_scopeAt hstart hscript i
  simp only [Scope.renderValue, Scope.renderText_all hdot hbrace]
  refine ⟨?_, ?_, ?_⟩
  · intro docs hlatest
    have hdocs := hfollows.latest key docs hlatest
    refine ⟨Scope.savedValue_all hdocs, ?_⟩
    intro j hj
    rw [Scope.renderText_numeral hdot hbrace, if_pos hj]
    exact ⟨fun d hd => Scope.savedValue_index hdocs hd,
      fun hlength => Scope.savedValue_outOfRange hdocs hlength none⟩
  · intro hno
    have hnone := hfollows.unsaved key hno
    refine ⟨Scope.savedValue_of_unsaved hnone .all none, ?_⟩
    intro j hj
    rw [Scope.renderText_numeral hdot hbrace, if_pos hj]
    exact Scope.savedValue_of_unsaved hnone (.index j) none
  · intro j hj
    exact Scope.renderText_beyond_word hdot hbrace hj

/-- A query that saves all orders, and one for which they are saved. -/
def savingSet : QuerySet :=
  ⟨"saving", "", true, false, "", "", [],
    [⟨"keep", "", "pipeline", "orders", false, false,
        [⟨[("$save", .document ⟨[("$map", .string "kept")]⟩)]⟩], []⟩,
      ⟨"use", "", "pipeline", "orders", true, false, [], []⟩]⟩

def sampleOrders : List Document := [⟨[("total", .int 3)]⟩, ⟨[("total", .int 5)]⟩]

theorem starts_saving : sample.Starts (.stopped ⟨0, 0⟩) savingSet Fields.empty sampleSession :=
  ⟨rfl, List.cons_ne_nil _ _, Fields.empty, sample.registry, rfl, rfl⟩

theorem latestSave_saving :
    LatestSave (sample.runsBefore savingSet sampleSession sampleSession 1) "kept" sampleOrders := by
  refine ⟨[], _, [], rfl, ⟨rfl, ⟨_, rfl, rfl⟩, _, rfl, ?_⟩, ?_⟩
  · refine ⟨[], _, [], rfl, ⟨_, rfl, rfl⟩, ?_⟩
    intro other hother
    cases hother
  · intro other hother
    cases hother

theorem saved_read_saving :
    sample.Starts (.stopped ⟨0, 0⟩) savingSet Fields.empty sampleSession ∧
      sampleSession.runScript sample.scriptCollection savingSet.preScript =
        (.ok (), sampleSession) ∧
      LatestSave (sample.runsBefore savingSet sampleSession sampleSession 1) "kept" sampleOrders ∧
      (scopeAt savingSet sampleSession 1).renderValue (.string (Directive.written "*" "kept")) =
        .ok (.array (sampleOrders.map .document)) ∧
      (scopeAt savingSet sampleSession 1).renderValue (.string (Directive.written "1" "kept")) =
        .ok (.document ⟨[("total", .int 5)]⟩) ∧
      (scopeAt savingSet sampleSession 1).renderValue (.string (Directive.written "2" "kept")) =
        .error (.indexOutOfRange "kept" 2 2) := by
  have hscript : sampleSession.runScript sample.scriptCollection savingSet.preScript =
      (.ok (), sampleSession) := rfl
  have hdot : '.' ∉ "kept".toList := by decide
  have hbrace : '{' ∉ "kept".toList := by decide
  have hread := saved_read starts_saving hscript 1 hdot hbrace
  obtain ⟨hall, hindex⟩ := hread.1 sampleOrders latestSave_saving
  exact ⟨starts_saving, hscript, latestSave_saving, hall, (hindex 1 (by decide)).1 _ rfl,
    (hindex 2 (by decide)).2 (by decide)⟩

/-- Not every index that is too large is reported as out of range. -/
theorem not_all_indices_outOfRange :
    ¬ ∀ (e : Engine) (watch : Time.Watch) (set : QuerySet) (vars : Variables) (start s : Session)
        (i : Nat) (key : String) (docs : List Document),
      e.Starts watch set vars start →
      start.runScript e.scriptCollection set.preScript = (.ok (), s) →
      '.' ∉ key.toList → '{' ∉ key.toList → LatestSave (e.runsBefore set start s i) key docs →
      ∀ j ≥ docs.length,
        (scopeAt set s i).renderValue (.string (Directive.written (toString j) key)) =
          .error (.indexOutOfRange key j docs.length) := by
  intro hclaim
  have hrange := hclaim sample (.stopped ⟨0, 0⟩) savingSet Fields.empty sampleSession sampleSession
    1 "kept" sampleOrders starts_saving rfl (by decide) (by decide) latestSave_saving UInt64.size
    (by decide)
  rw [Scope.renderValue, Scope.renderText_beyond_word (by decide) (by decide)
    (Nat.le_refl UInt64.size)] at hrange
  cases hrange

end Engine

end QuerySets
