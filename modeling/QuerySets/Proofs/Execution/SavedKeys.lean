import QuerySets.Proofs.Execution.SavedRuns

/-!
Reading back what has been saved. A saving stage takes any text for its key, but a
directive takes the key to end at the first point of its payload. So the documents saved
under a key without a point are read back as they are; those saved under a key with one
are not, because the directive goes into what was saved under the part before it.
-/

namespace QuerySets

namespace Session

theorem vars_run (s : Session) (j : Job) : (s.run j).2.scope.vars = s.scope.vars := rfl

theorem vars_runScript (s : Session) (collection name : String) :
    (s.runScript collection name).2.scope.vars = s.scope.vars := by
  unfold runScript
  split
  · rfl
  · split <;> rfl

theorem vars_runQuery (s : Session) (explain : Bool) (q : Query) :
    (s.runQuery explain q).2.scope.vars = s.scope.vars := by
  have hscope : (s.runQuery explain q).2.scope =
      if q.isPipeline then (s.run (job explain q)).2.scope else s.scope := scope_runQuery rfl
  rw [hscope]
  split
  · exact vars_run s (job explain q)
  · rfl

theorem vars_afterQueries (s : Session) (explain : Bool) (queries : List Query) :
    (s.afterQueries explain queries).scope.vars = s.scope.vars := by
  induction queries generalizing s with
  | nil => rfl
  | cons q rest ih => rw [afterQueries_cons, ih, vars_runQuery]

end Session

namespace Engine

open PipelineRun (LatestSave)

variable {e : Engine} {watch : Time.Watch} {set : QuerySet} {vars : Variables}
  {start s : Session}

/-- No script and no query touches the variables with which an execution starts. -/
theorem vars_scopeAt
    (hscript : start.runScript e.scriptCollection set.preScript = (.ok (), s)) (i : Nat) :
    (scopeAt set s i).vars = start.scope.vars := by
  have hran := start.vars_runScript e.scriptCollection set.preScript
  rw [hscript] at hran
  exact (s.vars_afterQueries set.explain (set.queries.take i)).trans hran

/-- What the directive of a key reads at any query after documents have been saved under the
key. The payload is any text that is the key once the variables are substituted; without
variables that is the key itself. If the key has no point, the directive gives exactly the
documents of the latest run that saved under the key. If it has one, the directive gives what
the rest of the key leads to in the documents saved under the part before the first point, and
it finds no key if nothing has been saved under that part. -/
theorem saved_read_back (hstart : e.Starts watch set vars start)
    (hscript : start.runScript e.scriptCollection set.preScript = (.ok (), s)) (i : Nat)
    {payload key : String} (hkey : start.scope.vars.substitute payload = key)
    {docs : List Document} (hsaved : LatestSave (e.runsBefore set start s i) key docs) :
    ('.' ∉ key.toList →
      (scopeAt set s i).renderValue (.string (Directive.written "*" payload)) =
        .ok (.array (docs.map .document))) ∧
    ∀ before path, key = before ++ "." ++ path → '.' ∉ before.toList →
      (∀ others, LatestSave (e.runsBefore set start s i) before others →
        (scopeAt set s i).renderValue (.string (Directive.written "*" payload)) =
          .ok (.array (others.filterMap
            (Scope.part? (if path = "" then none else some path))))) ∧
      ((∀ r ∈ e.runsBefore set start s i, ∀ others, ¬ r.Saves before others) →
        (scopeAt set s i).renderValue (.string (Directive.written "*" payload)) =
          .error (.keyNotFound before)) := by
  have hfollows := follows_scopeAt hstart hscript i
  have hpayload : (scopeAt set s i).vars.substitute payload = key := by
    rw [vars_scopeAt hscript i, hkey]
  rw [Scope.renderValue, Scope.renderText_payload_all hpayload]
  constructor
  · intro hdot
    rw [Directive.source_of_not_mem hdot]
    exact Scope.savedValue_all (hfollows.latest key docs hsaved)
  · intro before path hsplit hdot
    rw [hsplit, Directive.source_append hdot path]
    constructor
    · intro others hothers
      exact Scope.savedValue_parts (hfollows.latest before others hothers) _
    · intro hno
      exact Scope.savedValue_of_unsaved (hfollows.unsaved before hno) .all _

section Samples

/-- Stages that save whatever there is under a key. -/
def saving (key : String) : List Document :=
  [⟨[("$save", .document ⟨[("$map", .string key)]⟩)]⟩]

/-- A query that saves all orders under a key, and one for which they are saved. -/
def savingUnder (key : String) : QuerySet :=
  { savingSet with
    queries := [⟨"keep", "", "pipeline", "orders", false, false, saving key, []⟩,
      ⟨"use", "", "pipeline", "orders", true, false, [], []⟩] }

theorem starts_savingUnder (key : String) :
    sample.Starts (.stopped ⟨0, 0⟩) (savingUnder key) Fields.empty sampleSession :=
  ⟨rfl, List.cons_ne_nil _ _, Fields.empty, sample.registry, rfl, rfl⟩

/-- Where the stages are rendered as they stand, the key is the one that they name. -/
theorem latestSave_savingUnder {key : String}
    (hrendered : sampleSession.scope.renderAll (saving key) = .ok (saving key)) :
    LatestSave (sample.runsBefore (savingUnder key) sampleSession sampleSession 1) key
      sampleOrders := by
  have hrun : (sampleSession.run ⟨"orders", saving key, [], false⟩).1 =
      .ok ⟨sampleOrders, [], false⟩ := by
    simp only [Session.run, Job.run, hrendered]
    rfl
  refine ⟨[], _, [], rfl, ⟨rfl, ⟨_, hrun, rfl⟩, saving key, hrendered, ?_⟩, ?_⟩
  · refine ⟨[], _, [], rfl, ⟨_, rfl, rfl⟩, ?_⟩
    intro other hother
    cases hother
  · intro other hother
    cases hother

theorem saved_read_back_braced :
    sample.Starts (.stopped ⟨0, 0⟩) (savingUnder "{kept}") Fields.empty sampleSession ∧
      sampleSession.runScript sample.scriptCollection "" = (.ok (), sampleSession) ∧
      sampleSession.scope.vars.substitute "{kept}" = "{kept}" ∧
      LatestSave (sample.runsBefore (savingUnder "{kept}") sampleSession sampleSession 1) "{kept}"
        sampleOrders ∧
      (scopeAt (savingUnder "{kept}") sampleSession 1).renderValue
        (.string (Directive.written "*" "{kept}")) = .ok (.array (sampleOrders.map .document)) := by
  have hkey : sampleSession.scope.vars.substitute "{kept}" = "{kept}" :=
    Variables.substitute_empty _
  have hsaved := @latestSave_savingUnder "{kept}" rfl
  have hread := saved_read_back (starts_savingUnder "{kept}") rfl 1 hkey hsaved
  exact ⟨starts_savingUnder _, rfl, hkey, hsaved, hread.1 (by decide)⟩

/-- Documents saved under a key with a point are not read back by the directive of the key. -/
theorem pointed_key_not_found :
    sample.Starts (.stopped ⟨0, 0⟩) (savingUnder "kept.all") Fields.empty sampleSession ∧
      LatestSave (sample.runsBefore (savingUnder "kept.all") sampleSession sampleSession 1)
        "kept.all" sampleOrders ∧
      (scopeAt (savingUnder "kept.all") sampleSession 1).renderValue
        (.string (Directive.written "*" "kept.all")) = .error (.keyNotFound "kept") :=
  ⟨starts_savingUnder _, latestSave_savingUnder rfl, rfl⟩

end Samples

end Engine

end QuerySets
