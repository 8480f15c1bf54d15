import QuerySets.Definition.Registry
import QuerySets.Execution.Run

/-!
Executions in progress. Queries and scripts run one after the other, and each of
them finds the store, the registry and the bag as the one before left them.
-/

namespace QuerySets

structure Session where
  store : Store
  registry : Registry
  vars : Variables
  bag : Bag
  /-- Each run of a pipeline looks at it once. -/
  watch : Time.Watch

/-- The documents that a query contributes to the result. -/
structure QueryResult where
  name : String
  docs : List Document

/-- Why an execution failed; the commands are there if a run had come to them. -/
structure SetFailure where
  commands : Option (List Document)
  error : ExecutionError

def RunFailure.toSetFailure (f : RunFailure) : SetFailure := ⟨some f.commands, f.error⟩

namespace Session

/-- What the next run is rendered with. -/
def scope (s : Session) : Scope := ⟨s.vars, s.bag, s.watch.now⟩

/-- The session after its watch has been looked at. -/
def looked (s : Session) : Session := { s with watch := s.watch.later }

def run (s : Session) (j : Job) : Except RunFailure Run × Session :=
  let (result, store, bag) := j.run s.scope s.store
  (result, { s.looked with store, bag })

/-- Masks the documents of a run on a collection. An explanation holds no data and
stays as it is. -/
def masked (s : Session) (collection : String) (run : Run) :
    Except RunFailure (List Document) × Session :=
  if run.explained then (.ok run.docs, s)
  else
    match s.registry.fieldMasks collection with
    | (.error e, registry) => (.error ⟨.definition e, run.commands⟩, { s with registry })
    | (.ok masks, registry) =>
      ((masks.apply run.docs).mapError fun fault => ⟨.masking fault, run.commands⟩,
        { s with registry })

def job (explain : Bool) (q : Query) : Job := ⟨q.collection, q.commands, q.indexes, explain⟩

/-- Runs a query; one that returns no documents contributes nothing. -/
def runQuery (s : Session) (explain : Bool) (q : Query) :
    Except RunFailure (Option QueryResult) × Session :=
  if !q.isPipeline then (.error ⟨.unsupportedType q.name q.type, q.commands⟩, s)
  else
    match s.run (job explain q) with
    | (.error f, s) => (.error f, s)
    | (.ok run, s) =>
      if !q.returns then (.ok none, s)
      else
        let (docs, s) := s.masked q.collection run
        (docs.map fun docs => some ⟨q.name, docs⟩, s)

/-- Runs queries after those whose results are at hand. A query that fails ends the
execution, or takes all results so far with it if it lets the set continue. -/
def runQueries (s : Session) (explain : Bool) (results : List QueryResult) :
    List Query → Except SetFailure (List QueryResult) × Session
  | [] => (.ok results, s)
  | q :: rest =>
    match s.runQuery explain q with
    | (.ok found, s) => runQueries s explain (results ++ found.toList) rest
    | (.error f, s) =>
      if q.continues then runQueries s explain [] rest else (.error f.toSetFailure, s)

/-- Runs a script on the collection for scripts; without a name there is none. -/
def runScript (s : Session) (collection name : String) : Except SetFailure Unit × Session :=
  if name.isEmpty then (.ok (), s)
  else
    match s.registry.script name with
    | (.error e, registry) => (.error ⟨none, .definition e⟩, { s with registry })
    | (.ok script, registry) =>
      let (result, s) := { s with registry }.run ⟨collection, script.commands, [], false⟩
      ((result.mapError (·.toSetFailure)).map fun _ => (), s)

/-- The scripts of a set around its queries. -/
def runSet (s : Session) (scriptCollection : String) (set : QuerySet) :
    Except SetFailure (List QueryResult) × Session :=
  match s.runScript scriptCollection set.preScript with
  | (.error f, s) => (.error f, s)
  | (.ok (), s) =>
    match s.runQueries set.explain [] set.queries with
    | (.error f, s) => (.error f, s)
    | (.ok results, s) =>
      let (result, s) := s.runScript scriptCollection set.postScript
      (result.map fun _ => results, s)

end Session

end QuerySets
