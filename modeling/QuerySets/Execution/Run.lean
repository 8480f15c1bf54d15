import QuerySets.Execution.Error
import QuerySets.Store.Basic
import QuerySets.Template.Rendering

/-!
Runs of single pipelines. The stages are rendered first. A stage that saves the
result under a key is not sent to the store; of several such stages the last one
counts. An explained run neither declares indexes nor saves anything.
-/

namespace QuerySets

/-- A run that succeeded, with the stages that were sent to the store. -/
structure Run where
  docs : List Document
  commands : List Document
  explained : Bool

/-- A run that failed: with the stages as written if they could not be rendered,
otherwise with those that were sent. -/
structure RunFailure where
  error : ExecutionError
  commands : List Document

/-- The key under which a stage saves, if it is such a stage. -/
def saveKey? (stage : Document) : Option String :=
  match stage.single? with
  | some ("$save", .document spec) => (spec.get? "$map").bind (·.string?)
  | _ => none

/-- The stages that go to the store. -/
def commandsOf (rendered : List Document) : List Document :=
  rendered.filter (saveKey? · |>.isNone)

/-- The key under which a pipeline saves. -/
def savedUnder? (rendered : List Document) : Option String :=
  (rendered.filterMap saveKey?).getLast?

namespace Store

/-- Declares indexes one after the other; those before a failure stay declared. -/
def ensureIndexes (s : Store) (collection : String) :
    List Index → Except StoreError Unit × Store
  | [] => (.ok (), s)
  | i :: rest =>
    match s.ensureIndex collection i with
    | .ok s => ensureIndexes s collection rest
    | .error e => (.error e, s)

end Store

/-- A pipeline as it is run: what it works on and how. -/
structure Job where
  collection : String
  stages : List Document
  indexes : List Index
  explain : Bool

namespace Job

/-- Explains the rendered stages. -/
def explained (j : Job) (s : Store) (commands : List Document) : Except StoreError Run := do
  return ⟨[← s.explain j.collection commands], commands, true⟩

/-- Runs the rendered stages, with the indexes that the job declares. -/
def aggregated (j : Job) (s : Store) (commands : List Document) : Except StoreError Run × Store :=
  match s.ensureIndexes j.collection j.indexes with
  | (.error e, s) => (.error e, s)
  | (.ok (), s) => ((s.aggregate j.collection commands).map fun docs => ⟨docs, commands, false⟩, s)

/-- Saves the documents of a run. -/
def saved (rendered : List Document) (run : Run) (bag : Bag) : Bag :=
  match savedUnder? rendered with
  | some key => bag.put key run.docs
  | none => bag

/-- Runs the job: its result, and the store and the bag as it leaves them. -/
def run (j : Job) (scope : Scope) (s : Store) : Except RunFailure Run × Store × Bag :=
  match scope.renderAll j.stages with
  | .error e => (.error ⟨.template e, j.stages⟩, s, scope.bag)
  | .ok rendered =>
    let commands := commandsOf rendered
    let failed (e : StoreError) : RunFailure := ⟨.store e, commands⟩
    if j.explain then ((j.explained s commands).mapError failed, s, scope.bag)
    else
      match j.aggregated s commands with
      | (.error e, s) => (.error (failed e), s, scope.bag)
      | (.ok run, s) => (.ok run, s, saved rendered run scope.bag)

end Job

end QuerySets
