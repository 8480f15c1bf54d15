import QuerySets.Stage.Basic
import QuerySets.Store.Index

/-!
Pipelines: stages in a row, each one working on what the one before it gave. The
plan of a pipeline tells which index its first filter could use.
-/

namespace QuerySets

structure Pipeline where
  stages : List Stage

namespace Pipeline

def compile (stages : List Document) : Except StoreError Pipeline :=
  (stages.mapM Stage.compile).map .mk

def run (p : Pipeline) (docs : List Document) : List Document :=
  p.stages.foldl (fun docs stage => stage.run docs) docs

/-- The filter that a pipeline starts with. -/
def firstFilter? (p : Pipeline) : Option Filter :=
  match p.stages with
  | .select filter :: _ => some filter
  | _ => none

/-- Whether the first path of an index is one that the filter tests. -/
def serves (filter : Filter) (i : Index) : Bool :=
  match i.fields with
  | path :: _ => filter.fields.contains path
  | [] => false

/-- The first index that the filter at the start of the pipeline could use. -/
def usedIndex? (p : Pipeline) (indexes : List Index) : Option Index :=
  p.firstFilter?.bind fun filter => indexes.find? (serves filter)

def scan (p : Pipeline) (indexes : List Index) : List (String × Value) :=
  match p.usedIndex? indexes with
  | some i =>
    [("stage", .string "IXSCAN"), ("indexName", .string i.name),
     ("keyPattern", .array (i.key.map .string))]
  | none => [("stage", .string "COLLSCAN")]

/-- The filter document that the pipeline is written with. -/
def filterEntry (p : Pipeline) (written : List Document) : List (String × Value) :=
  match p.firstFilter?, written with
  | some _, first :: _ => ((first.get? "$match").map fun v => ("filter", v)).toList
  | _, _ => []

/-- How the pipeline would run on a collection with these indexes. -/
def explain (p : Pipeline) (collection : String) (written : List Document)
    (indexes : List Index) : Document :=
  let plan : Document := ⟨p.scan indexes ++ p.filterEntry written⟩
  let planner : Document :=
    ⟨[("namespace", .string collection), ("parsedPipeline", .array (written.map .document)),
      ("winningPlan", .document plan)]⟩
  ⟨[("queryPlanner", .document planner), ("stages", .int (Int64.ofNat p.stages.length))]⟩

end Pipeline

end QuerySets
