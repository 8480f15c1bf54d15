import QuerySets.Pipeline
import QuerySets.Store.Memory
import QuerySets.Store.Persistent

/-!
Document stores of both kinds, and what is done with documents once they are
read: finding, aggregating and explaining.
-/

namespace QuerySets

inductive Store
  | memory (s : MemoryStore)
  | persistent (s : PersistentStore)

namespace Store

def documents (s : Store) (name : String) : Except StoreError (List Document) :=
  match s with
  | memory s => .ok (s.documents name)
  | persistent s => s.documents name

def indexes (s : Store) (name : String) : Except StoreError (List Index) :=
  match s with
  | memory s => .ok (s.indexes name)
  | persistent s => s.indexes name

def insert (s : Store) (ids : IdSupply) (name : String) (docs : List Document) :
    Except StoreError (Store × IdSupply) :=
  match s with
  | memory s => (s.insert ids name docs).map fun (s, ids) => (memory s, ids)
  | persistent s => (s.insert ids name docs).map fun (s, ids) => (persistent s, ids)

def ensureIndex (s : Store) (name : String) (i : Index) : Except StoreError Store :=
  match s with
  | memory s => (s.ensureIndex name i).map memory
  | persistent s => (s.ensureIndex name i).map persistent

def drop (s : Store) (name : String) : Store :=
  match s with
  | memory s => memory (s.drop name)
  | persistent s => persistent (s.drop name)

def names (s : Store) : List String :=
  match s with
  | memory s => s.names
  | persistent s => s.names

/-- The documents of a collection that a filter accepts. -/
def find (s : Store) (name : String) (filter : Document) :
    Except StoreError (List Document) := do
  let filter ← Filter.compile filter
  return (← s.documents name).filter (filter.accepts ·)

/-- What a pipeline makes of a collection. -/
def aggregate (s : Store) (name : String) (stages : List Document) :
    Except StoreError (List Document) := do
  let pipeline ← Pipeline.compile stages
  return pipeline.run (← s.documents name)

/-- How a pipeline would run on a collection. -/
def explain (s : Store) (name : String) (stages : List Document) :
    Except StoreError Document := do
  let pipeline ← Pipeline.compile stages
  return pipeline.explain name stages (← s.indexes name)

end Store

end QuerySets
