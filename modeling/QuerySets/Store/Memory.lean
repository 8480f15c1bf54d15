import QuerySets.Store.IdSupply
import QuerySets.Store.Index

/-!
Collections held in memory. A write that a unique index refuses leaves everything
as it was.
-/

namespace QuerySets

structure Collection where
  documents : List Document
  indexes : List Index

def Collection.empty : Collection := ⟨[], []⟩

structure MemoryStore where
  collections : Fields Collection

namespace MemoryStore

def empty : MemoryStore := ⟨Fields.empty⟩

def collection (s : MemoryStore) (name : String) : Collection :=
  (s.collections.get? name).getD Collection.empty

def documents (s : MemoryStore) (name : String) : List Document := (s.collection name).documents

def indexes (s : MemoryStore) (name : String) : List Index := (s.collection name).indexes

def put (s : MemoryStore) (name : String) (c : Collection) : MemoryStore :=
  ⟨s.collections.insert name c⟩

/-- Appends documents, all of them or none. -/
def insert (s : MemoryStore) (ids : IdSupply) (name : String) (docs : List Document) :
    Except StoreError (MemoryStore × IdSupply) := do
  let (ids, docs) := ids.assign docs
  let c := s.collection name
  Index.checkUnique name c.indexes c.documents docs
  return (s.put name { c with documents := c.documents ++ docs }, ids)

/-- Declares an index, unless there is one of its name. -/
def ensureIndex (s : MemoryStore) (name : String) (i : Index) :
    Except StoreError MemoryStore := do
  let c := s.collection name
  if c.indexes.any (·.name == i.name) then return s
  Index.checkUnique name [i] [] c.documents
  return s.put name { c with indexes := c.indexes ++ [i] }

def drop (s : MemoryStore) (name : String) : MemoryStore := ⟨s.collections.erase name⟩

def names (s : MemoryStore) : List String := s.collections.keys

end MemoryStore

end QuerySets
