import QuerySets.Json.Reread
import QuerySets.Store.IdSupply
import QuerySets.Store.Index
import QuerySets.Store.Tree

/-!
Collections kept as JSON records. Each collection has a tree with the records of
its documents under growing counts, so that they stand in the order in which they
came. The indexes of all collections share one tree, under the name of the
collection, a zero character and the name of the index. A record is held as the
value that its text was written from; what is read back is what its text is read
as.
-/

namespace QuerySets

structure PersistentStore where
  data : Fields (Tree Json)
  indexTree : Tree Json
  /-- The count under which the next record is kept. -/
  count : Nat

namespace PersistentStore

def empty : PersistentStore := ⟨Fields.empty, Tree.empty, 0⟩

/-- The document of a record. A record nested too deeply cannot be read. -/
def decodeDocument (record : Json) : Except StoreError Document :=
  if Json.depthLimit < record.depth then .error (.unreadable record.excessMessage)
  else
    match Value.ofJson record.reread with
    | .document d => .ok d
    | v => .error (.unreadable ("expected a document, got " ++ v.kind))

def decodeIndex (record : Json) : Except StoreError Index :=
  match Index.reader.ofJson record with
  | .ok i => .ok i
  | .error e => .error (.unreadable e.message)

/-- Where the keys of the indexes of a collection start. -/
def indexStart (name : String) : List Char := name.toList ++ ['\x00']

def documents (s : PersistentStore) (name : String) : Except StoreError (List Document) :=
  match s.data.get? name with
  | none => .ok []
  | some t => t.values.mapM decodeDocument

def indexes (s : PersistentStore) (name : String) : Except StoreError (List Index) :=
  (s.indexTree.scan (indexStart name)).mapM decodeIndex

/-- Keeps records under the counts from `count` on. -/
def keepRecords (t : Tree Json) (count : Nat) : List Json → Tree Json
  | [] => t
  | record :: rest => keepRecords (t.insert (Tree.countKey count) record) (count + 1) rest

/-- Appends documents, all of them or none. -/
def insert (s : PersistentStore) (ids : IdSupply) (name : String) (docs : List Document) :
    Except StoreError (PersistentStore × IdSupply) := do
  let (ids, docs) := ids.assign docs
  let indexes ← s.indexes name
  if indexes.any (·.unique) then
    Index.checkUnique name indexes (← s.documents name) docs
  let t := keepRecords ((s.data.get? name).getD Tree.empty) s.count (docs.map (·.toJson))
  return ({ s with data := s.data.insert name t, count := s.count + docs.length }, ids)

/-- Declares an index, unless there is one of its name. -/
def ensureIndex (s : PersistentStore) (name : String) (i : Index) :
    Except StoreError PersistentStore := do
  let key := indexStart name ++ i.name.toList
  if s.indexTree.contains key then return s
  Index.checkUnique name [i] [] (← s.documents name)
  return { s with indexTree := s.indexTree.insert key i.toJson }

def drop (s : PersistentStore) (name : String) : PersistentStore :=
  { s with data := s.data.erase name, indexTree := s.indexTree.eraseAll (indexStart name) }

def names (s : PersistentStore) : List String := s.data.keys

end PersistentStore

end QuerySets
