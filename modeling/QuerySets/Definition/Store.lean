import QuerySets.Definition.Basic
import QuerySets.Json.Reread
import QuerySets.Store.Tree

/-!
Stores of definitions. A definition that is replaced or deleted is kept in the
history of its key. One store holds the definitions themselves; the other holds
their JSON records, the history under the key, a zero character and a count.
-/

namespace QuerySets

/-- What became of an earlier version. -/
inductive HistoryAction
  | updated
  | deleted
deriving DecidableEq

def HistoryAction.toString : HistoryAction → String
  | updated => "updated"
  | deleted => "deleted"

structure HistoryEntry (α : Type) where
  key : String
  action : HistoryAction
  definition : α

namespace HistoryEntry

variable {α : Type} [Definition α]

def toJson (e : HistoryEntry α) : Json :=
  .record [("key", .string e.key), ("action", .string e.action.toString),
    ("definition", Definition.toJson e.definition)]

end HistoryEntry

/-- Definitions held as they are. -/
structure MemoryDefinitions (α : Type) where
  current : Tree α
  past : List (HistoryEntry α)

namespace MemoryDefinitions

variable {α : Type}

def empty : MemoryDefinitions α := ⟨Tree.empty, []⟩

variable [Definition α]

def get (s : MemoryDefinitions α) (key : String) : Except DefinitionError α :=
  match s.current.get? key.toList with
  | some d => .ok d
  | none => .error (.notFound (Definition.kind α) key)

/-- All definitions in the order of their keys. -/
def list (s : MemoryDefinitions α) : List α := s.current.values

/-- Keeps the version of a key that is about to go. -/
def record (s : MemoryDefinitions α) (key : String) (action : HistoryAction) :
    List (HistoryEntry α) :=
  match s.current.get? key.toList with
  | some d => s.past ++ [⟨key, action, d⟩]
  | none => s.past

def upsert (s : MemoryDefinitions α) (d : α) : Except DefinitionError (MemoryDefinitions α) := do
  Definition.validate d
  let key := Definition.key d
  return ⟨s.current.insert key.toList d, s.record key .updated⟩

def delete (s : MemoryDefinitions α) (key : String) :
    Except DefinitionError (MemoryDefinitions α) := do
  let _ ← s.get key
  return ⟨s.current.erase key.toList, s.record key .deleted⟩

/-- Earlier versions of a key, the oldest first. -/
def history (s : MemoryDefinitions α) (key : String) : List (HistoryEntry α) :=
  s.past.filter (·.key == key)

end MemoryDefinitions

/-- A record of an earlier version. -/
structure HistoryRecord where
  key : String
  action : HistoryAction
  definition : Json

/-- Definitions kept as JSON records. -/
structure PersistentDefinitions where
  current : Tree Json
  past : Tree HistoryRecord
  count : Nat

namespace PersistentDefinitions

def empty : PersistentDefinitions := ⟨Tree.empty, Tree.empty, 0⟩

variable (α : Type) [Definition α]

/-- Reads a record that lies `outer` containers deep in its text. -/
def decodeInside (outer : Nat) (record : Json) : Except DefinitionError α :=
  match Definition.reader (Json.depthLimit - outer) (Json.Draft.ofJson record.reread) with
  | .ok d => .ok d
  | .error e => .error (.unreadable e)

def decode (record : Json) : Except DefinitionError α := decodeInside α 0 record

/-- A record of history holds its definition one container further in. -/
def decodeHistory (r : HistoryRecord) : Except DefinitionError (HistoryEntry α) :=
  (decodeInside α 1 r.definition).map fun d => ⟨r.key, r.action, d⟩

def get (s : PersistentDefinitions) (key : String) : Except DefinitionError α :=
  match s.current.get? key.toList with
  | some record => decode α record
  | none => .error (.notFound (Definition.kind α) key)

/-- All definitions in the order of their keys. -/
def list (s : PersistentDefinitions) : Except DefinitionError (List α) :=
  s.current.values.mapM (decode α)

variable {α}

def historyStart (key : String) : List Char := key.toList ++ ['\x00']

/-- Keeps a record of a version that goes. -/
def keep (s : PersistentDefinitions) (key : String) (action : HistoryAction) (record : Json) :
    PersistentDefinitions :=
  { s with
    past := s.past.insert (historyStart key ++ Tree.countKey s.count) ⟨key, action, record⟩
    count := s.count + 1 }

def upsert (s : PersistentDefinitions) (d : α) : Except DefinitionError PersistentDefinitions := do
  Definition.validate d
  let key := Definition.key d
  let written := { s with current := s.current.insert key.toList (Definition.toJson d) }
  match s.current.get? key.toList with
  | none => return written
  | some record => return written.keep key .updated record

variable (α)

def delete (s : PersistentDefinitions) (key : String) :
    Except DefinitionError PersistentDefinitions :=
  match s.current.get? key.toList with
  | none => .error (.notFound (Definition.kind α) key)
  | some record =>
    .ok ({ s with current := s.current.erase key.toList }.keep key .deleted record)

/-- Earlier versions of a key, the oldest first. -/
def history (s : PersistentDefinitions) (key : String) :
    Except DefinitionError (List (HistoryEntry α)) :=
  (s.past.scan (historyStart key)).mapM (decodeHistory α)

end PersistentDefinitions

/-- A store of either kind. -/
inductive DefinitionStore (α : Type)
  | memory (s : MemoryDefinitions α)
  | persistent (s : PersistentDefinitions)

namespace DefinitionStore

variable {α : Type} [Definition α]

def get (s : DefinitionStore α) (key : String) : Except DefinitionError α :=
  match s with
  | memory s => s.get key
  | persistent s => s.get α key

def list (s : DefinitionStore α) : Except DefinitionError (List α) :=
  match s with
  | memory s => .ok s.list
  | persistent s => s.list α

def upsert (s : DefinitionStore α) (d : α) : Except DefinitionError (DefinitionStore α) :=
  match s with
  | memory s => (s.upsert d).map memory
  | persistent s => (s.upsert d).map persistent

def delete (s : DefinitionStore α) (key : String) : Except DefinitionError (DefinitionStore α) :=
  match s with
  | memory s => (s.delete key).map memory
  | persistent s => (s.delete α key).map persistent

def history (s : DefinitionStore α) (key : String) :
    Except DefinitionError (List (HistoryEntry α)) :=
  match s with
  | memory s => .ok (s.history key)
  | persistent s => s.history α key

end DefinitionStore

end QuerySets
