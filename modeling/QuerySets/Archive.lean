import QuerySets.Engine

/-!
The kept data of an engine as one JSON value. Only what is held as records is
kept; an engine that holds its data in memory leaves nothing.
-/

namespace QuerySets.Archive

mutual
/-- A record in a form that reading the archive again does not change: a float stands as the
text of its bits, and texts are marked to be told apart from it. -/
def pack : Json → Json
  | .number (.float x) => .string (String.ofList ('f' :: Text.Numeral.ofNat x.toBits.toNat))
  | .string s => .string (String.ofList ('s' :: s.toList))
  | .array items => .array (packItems items)
  | .object ⟨members⟩ => .object ⟨packMembers members⟩
  | j => j

def packItems : List Json → List Json
  | [] => []
  | item :: rest => pack item :: packItems rest

def packMembers : List (String × Json) → List (String × Json)
  | [] => []
  | (key, item) :: rest => (key, pack item) :: packMembers rest
end

/-- The text or the float that a mark tells. -/
def unpackText (s : String) : Json :=
  match s.toList with
  | 'f' :: bits =>
    match Text.Numeral.word? bits with
    | some n => .number (.float (Float.ofBits n.toUInt64))
    | none => .null
  | _ :: text => .string (String.ofList text)
  | [] => .null

mutual
/-- The record that has been packed. -/
def unpack : Json → Json
  | .string s => unpackText s
  | .array items => .array (unpackItems items)
  | .object ⟨members⟩ => .object ⟨unpackMembers members⟩
  | j => j

def unpackItems : List Json → List Json
  | [] => []
  | item :: rest => unpack item :: unpackItems rest

def unpackMembers : List (String × Json) → List (String × Json)
  | [] => []
  | (key, item) :: rest => (key, unpack item) :: unpackMembers rest
end

/-- A record under its key. -/
structure Entry where
  key : String
  record : Json

/-- The records of a collection. -/
structure CollectionEntry where
  name : String
  records : List Entry

/-- A record of an earlier version under its place in the history. -/
structure PastEntry where
  place : String
  key : String
  deleted : Bool
  record : Json

/-- The definitions of one kind. -/
structure Definitions where
  current : List Entry
  past : List PastEntry
  count : Nat

structure Contents where
  collections : List CollectionEntry
  count : Nat
  indexes : List Entry
  sets : Definitions
  patterns : Definitions
  scripts : Definitions
  masks : Definitions

namespace Entry

def members : List (Json.Reader.Member Entry) :=
  [.of "key" true .string fun key e => { e with key },
   .of "record" true .json fun record e => { e with record := unpack record }]

def reader : Json.Reader Entry := .record "an entry" members ⟨"", .null⟩

def toJson (e : Entry) : Json := .record [("key", .string e.key), ("record", pack e.record)]

end Entry

namespace CollectionEntry

def members : List (Json.Reader.Member CollectionEntry) :=
  [.of "name" true .string fun name e => { e with name },
   .of "records" true (.list Entry.reader) fun records e => { e with records }]

def reader : Json.Reader CollectionEntry := .record "a collection" members ⟨"", []⟩

def toJson (e : CollectionEntry) : Json :=
  .record [("name", .string e.name), ("records", .array (e.records.map (·.toJson)))]

end CollectionEntry

namespace PastEntry

def members : List (Json.Reader.Member PastEntry) :=
  [.of "place" true .string fun place e => { e with place },
   .of "key" true .string fun key e => { e with key },
   .of "deleted" true .bool fun deleted e => { e with deleted },
   .of "record" true .json fun record e => { e with record := unpack record }]

def reader : Json.Reader PastEntry := .record "an earlier entry" members ⟨"", "", false, .null⟩

def toJson (e : PastEntry) : Json :=
  .record [("place", .string e.place), ("key", .string e.key), ("deleted", .bool e.deleted),
    ("record", pack e.record)]

end PastEntry

def entriesOf (t : Tree Json) : List Entry :=
  t.entries.map fun (key, record) => ⟨String.ofList key, record⟩

def treeOf (entries : List Entry) : Tree Json := ⟨entries.map fun e => (e.key.toList, e.record)⟩

namespace Definitions

def empty : Definitions := ⟨[], [], 0⟩

def members : List (Json.Reader.Member Definitions) :=
  [.of "current" true (.list Entry.reader) fun current d => { d with current },
   .of "past" true (.list PastEntry.reader) fun past d => { d with past },
   .of "count" true .word fun count d => { d with count }]

def reader : Json.Reader Definitions := .record "definitions" members empty

def toJson (d : Definitions) : Json :=
  .record [("current", .array (d.current.map (·.toJson))),
    ("past", .array (d.past.map (·.toJson))), ("count", .int d.count)]

def pastOf (t : Tree HistoryRecord) : List PastEntry :=
  t.entries.map fun (place, r) =>
    ⟨String.ofList place, r.key, r.action = .deleted, r.definition⟩

def pastTree (entries : List PastEntry) : Tree HistoryRecord :=
  ⟨entries.map fun e =>
    (e.place.toList, ⟨e.key, if e.deleted then .deleted else .updated, e.record⟩)⟩

/-- What a store of definitions keeps. -/
def ofStore {α : Type} (s : DefinitionStore α) : Definitions :=
  match s with
  | .memory _ => empty
  | .persistent s => ⟨entriesOf s.current, pastOf s.past, s.count⟩

def toStore {α : Type} (d : Definitions) : DefinitionStore α :=
  .persistent ⟨treeOf d.current, pastTree d.past, d.count⟩

end Definitions

namespace Contents

def empty : Contents := ⟨[], 0, [], .empty, .empty, .empty, .empty⟩

def members : List (Json.Reader.Member Contents) :=
  [.of "collections" true (.list CollectionEntry.reader) fun collections c =>
     { c with collections },
   .of "count" true .word fun count c => { c with count },
   .of "indexes" true (.list Entry.reader) fun indexes c => { c with indexes },
   .of "sets" true Definitions.reader fun sets c => { c with sets },
   .of "patterns" true Definitions.reader fun patterns c => { c with patterns },
   .of "scripts" true Definitions.reader fun scripts c => { c with scripts },
   .of "masks" true Definitions.reader fun masks c => { c with masks }]

def reader : Json.Reader Contents := .record "contents" members empty

def toJson (c : Contents) : Json :=
  .record [("collections", .array (c.collections.map (·.toJson))), ("count", .int c.count),
    ("indexes", .array (c.indexes.map (·.toJson))), ("sets", c.sets.toJson),
    ("patterns", c.patterns.toJson), ("scripts", c.scripts.toJson), ("masks", c.masks.toJson)]

/-- What an engine keeps. -/
def ofEngine (e : Engine) : Contents :=
  let definitions : Contents :=
    { empty with
      sets := .ofStore e.registry.sets
      patterns := .ofStore e.registry.patterns
      scripts := .ofStore e.registry.scripts
      masks := .ofStore e.registry.masks }
  match e.store with
  | .memory _ => definitions
  | .persistent s =>
    { definitions with
      collections := s.data.entries.map fun (name, t) => ⟨name, entriesOf t⟩
      count := s.count
      indexes := entriesOf s.indexTree }

def toStore (c : Contents) : Store :=
  .persistent ⟨⟨c.collections.map fun e => (e.name, treeOf e.records)⟩, treeOf c.indexes, c.count⟩

/-- An engine with this data. -/
def toEngine (c : Contents) (config : Config) : Engine :=
  let e := Engine.persistent config
  { e with
    store := c.toStore
    registry := { e.registry with
      sets := c.sets.toStore
      patterns := c.patterns.toStore
      scripts := c.scripts.toStore
      masks := c.masks.toStore } }

end Contents

/-- The containers that lie around a record. -/
def frameDepth : Nat := 8

/-- The text that an engine is kept as. -/
def write (e : Engine) : String := (Contents.ofEngine e).toJson.compact

/-- The engine that a text keeps. -/
def read? (config : Config) (text : String) : Option Engine :=
  let (draft, trailing) := Json.Draft.ofText text
  match Contents.reader (Json.depthLimit + frameDepth) draft, trailing with
  | .ok contents, false => some (contents.toEngine config)
  | _, _ => none

end QuerySets.Archive
