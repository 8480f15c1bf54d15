import QuerySets.Definition.Basic
import QuerySets.Store.Index
import QuerySets.Text.Blank

/-!
Query sets: queries that are run one after the other, with declared parameters.
-/

namespace QuerySets

/-- A parameter with its default and the named pattern that its value must match. -/
structure Param where
  name : String
  desc : String
  default : String
  pattern : String

/-- A pipeline over a collection. Its documents are part of the result if it
returns them; an error does not stop the set if the query lets it continue. -/
structure Query where
  name : String
  desc : String
  type : String
  collection : String
  returns : Bool
  continues : Bool
  commands : List Document
  indexes : List Index

structure QuerySet where
  name : String
  desc : String
  enabled : Bool
  explain : Bool
  preScript : String
  postScript : String
  params : List Param
  queries : List Query

namespace Param

def blank : Param := ⟨"", "", "", ""⟩

def members : List (Json.Reader.Member Param) :=
  [.of "name" true .string fun name p => { p with name },
   .of "desc" false .string fun desc p => { p with desc },
   .of "default" false .string fun default p => { p with default },
   .of "regex_name" false .string fun pattern p => { p with pattern }]

def reader : Json.Reader Param := .record "struct Param" members blank

def toJson (p : Param) : Json :=
  .record [("name", .string p.name), ("desc", .string p.desc), ("default", .string p.default),
    ("regex_name", .string p.pattern)]

end Param

namespace Query

/-- The only type of query there is. -/
def pipelineType : String := "pipeline"

def isPipeline (q : Query) : Bool := q.type == pipelineType

def blank : Query := ⟨"", "", pipelineType, "", false, false, [], []⟩

def members : List (Json.Reader.Member Query) :=
  [.of "name" true .string fun name q => { q with name },
   .of "desc" false .string fun desc q => { q with desc },
   .of "type" false .string fun type q => { q with type },
   .of "collection" false .string fun collection q => { q with collection },
   .of "return" false .bool fun returns q => { q with returns },
   .of "continue" false .bool fun continues q => { q with continues },
   .of "commands" false (.list Document.reader) fun commands q => { q with commands },
   .of "indexes" false (.list Index.reader) fun indexes q => { q with indexes }]

def reader : Json.Reader Query := .record "struct Query" members blank

def toJson (q : Query) : Json :=
  .record [("name", .string q.name), ("desc", .string q.desc), ("type", .string q.type),
    ("collection", .string q.collection), ("return", .bool q.returns),
    ("continue", .bool q.continues), ("commands", .array (q.commands.map (·.toJson))),
    ("indexes", .array (q.indexes.map (·.toJson)))]

/-- What is wrong with the query at a position of a set. -/
def fault? (position : Nat) (q : Query) : Option DefinitionFault :=
  if Text.isBlankText q.name then some (.queryWithoutName position)
  else if Text.isBlankText q.collection then some (.queryWithoutCollection q.name)
  else if !q.isPipeline then some (.unsupportedType q.name q.type)
  else if q.commands.isEmpty then some (.queryWithoutCommands q.name)
  else none

/-- What is wrong with the first faulty one of the queries from a position on. -/
def faultFrom? (position : Nat) : List Query → Option DefinitionFault
  | [] => none
  | q :: rest => (q.fault? position) <|> faultFrom? (position + 1) rest

end Query

namespace QuerySet

def blank : QuerySet := ⟨"", "", false, false, "", "", [], []⟩

def members : List (Json.Reader.Member QuerySet) :=
  [.of "name" true .string fun name s => { s with name },
   .of "desc" false .string fun desc s => { s with desc },
   .of "enabled" false .bool fun enabled s => { s with enabled },
   .of "explain" false .bool fun explain s => { s with explain },
   .of "pre_script" false .string fun preScript s => { s with preScript },
   .of "pst_script" false .string fun postScript s => { s with postScript },
   .of "params" false (.list Param.reader) fun params s => { s with params },
   .of "queries" false (.list Query.reader) fun queries s => { s with queries }]

def reader : Json.Reader QuerySet := .record "struct Set" members blank

def toJson (s : QuerySet) : Json :=
  .record [("name", .string s.name), ("desc", .string s.desc), ("enabled", .bool s.enabled),
    ("explain", .bool s.explain), ("pre_script", .string s.preScript),
    ("pst_script", .string s.postScript), ("params", .array (s.params.map (·.toJson))),
    ("queries", .array (s.queries.map (·.toJson)))]

def fault? (s : QuerySet) : Option DefinitionFault :=
  if Text.isBlankText s.name then some .setWithoutName
  else if s.queries.isEmpty then some (.setWithoutQueries s.name)
  else if s.params.any (Text.isBlankText ·.name) then some (.paramWithoutName s.name)
  else Query.faultFrom? 0 s.queries

instance : Definition QuerySet where
  kind := "set"
  collection := "query_sets"
  key := name
  validate s :=
    match s.fault? with
    | some fault => .error (.invalid "set" fault)
    | none => .ok ()
  toJson := toJson
  reader := reader

end QuerySet

end QuerySets
