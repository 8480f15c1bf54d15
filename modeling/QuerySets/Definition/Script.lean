import QuerySets.Definition.Basic
import QuerySets.Text.Blank
import QuerySets.Value.Json

/-!
Scripts: commands that are run before or after the queries of a set.
-/

namespace QuerySets

structure Script where
  name : String
  desc : String
  commands : List Document

namespace Script

def blank : Script := ⟨"", "", []⟩

def members : List (Json.Reader.Member Script) :=
  [.of "name" true .string fun name s => { s with name },
   .of "desc" false .string fun desc s => { s with desc },
   .of "commands" false (.list Document.reader) fun commands s => { s with commands }]

def reader : Json.Reader Script := .record "struct Script" members blank

def toJson (s : Script) : Json :=
  .record [("name", .string s.name), ("desc", .string s.desc),
    ("commands", .array (s.commands.map (·.toJson)))]

def validate (s : Script) : Except DefinitionError Unit :=
  if Text.isBlankText s.name then .error (.invalid "script" .scriptWithoutName)
  else if s.commands.isEmpty then .error (.invalid "script" (.scriptWithoutCommands s.name))
  else .ok ()

instance : Definition Script where
  kind := "script"
  collection := "query_scripts"
  key := name
  validate := validate
  toJson := toJson
  reader := reader

end Script

end QuerySets
