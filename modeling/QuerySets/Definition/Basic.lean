import QuerySets.Json.Reader
import QuerySets.Pattern.Read

/-!
What all kinds of stored definitions have in common: a key, a check that is made
before one is stored, and a JSON form.
-/

namespace QuerySets

/-- Why a definition is refused. -/
inductive DefinitionFault
  | setWithoutName
  | setWithoutQueries (set : String)
  | paramWithoutName (set : String)
  | queryWithoutName (position : Nat)
  | queryWithoutCollection (query : String)
  | unsupportedType (query type : String)
  | queryWithoutCommands (query : String)
  | patternWithoutName
  | emptyPattern (pattern : String)
  | scriptWithoutName
  | scriptWithoutCommands (script : String)
  | maskWithoutCollection
  | maskWithoutField

def DefinitionFault.message : DefinitionFault → String
  | setWithoutName => "set name is required"
  | setWithoutQueries set => s!"set {set} needs at least one query"
  | paramWithoutName set => s!"set {set} has a param without a name"
  | queryWithoutName position => s!"query {position} has no name"
  | queryWithoutCollection query => s!"query {query} has no collection"
  | unsupportedType query type => s!"query {query} has unsupported type {type}"
  | queryWithoutCommands query => s!"query {query} has no commands"
  | patternWithoutName => "regex name is required"
  | emptyPattern pattern => s!"regex {pattern} has an empty expression"
  | scriptWithoutName => "script name is required"
  | scriptWithoutCommands script => s!"script {script} has no commands"
  | maskWithoutCollection => "mask collection is required"
  | maskWithoutField => "mask field is required"

inductive DefinitionError
  | notFound (kind key : String)
  | invalid (kind : String) (fault : DefinitionFault)
  | badPattern (name : String) (error : Pattern.ReadError)
  /-- A stored definition that cannot be read back. -/
  | unreadable (error : Json.ReadError)

def DefinitionError.message : DefinitionError → String
  | notFound kind key => s!"{kind} {key} not found"
  | invalid kind fault => s!"invalid {kind}: " ++ fault.message
  | badPattern name error => s!"regex {name} does not compile: " ++ error.message
  | unreadable error => "definition serialization error: " ++ error.message

/-- A kind of definition: its name in messages, the name of its collection, and
how its definitions are identified, checked, written and read. -/
class Definition (α : Type) where
  kind : String
  collection : String
  key : α → String
  validate : α → Except DefinitionError Unit
  toJson : α → Json
  reader : Json.Reader α

end QuerySets
