import QuerySets.Definition.Basic
import QuerySets.Text.Blank

/-!
Patterns with names, which the values of parameters have to match.
-/

namespace QuerySets

structure NamedPattern where
  name : String
  desc : String
  expr : String

namespace NamedPattern

def blank : NamedPattern := ⟨"", "", ""⟩

def members : List (Json.Reader.Member NamedPattern) :=
  [.of "name" true .string fun name p => { p with name },
   .of "desc" false .string fun desc p => { p with desc },
   .of "expr" true .string fun expr p => { p with expr }]

def reader : Json.Reader NamedPattern := .record "struct Regex" members blank

def toJson (p : NamedPattern) : Json :=
  .record [("name", .string p.name), ("desc", .string p.desc), ("expr", .string p.expr)]

def compile (p : NamedPattern) : Except DefinitionError Pattern :=
  match Pattern.read Pattern.Flags.default p.expr with
  | .ok pattern => .ok pattern
  | .error e => .error (.badPattern p.name e)

def validate (p : NamedPattern) : Except DefinitionError Unit :=
  if Text.isBlankText p.name then .error (.invalid "regex" .patternWithoutName)
  else if p.expr.isEmpty then .error (.invalid "regex" (.emptyPattern p.name))
  else p.compile.map fun _ => ()

instance : Definition NamedPattern where
  kind := "regex"
  collection := "query_regexs"
  key := name
  validate := validate
  toJson := toJson
  reader := reader

end NamedPattern

end QuerySets
