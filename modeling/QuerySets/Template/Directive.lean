import QuerySets.Template.Error
import QuerySets.Text.Numeral
import QuerySets.Text.Split

/-!
Directives: strings of the form `#kind:payload` that stand for a value. Those of
the kind `data` have a selector between the kind and the colon, which tells which
of the saved documents are meant. Any other string is plain text.
-/

namespace QuerySets

inductive Selector
  | index (n : Nat)
  | all
deriving DecidableEq

inductive Directive
  | string (name : String)
  | number (payload : String)
  | date (payload : String)
  | objectId (payload : String)
  | pattern (payload : String)
  | time (payload : String)
  | data (selector : Selector) (key : String) (path : Option String)
deriving DecidableEq

namespace Directive

/-- The directive of a kind that has no selector. -/
def plain? (kind : String) (payload : String) : Option Directive :=
  match kind with
  | "string" => some (string payload)
  | "number" => some (number payload)
  | "date" => some (date payload)
  | "objid" => some (objectId payload)
  | "regex" => some (pattern payload)
  | "time" => some (time payload)
  | _ => none

/-- The selector behind the point; `raw` is the whole directive. -/
def selector (raw : String) (cs : List Char) : Except TemplateError Selector :=
  match cs with
  | [] => .error (.missingSelector raw)
  | ['*'] => .ok .all
  | _ =>
    match Text.Numeral.word? cs with
    | some n => .ok (.index n)
    | none => .error (.badSelector raw (String.ofList cs))

/-- A key and, after the first point, a path that is not empty. -/
def source (payload : List Char) : String × Option String :=
  match Text.cutFirst? '.' payload with
  | none => (String.ofList payload, none)
  | some (key, path) =>
    (String.ofList key, if path.isEmpty then none else some (String.ofList path))

def saved (raw : String) (cs payload : List Char) : Except TemplateError Directive :=
  (selector raw cs).map fun selector =>
    let (key, path) := source payload
    data selector key path

/-- The directive that a text is; none if it is plain text. -/
def read? (raw : String) : Option (Except TemplateError Directive) := do
  let body ← Text.dropStart? ['#'] raw.toList
  let (kind, payload) ← Text.cutFirst? ':' body
  match plain? (String.ofList kind) (String.ofList payload) with
  | some directive => return .ok directive
  | none =>
    match ← Text.dropStart? "data".toList kind with
    | [] => return .error (.missingSelector raw)
    | '.' :: cs => return saved raw cs payload
    | _ => none

end Directive

end QuerySets
