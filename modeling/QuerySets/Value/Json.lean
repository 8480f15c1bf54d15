import QuerySets.Json.Reader
import QuerySets.Text.Quoted
import QuerySets.Time.Rfc3339
import QuerySets.Value

/-!
Values as JSON. Kinds that JSON has no notation for are wrapped in an object:
dates as `$date`, identifiers as `$oid`, patterns as `$regex` with `$options`. An
object of such a shape whose content does not fit is read as a plain document.
-/

namespace QuerySets

open Time

namespace Value

/-- The value that an object with these members wraps, if it wraps one. -/
def unwrap? : List (String × Json) → Option Value
  | [(key, .string s)] =>
    if key = "$date" then (Instant.readRfc3339? s).map date
    else if key = "$oid" then (ObjectId.ofHex? s).map objectId
    else none
  | [(key, .number (.whole n))] =>
    if key = "$date" then (Instant.ofMillis? n).map date else none
  | [(key, .string s), (other, .string t)] =>
    if key = "$regex" ∧ other = "$options" then some (regex s t)
    else if key = "$options" ∧ other = "$regex" then some (regex t s)
    else none
  | _ => none

/-- Whole numbers of more than 64 bits with the sign are read as floats. -/
def ofNumber : Json.Number → Value
  | .whole n => if n ≤ Int64.maxValue.toInt then int (Int64.ofInt n) else float (Float.ofInt n)
  | .float x => float x

mutual
def ofJson : Json → Value
  | .null => null
  | .bool b => bool b
  | .number n => ofNumber n
  | .string s => string s
  | .array items => array (ofItems items)
  | .object ⟨members⟩ =>
    match unwrap? members with
    | some v => v
    | none => document ⟨ofMembers members⟩

def ofItems : List Json → List Value
  | [] => []
  | item :: rest => ofJson item :: ofItems rest

def ofMembers : List (String × Json) → List (String × Value)
  | [] => []
  | (key, item) :: rest => (key, ofJson item) :: ofMembers rest
end

/-- Floats that are not finite have no notation and become null. -/
def ofFloat (x : Float) : Json :=
  if (Decimal.Dyadic.ofFloat? x).isSome then .number (.float x) else .null

mutual
def toJson : Value → Json
  | null => .null
  | bool b => .bool b
  | int n => .number (.whole n.toInt)
  | float x => ofFloat x
  | string s => .string s
  | date instant => .record [("$date", .string instant.writeRfc3339)]
  | objectId id => .record [("$oid", .string id.toHex)]
  | regex pattern options =>
    .record [("$regex", .string pattern), ("$options", .string options)]
  | array items => .array (toItems items)
  | document ⟨entries⟩ => .object ⟨toMembers entries⟩

def toItems : List Value → List Json
  | [] => []
  | v :: rest => toJson v :: toItems rest

def toMembers : List (String × Value) → List (String × Json)
  | [] => []
  | (key, v) :: rest => (key, toJson v) :: toMembers rest
end

/-- The value as compact JSON text. -/
def text (v : Value) : String := v.toJson.compact

end Value

/-- A JSON text that is not what it should be: no JSON, or no object where one is
expected. -/
inductive DocumentError
  | malformed
  | notAnObject (kind : String)

def DocumentError.message : DocumentError → String
  | malformed => "invalid json"
  | notAnObject kind => s!"expected a json object, got {kind}"

namespace Document

def toJson (d : Document) : Json := (Value.document d).toJson

def text (d : Document) : String := d.toJson.compact

def ofValue : Value → Except DocumentError Document
  | .document d => .ok d
  | v => .error (.notAnObject v.kind)

/-- Reads a text that holds one document. -/
def ofText (text : String) : Except DocumentError Document :=
  match Json.ofText? text with
  | some j => ofValue (Value.ofJson j)
  | none => .error .malformed

/-- Reads a text that holds documents in an array, or one document. -/
def listOfText (text : String) : Except DocumentError (List Document) :=
  match (Json.ofText? text).map Value.ofJson with
  | some (.array items) => items.mapM ofValue
  | some v => (ofValue v).map ([·])
  | none => .error .malformed

/-- Reads a member that holds a document. -/
def reader : Json.Reader Document := fun room draft => do
  match Value.ofJson (← Json.Reader.json room draft) with
  | .document d => .ok d
  | v => .error (.refused ("expected a document, got " ++ v.kind))

end Document

end QuerySets
