import QuerySets.Decimal.Dyadic
import QuerySets.Fields
import QuerySets.ObjectId
import QuerySets.Time.Instant

/-!
Values of documents. A document is a record of named values in a fixed order;
stored records, pipeline stages and results are all documents.
-/

namespace QuerySets

open Time

inductive Value
  | null
  | bool (b : Bool)
  | int (n : Int64)
  | float (x : Float)
  | string (s : String)
  | date (instant : Instant)
  | objectId (id : ObjectId)
  /-- A pattern with its option letters. -/
  | regex (pattern options : String)
  | array (items : List Value)
  | document (fields : Fields Value)

abbrev Document := Fields Value

namespace Value

/-- The name of the kind of value in messages. -/
def kind : Value → String
  | null => "null"
  | bool _ => "bool"
  | int _ => "int"
  | float _ => "double"
  | string _ => "string"
  | date _ => "date"
  | objectId _ => "objectId"
  | regex _ _ => "regex"
  | array _ => "array"
  | document _ => "object"

def isNull : Value → Bool
  | null => true
  | _ => false

def isNumber : Value → Bool
  | int _ | float _ => true
  | _ => false

/-- False are null, `false` and the numbers zero. -/
def isTruthy : Value → Bool
  | null => false
  | bool b => b
  | int n => n ≠ 0
  | float x => x != 0
  | _ => true

def string? : Value → Option String
  | string s => some s
  | _ => none

def bool? : Value → Option Bool
  | bool b => some b
  | _ => none

def array? : Value → Option (List Value)
  | array items => some items
  | _ => none

def document? : Value → Option Document
  | document d => some d
  | _ => none

/-- A number as a float; whole numbers are rounded to the nearest one. -/
def float? : Value → Option Float
  | int n => some (Float.ofInt n.toInt)
  | float x => some x
  | _ => none

/-- A number without a fraction as a whole number, the nearest one that fits in 64 bits. -/
def int? : Value → Option Int64
  | int n => some n
  | float x => ((Decimal.Dyadic.ofFloat? x).bind (·.toInt?)).map Int64.ofIntClamp
  | _ => none

end Value

end QuerySets
