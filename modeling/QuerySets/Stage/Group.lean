import QuerySets.Expression
import QuerySets.Store.Error

/-!
Grouping. Documents with equal keys form a group, and groups stand in the order
of their first documents. Each further field of a group accumulates the values of
an expression over its documents.
-/

namespace QuerySets

inductive Accumulator
  | sum
  | avg
  | min
  | max
  | first
  | last
  | push
  | addToSet
deriving DecidableEq

namespace Accumulator

def ofName? (name : String) : Option Accumulator :=
  match name with
  | "$sum" => some sum
  | "$avg" => some avg
  | "$min" => some min
  | "$max" => some max
  | "$first" => some first
  | "$last" => some last
  | "$push" => some push
  | "$addToSet" => some addToSet
  | _ => none

/-- A total in two parts: whole numbers add up within 64 bits, floats by themselves. -/
structure Total where
  whole : Int64
  part : Float
  hasPart : Bool

def Total.zero : Total := ⟨0, 0, false⟩

/-- Numbers count, other values do not. -/
def Total.add (t : Total) : Value → Total
  | .int n => { t with whole := Int64.ofIntClamp (t.whole.toInt + n.toInt) }
  | .float x => { t with part := t.part + x, hasPart := true }
  | _ => t

def Total.value (t : Total) : Value :=
  if t.hasPart then .float (t.part + Float.ofInt t.whole.toInt) else .int t.whole

def total (values : List Value) : Value := (values.foldl Total.add Total.zero).value

def average (values : List Value) : Value :=
  match values.filterMap Value.float? with
  | [] => .null
  | xs => .float (Expression.sumFloats xs / Float.ofNat xs.length)

/-- The first of the least values. -/
def least : Value → List Value → Value
  | v, [] => v
  | v, w :: rest => least (if v.order w == .gt then w else v) rest

/-- The last of the greatest values. -/
def greatest : Value → List Value → Value
  | v, [] => v
  | v, w :: rest => greatest (if v.order w == .gt then v else w) rest

/-- Each value once, where it was first seen. -/
def distinct (values : List Value) : List Value :=
  values.foldl (fun seen v => if seen.any (·.looseEq v) then seen else seen ++ [v]) []

def present (values : List Value) : List Value := values.filter (!·.isNull)

/-- The accumulated value over the values of a group in their order. -/
def accumulate (a : Accumulator) (values : List Value) : Value :=
  match a with
  | sum => total values
  | avg => average values
  | min =>
    match present values with
    | [] => .null
    | v :: rest => least v rest
  | max =>
    match present values with
    | [] => .null
    | v :: rest => greatest v rest
  | first => values.head?.getD .null
  | last => values.getLast?.getD .null
  | push => .array (present values)
  | addToSet => .array (distinct (present values))

end Accumulator

/-- A field of a group: its name, how it accumulates, and what. -/
structure Group.Field where
  name : String
  accumulator : Accumulator
  expression : Value

structure Group where
  id : Value
  fields : List Group.Field

namespace Group

def field (name : String) (v : Value) : Except StoreError Field :=
  match v.document?.bind (·.single?) with
  | none => .error (.invalidStage "$group" (.needsAccumulator name))
  | some (operator, expression) =>
    match Accumulator.ofName? operator with
    | none => .error (.invalidStage "$group" (.unknownAccumulator operator))
    | some accumulator => .ok ⟨name, accumulator, expression⟩

def compile (specification : Document) : Except StoreError Group :=
  match specification.get? "_id" with
  | none => .error (.invalidStage "$group" .needsId)
  | some id => do
    let entries := specification.entries.filter (·.1 != "_id")
    let fields ← entries.mapM fun (name, v) => field name v
    return ⟨id, fields⟩

/-- A key with the documents that have it. -/
structure Bucket where
  key : Value
  members : List Document

/-- Adds a document to the first bucket of its key, or opens one at the end. -/
def addTo (key : Value) (d : Document) : List Bucket → List Bucket
  | [] => [⟨key, [d]⟩]
  | b :: rest =>
    if b.key.looseEq key then { b with members := b.members ++ [d] } :: rest
    else b :: addTo key d rest

def buckets (g : Group) (docs : List Document) : List Bucket :=
  docs.foldl (fun buckets d => addTo (Expression.evaluate d g.id) d buckets) []

def Field.value (f : Field) (members : List Document) : Value :=
  f.accumulator.accumulate (members.map fun d => Expression.evaluate d f.expression)

/-- The document of one group. -/
def document (g : Group) (b : Bucket) : Document :=
  g.fields.foldl (fun out f => out.insert f.name (f.value b.members))
    (Fields.empty.insert "_id" b.key)

def run (g : Group) (docs : List Document) : List Document :=
  (g.buckets docs).map g.document

end Group

end QuerySets
