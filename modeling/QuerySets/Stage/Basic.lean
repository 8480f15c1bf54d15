import QuerySets.Filter.Compile
import QuerySets.Sorting
import QuerySets.Stage.Group
import QuerySets.Stage.Projection

/-!
Stages of a pipeline. Each one is written as a document with one field, and takes
a list of documents to another.
-/

namespace QuerySets

/-- A path to sort by, and whether small values come first. -/
structure Stage.SortKey where
  path : String
  ascending : Bool

inductive Stage
  | select (filter : Filter)
  | project (projection : Projection)
  | limit (n : Nat)
  | skip (n : Nat)
  | sort (keys : List Stage.SortKey)
  | unwind (path : String) (keepEmpty : Bool)
  | group (group : Group)
  | count (field : String)
  | addFields (fields : Document)

namespace Stage

open Text

def count? (stage : String) (v : Value) : Except StoreError Nat :=
  match v.int? with
  | some n =>
    if 0 ≤ n.toInt then .ok n.toInt.toNat
    else .error (.invalidStage stage (.needsCount v))
  | none => .error (.invalidStage stage (.needsCount v))

/-- A path that is written with a dollar sign in front. -/
def fieldPath (stage : String) (v : Value) : Except StoreError String :=
  match v.string?.bind unmark? with
  | some path =>
    if path.isEmpty then .error (.invalidStage stage (.needsFieldPath v)) else .ok path
  | none => .error (.invalidStage stage (.needsFieldPath v))

def object (stage : String) : Value → Except StoreError Document
  | .document d => .ok d
  | v => .error (.invalidStage stage (.needsObject v.kind))

def sortKey (field : String) (direction : Value) : Except StoreError SortKey :=
  if direction.int? = some 1 then .ok ⟨field, true⟩
  else if direction.int? = some (-1) then .ok ⟨field, false⟩
  else .error (.invalidStage "$sort" (.badDirection field))

def compileSort (specification : Document) : Except StoreError Stage :=
  if specification.isEmpty then .error (.invalidStage "$sort" .needsSortKey)
  else (specification.entries.mapM fun (field, direction) => sortKey field direction).map sort

def compileUnwind : Value → Except StoreError Stage
  | .string path => (fieldPath "$unwind" (.string path)).map (unwind · false)
  | .document options =>
    let keepEmpty := ((options.get? "preserveNullAndEmptyArrays").map Value.isTruthy).getD false
    (fieldPath "$unwind" ((options.get? "path").getD .null)).map (unwind · keepEmpty)
  | v => .error (.invalidStage "$unwind" (.needsStringOrObject v.kind))

def compileCount (v : Value) : Except StoreError Stage :=
  match v with
  | .string field =>
    if field.isEmpty || isMarked field then .error (.invalidStage "$count" .needsFieldName)
    else .ok (count field)
  | _ => .error (.invalidStage "$count" .needsFieldName)

/-- The stage of a name with its specification. -/
def ofSpecification (name : String) (v : Value) : Except StoreError Stage :=
  match name with
  | "$match" => do return select (← Filter.compile (← object name v))
  | "$project" => do return project (← Projection.compile (← object name v))
  | "$limit" => (count? name v).map limit
  | "$skip" => (count? name v).map skip
  | "$sort" => do compileSort (← object name v)
  | "$unwind" => compileUnwind v
  | "$group" => do return group (← Group.compile (← object name v))
  | "$count" => compileCount v
  | "$addFields" => (object name v).map addFields
  | "$set" => (object name v).map addFields
  | _ => .error (.unknownStage name)

def compile (d : Document) : Except StoreError Stage :=
  match d.single? with
  | some (name, v) => ofSpecification name v
  | none => .error (.invalidStage "pipeline" .notSingle)

/-- The value that a document is sorted by; a missing one counts as null. -/
def SortKey.value (k : SortKey) (d : Document) : Value := (d.getPath? k.path).getD .null

def SortKey.order (k : SortKey) (a b : Document) : Ordering :=
  let o := (k.value a).order (k.value b)
  if k.ascending then o else o.swap

/-- Documents compare by the first key that tells them apart. -/
def sortOrder (keys : List SortKey) (a b : Document) : Ordering :=
  match keys with
  | [] => .eq
  | k :: rest => (k.order a b).then (sortOrder rest a b)

/-- One document for each item of an array. Without items there is none, unless
empty fields are kept; any other value stays as it is. -/
def unwindOne (path : String) (keepEmpty : Bool) (d : Document) : List Document :=
  match d.getPath? path with
  | some (.array (item :: items)) => (item :: items).map (d.setPath path)
  | some (.array []) | some .null | none => if keepEmpty then [d] else []
  | some _ => [d]

/-- Writes the fields one after the other; later ones see the earlier ones. -/
def addTo (fields : Document) (d : Document) : Document :=
  fields.entries.foldl (fun out (path, expression) =>
    out.setPath path (Expression.evaluate out expression)) d

def run : Stage → List Document → List Document
  | select filter, docs => docs.filter (filter.accepts ·)
  | project projection, docs => docs.map projection.apply
  | limit n, docs => docs.take n
  | skip n, docs => docs.drop n
  | sort keys, docs => Sorting.stable (fun a b => sortOrder keys a b == .lt) docs
  | unwind path keepEmpty, docs => docs.flatMap (unwindOne path keepEmpty)
  | group g, docs => g.run docs
  | count field, docs =>
    if docs.isEmpty then []
    else [Fields.empty.insert field (.int (Int64.ofNat docs.length))]
  | addFields fields, docs => docs.map (addTo fields)

end Stage

end QuerySets
