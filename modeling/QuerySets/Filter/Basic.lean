import QuerySets.Document.Path
import QuerySets.Filter.Matcher
import QuerySets.Value.Order

/-!
Filters over documents. A condition on a field looks at all the values that its
path leads to; none of them means that the field is missing.
-/

namespace QuerySets

/-- A member of a list of wanted values: a value, or a pattern for one. -/
inductive Filter.Wanted
  | value (v : Value)
  | pattern (m : Matcher)

inductive Filter.Condition
  | eq (target : Value)
  | ne (target : Value)
  | gt (target : Value)
  | gte (target : Value)
  | lt (target : Value)
  | lte (target : Value)
  | inList (list : List Filter.Wanted)
  | notInList (list : List Filter.Wanted)
  | present (expected : Bool)
  | pattern (m : Matcher)
  | size (n : Nat)
  | not (inner : Filter.Condition)
  | all (conditions : List Filter.Condition)

inductive Filter
  | and (filters : List Filter)
  | or (filters : List Filter)
  | nor (filters : List Filter)
  | field (path : String) (condition : Filter.Condition)

namespace Filter

mutual
/-- The values that the rest of a path leads to. A segment that numbers an item of
an array takes that item, and the documents in the array are looked into as well;
an array at the end of a path stands for itself and for its items. -/
def collect (v : Value) (rest : Path) : List Value :=
  match v with
  | .document ⟨entries⟩ =>
    match rest with
    | [] => [.document ⟨entries⟩]
    | segment :: others => collectField segment others entries
  | .array items =>
    match rest with
    | [] => .array items :: items
    | segment :: others =>
      (match Text.Numeral.word? segment.toList with
        | some n => collectNumbered n others items
        | none => []) ++ collectInside rest items
  | v => if rest.isEmpty then [v] else []

/-- What the path leads to from the first field of a name. -/
def collectField (key : String) (rest : Path) : List (String × Value) → List Value
  | [] => []
  | (k, v) :: others => if k = key then collect v rest else collectField key rest others

/-- What the path leads to from the item with a number. -/
def collectNumbered (n : Nat) (rest : Path) : List Value → List Value
  | [] => []
  | v :: others => if n = 0 then collect v rest else collectNumbered (n - 1) rest others

/-- What the path leads to from the documents among the items. -/
def collectInside (path : Path) : List Value → List Value
  | [] => []
  | .document ⟨entries⟩ :: others =>
    (match path with
      | [] => [.document ⟨entries⟩]
      | segment :: rest => collectField segment rest entries) ++ collectInside path others
  | _ :: others => collectInside path others
end

/-- All values at a dotted path of a document. -/
def candidates (d : Document) (path : String) : List Value :=
  match Path.ofString path with
  | [] => []
  | first :: rest =>
    match d.get? first with
    | some v => collect v rest
    | none => []

/-- A missing field equals null. -/
def equals (values : List Value) (target : Value) : Bool :=
  if values.isEmpty then target.isNull else values.any (·.looseEq target)

/-- Only values of the same rank are compared by size. -/
def compares (values : List Value) (target : Value) (test : Ordering → Bool) : Bool :=
  values.any fun v => v.rank == target.rank && test (v.order target)

def isWanted (values : List Value) (list : List Wanted) : Bool :=
  list.any fun
    | .value target => equals values target
    | .pattern m => values.any m.accepts

def hasSize (n : Nat) : Value → Bool
  | .array items => items.length == n
  | _ => false

namespace Condition

mutual
/-- Whether the values at the path of a field meet a condition. -/
def holds (values : List Value) : Condition → Bool
  | eq target => equals values target
  | ne target => !equals values target
  | gt target => compares values target (· == .gt)
  | gte target => compares values target (· != .lt)
  | lt target => compares values target (· == .lt)
  | lte target => compares values target (· != .gt)
  | inList list => isWanted values list
  | notInList list => !isWanted values list
  | present expected => values.isEmpty != expected
  | pattern m => values.any m.accepts
  | size n => values.any (hasSize n)
  | not inner => !holds values inner
  | all conditions => holdAll values conditions

def holdAll (values : List Value) : List Condition → Bool
  | [] => true
  | c :: rest => holds values c && holdAll values rest
end

end Condition

mutual
def accepts (d : Document) : Filter → Bool
  | and filters => acceptAll d filters
  | or filters => acceptAny d filters
  | nor filters => !acceptAny d filters
  | field path condition => condition.holds (candidates d path)

def acceptAll (d : Document) : List Filter → Bool
  | [] => true
  | f :: rest => accepts d f && acceptAll d rest

def acceptAny (d : Document) : List Filter → Bool
  | [] => false
  | f :: rest => accepts d f || acceptAny d rest
end

mutual
/-- The paths that every accepted document is tested on. -/
def fields : Filter → List String
  | and filters => fieldsOfAll filters
  | field path _ => [path]
  | _ => []

def fieldsOfAll : List Filter → List String
  | [] => []
  | f :: rest => fields f ++ fieldsOfAll rest
end

end Filter

end QuerySets
