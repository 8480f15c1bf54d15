import QuerySets.Expression
import QuerySets.Store.Error

/-!
Projections. One that names fields to keep, or to compute, keeps these and the
identifier; one that names fields to leave out keeps the others. Nested objects
without operators name the paths that they spell.
-/

namespace QuerySets

/-- What a kept path holds: the value found there, or that of an expression. -/
inductive Projection.Source
  | found
  | computed (expression : Value)

inductive Projection.Mode
  | keep (paths : List (String × Projection.Source))
  | leaveOut (paths : List String)

structure Projection where
  withoutId : Bool
  mode : Projection.Mode

namespace Projection

open Text

def join (path key : String) : String := if path.isEmpty then key else path ++ "." ++ key

def spellsPaths (entries : List (String × Value)) : Bool :=
  !entries.isEmpty && !entries.any fun entry => isMarked entry.1

mutual
/-- The paths that a specification names, with their values. -/
def flatten (path : String) : Value → List (String × Value)
  | .document ⟨entries⟩ =>
    if spellsPaths entries then flattenEntries path entries else [(path, .document ⟨entries⟩)]
  | v => [(path, v)]

def flattenEntries (path : String) : List (String × Value) → List (String × Value)
  | [] => []
  | (key, v) :: rest => flatten (join path key) v ++ flattenEntries path rest
end

/-- Whether a value is a switch, and which way. -/
def switch? : Value → Option Bool
  | .bool b => some b
  | .int n => some (Value.int n).isTruthy
  | .float x => some (Value.float x).isTruthy
  | _ => none

def isIdExclusion (entry : String × Value) : Bool :=
  entry.1 == "_id" && switch? entry.2 == some false

def kept? (entry : String × Value) : Option (String × Source) :=
  match switch? entry.2 with
  | some true => some (entry.1, .found)
  | some false => none
  | none => some (entry.1, .computed entry.2)

def leftOut? (entry : String × Value) : Option String :=
  if switch? entry.2 == some false && !isIdExclusion entry then some entry.1 else none

def compile (specification : Document) : Except StoreError Projection :=
  let entries := flattenEntries "" specification.entries
  let withoutId := entries.any isIdExclusion
  match entries.filterMap kept?, entries.filterMap leftOut? with
  | [], [] =>
    if withoutId then .ok ⟨true, .leaveOut []⟩
    else .error (.invalidStage "$project" .emptyProjection)
  | [], paths => .ok ⟨withoutId, .leaveOut paths⟩
  | paths, [] => .ok ⟨withoutId, .keep paths⟩
  | _, path :: _ => .error (.invalidStage "$project" (.exclusionAmongInclusions path))

/-- Writes what a kept path holds. -/
def write (d out : Document) (entry : String × Source) : Document :=
  match entry.2 with
  | .computed expression => out.setPath entry.1 (Expression.evaluate d expression)
  | .found =>
    match d.getPath? entry.1 with
    | some v => out.setPath entry.1 v
    | none => out

/-- The identifier alone, or nothing. -/
def base (p : Projection) (d : Document) : Document :=
  match d.get? "_id" with
  | some id => if p.withoutId then Fields.empty else Fields.empty.insert "_id" id
  | none => Fields.empty

def apply (p : Projection) (d : Document) : Document :=
  match p.mode with
  | .keep paths => paths.foldl (write d) (p.base d)
  | .leaveOut paths =>
    let out := paths.foldl (fun out path => (out.removePath path).2) d
    if p.withoutId then out.erase "_id" else out

end Projection

end QuerySets
