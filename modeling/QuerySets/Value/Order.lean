import QuerySets.Value

/-!
The order of values. Kinds of values come one after the other, and numbers of
either kind compare by size: two whole numbers exactly, others as floats. Arrays
and documents compare part by part, then by length.
-/

namespace QuerySets.Value

/-- The place of a kind of value among the others. -/
def rank : Value → Nat
  | null => 1
  | int _ | float _ => 2
  | string _ => 3
  | document _ => 4
  | array _ => 5
  | objectId _ => 7
  | bool _ => 8
  | date _ => 9
  | regex _ _ => 11

/-- A NaN compares equal to every float. -/
def floatOrder (x y : Float) : Ordering :=
  if x < y then .lt else if y < x then .gt else .eq

def intOrder (m n : Int64) : Ordering := compare m.toInt n.toInt

mutual
def order : Value → Value → Ordering
  | int m, int n => intOrder m n
  | int m, float y => floatOrder (Float.ofInt m.toInt) y
  | float x, int n => floatOrder x (Float.ofInt n.toInt)
  | float x, float y => floatOrder x y
  | bool a, bool b => compare a b
  | string s, string t => compare s t
  | date s, date t => s.order t
  | objectId a, objectId b => a.order b
  | regex p o, regex q u => (compare p q).then (compare o u)
  | array xs, array ys => itemsOrder xs ys
  | document ⟨xs⟩, document ⟨ys⟩ => entriesOrder xs ys
  | v, w => compare v.rank w.rank
termination_by structural v => v

def itemsOrder : List Value → List Value → Ordering
  | [], [] => .eq
  | [], _ :: _ => .lt
  | _ :: _, [] => .gt
  | x :: xs, y :: ys => (order x y).then (itemsOrder xs ys)
termination_by structural xs => xs

def entriesOrder : List (String × Value) → List (String × Value) → Ordering
  | [], [] => .eq
  | [], _ :: _ => .lt
  | _ :: _, [] => .gt
  | (k, x) :: xs, (l, y) :: ys => ((compare k l).then (order x y)).then (entriesOrder xs ys)
termination_by structural xs => xs
end

/-- Equality by size, for which the whole number three is the float three. -/
def looseEq (v w : Value) : Bool := v.order w == .eq

mutual
/-- Equality that tells whole numbers from floats and pays no regard to the order
of fields. -/
def same : Value → Value → Bool
  | null, null => true
  | bool a, bool b => a == b
  | int m, int n => m == n
  | float x, float y => x == y
  | string s, string t => s == t
  | date s, date t => s == t
  | objectId a, objectId b => a == b
  | regex p o, regex q u => p == q && o == u
  | array xs, array ys => sameItems xs ys
  | document ⟨xs⟩, document ⟨ys⟩ => xs.length == ys.length && allSame ys xs
  | _, _ => false
termination_by structural v => v

def sameItems : List Value → List Value → Bool
  | [], [] => true
  | x :: xs, y :: ys => same x y && sameItems xs ys
  | _, _ => false
termination_by structural xs => xs

/-- Whether each of the fields is found among `others` with the same value. -/
def allSame (others : List (String × Value)) : List (String × Value) → Bool
  | [] => true
  | (k, x) :: rest =>
    (match others.lookup k with
      | some y => same x y
      | none => false) && allSame others rest
termination_by structural entries => entries
end

end QuerySets.Value
