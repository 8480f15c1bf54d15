import QuerySets.Decimal.Dyadic
import QuerySets.Decimal.Reading

/-!
Durations such as `-1h30m`: a sign and then amounts, each with its unit. The
amounts are added up as floats and the sum is rounded to whole nanoseconds. A
zero needs no unit.
-/

namespace QuerySets.Duration

def isAmount (c : Char) : Bool := c.isDigit || c = '.'

/-- Cuts a text into amounts, each with the unit that follows it. Only the first
amount can be empty, and only the last unit. -/
def parts : List Char → List (List Char × List Char)
  | [] => []
  | c :: rest =>
    match parts rest with
    | [] => if isAmount c then [([c], [])] else [([], [c])]
    | (amount, unit) :: more =>
      if isAmount c then (c :: amount, unit) :: more
      else if amount.isEmpty then ([], c :: unit) :: more
      else ([], [c]) :: (amount, unit) :: more

/-- The nanoseconds of a unit. -/
def unit? (cs : List Char) : Option Nat :=
  match cs with
  | ['n', 's'] => some 1
  | ['u', 's'] | ['\u00b5', 's'] | ['\u03bc', 's'] => some 1000
  | ['m', 's'] => some 1000000
  | ['s'] => some 1000000000
  | ['m'] => some 60000000000
  | ['h'] => some 3600000000000
  | _ => none

def part? (part : List Char × List Char) : Option Float := do
  let amount ← Decimal.plain? part.1
  return amount * Float.ofNat (← unit? part.2)

def greatest : Nat := Int64.maxValue.toInt.toNat

/-- The whole nanoseconds of a sum, unless it is beyond the greatest duration. -/
def ofFloat? (x : Float) : Option Nat :=
  if x ≤ Float.ofNat greatest then
    (Decimal.Dyadic.ofFloat? x).map fun d => min d.rounded greatest
  else none

/-- The nanoseconds of a duration without a sign. -/
def magnitude? (cs : List Char) : Option Nat :=
  if cs = ['0'] then some 0
  else if cs.isEmpty then none
  else ((parts cs).mapM part?).bind fun amounts => ofFloat? (amounts.foldl (· + ·) 0)

def ofChars? (cs : List Char) : Option Int :=
  match cs with
  | '-' :: rest => (magnitude? rest).map fun n => -(n : Int)
  | '+' :: rest => (magnitude? rest).map fun n => (n : Int)
  | _ => (magnitude? cs).map fun n => (n : Int)

/-- The nanoseconds of a duration. -/
def ofString? (text : String) : Option Int := ofChars? text.toList

end QuerySets.Duration
