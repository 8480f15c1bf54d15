import QuerySets.Text.Hex
import QuerySets.Text.Split

/-!
Tables over characters. A set is written as ascending ranges of hexadecimal code
points, such as `41-5a 61-7a aa`. A map is written as runs with the image of the
first character: `41-5a>61` takes every character of the range, `100~12e>101`
every other one.
-/

namespace QuerySets.Text

/-- Ascending ranges of code points, both ends counted. -/
structure CodePoints where
  ranges : Array (Nat × Nat)

namespace CodePoints

def range? (cs : List Char) : Option (Nat × Nat) :=
  match cutFirst? '-' cs with
  | some (first, last) => do return (← Hex.number? first, ← Hex.number? last)
  | none => (Hex.number? cs).map fun n => (n, n)

def ofRows (rows : List String) : CodePoints :=
  ⟨(rows.flatMap fun row => (splitChars ' ' row.toList).filterMap range?).toArray⟩

/-- Looks for `n` among the ranges from `low` on and before `high`. -/
def search (ranges : Array (Nat × Nat)) (n : Nat) : Nat → Nat → Nat → Bool
  | 0, _, _ => false
  | fuel + 1, low, high =>
    if high ≤ low then false
    else
      let middle := (low + high) / 2
      match ranges[middle]? with
      | none => false
      | some (first, last) =>
        if n < first then search ranges n fuel low middle
        else if last < n then search ranges n fuel (middle + 1) high
        else true

def contains (set : CodePoints) (c : Char) : Bool :=
  search set.ranges c.toNat set.ranges.size 0 set.ranges.size

end CodePoints

/-- Characters `first`, `first + step`, … up to `last` change into as many from `image` on. -/
structure CodeRun where
  first : Nat
  last : Nat
  step : Nat
  image : Nat

/-- Runs of characters that change by the same distance. -/
structure CodeMap where
  runs : Array CodeRun

namespace CodeMap

def run? (cs : List Char) : Option CodeRun := do
  let (source, image) ← cutFirst? '>' cs
  let image ← Hex.number? image
  match cutFirst? '-' source, cutFirst? '~' source with
  | some (first, last), _ => return ⟨← Hex.number? first, ← Hex.number? last, 1, image⟩
  | none, some (first, last) => return ⟨← Hex.number? first, ← Hex.number? last, 2, image⟩
  | none, none =>
    let n ← Hex.number? source
    return ⟨n, n, 1, image⟩

def ofRows (rows : List String) : CodeMap :=
  ⟨(rows.flatMap fun row => (splitChars ' ' row.toList).filterMap run?).toArray⟩

def CodeRun.image? (run : CodeRun) (n : Nat) : Option Nat :=
  if run.first ≤ n ∧ n ≤ run.last ∧ (n - run.first) % run.step = 0 then
    some (run.image + (n - run.first))
  else none

/-- The image of a character; one in no run stays itself. -/
def apply (map : CodeMap) (c : Char) : Char :=
  match map.runs.findSome? (CodeRun.image? · c.toNat) with
  | some n => Char.ofNat n
  | none => c

/-- The characters of the runs that have this image. -/
def preimages (map : CodeMap) (c : Char) : List Char :=
  map.runs.toList.filterMap fun run =>
    let n := run.first + (c.toNat - run.image)
    if run.image ≤ c.toNat ∧ n ≤ run.last ∧ (n - run.first) % run.step = 0 then
      some (Char.ofNat n)
    else none

end CodeMap

/-- Characters that change into several. -/
structure CodeSequences where
  entries : List (Nat × List Char)

namespace CodeSequences

def entry? (cs : List Char) : Option (Nat × List Char) := do
  let (source, images) ← cutFirst? '>' cs
  let images ← (splitChars '+' images).mapM Hex.number?
  return (← Hex.number? source, images.map Char.ofNat)

def ofRows (rows : List String) : CodeSequences :=
  ⟨rows.flatMap fun row => (splitChars ' ' row.toList).filterMap entry?⟩

def find? (sequences : CodeSequences) (c : Char) : Option (List Char) :=
  sequences.entries.lookup c.toNat

end CodeSequences

end QuerySets.Text
