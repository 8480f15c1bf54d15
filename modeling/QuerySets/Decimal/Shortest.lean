import QuerySets.Decimal.Dyadic

/-!
The fewest decimal digits that still tell a float from all others. A decimal
reads back as the float when it lies in the interval of reals that round to it;
the ends belong to the interval when the mantissa is even. On the grid of `n`
digits only the two neighbours of the value need to be tried.
-/

namespace QuerySets.Decimal

/-- The number `digits * 10 ^ exponent`. -/
structure Digits where
  digits : Nat
  exponent : Int
deriving DecidableEq, Repr

/-- The reals that round to a float, over one denominator. -/
structure Interval where
  low : Nat
  value : Nat
  high : Nat
  denominator : Nat
  closed : Bool

/-- Below a power of two the floats are twice as dense. -/
def Interval.ofDyadic (d : Dyadic) : Interval :=
  let below :=
    if d.mantissa = Dyadic.hiddenBit ∧ d.exponent ≠ Dyadic.leastExponent then 1 else 2
  let up := (d.exponent - 2).toNat
  let down := (2 - d.exponent).toNat
  { low := (4 * d.mantissa - below) <<< up
    value := (4 * d.mantissa) <<< up
    high := (4 * d.mantissa + 2) <<< up
    denominator := 1 <<< down
    closed := d.mantissa % 2 = 0 }

/-- Whether `n / m` is in the interval. -/
def Interval.contains (i : Interval) (n m : Nat) : Bool :=
  let x := n * i.denominator
  if i.closed then i.low * m ≤ x && x ≤ i.high * m
  else i.low * m < x && x < i.high * m

/-- Whether `10 ^ k ≤ n / m`. -/
def powerLe (k : Int) (n m : Nat) : Bool :=
  Nat.pow 10 k.toNat * m ≤ n * Nat.pow 10 (-k).toNat

/-- Raises an exponent while the power of ten still fits under `n / m`. -/
def raise (n m : Nat) : Nat → Int → Int
  | 0, k => k
  | steps + 1, k => if powerLe (k + 1) n m then raise n m steps (k + 1) else k

/-- The exponent of the first decimal digit of `n / m`, for positive numbers. -/
def leadingExponent (n m : Nat) : Int :=
  let estimate := ((Nat.log2 n : Int) - Nat.log2 m - 1) * 30103 / 100000 - 1
  raise n m 4 estimate

/-- The nearest decimal of the grid `10 ^ e` that lies in the interval. -/
def nearestOnGrid? (i : Interval) (e : Int) : Option Digits :=
  let up := Nat.pow 10 e.toNat
  let down := Nat.pow 10 (-e).toNat
  let n := i.value * down
  let m := i.denominator * up
  let lower := n / m
  let upper := lower + 1
  let rest := n % m
  let lowerFits := i.contains (lower * up) down
  let upperFits := i.contains (upper * up) down
  let lowerNearer := 2 * rest < m || (2 * rest == m && lower % 2 == 0)
  if lowerFits && (lowerNearer || !upperFits) then some ⟨lower, e⟩
  else if upperFits then some ⟨upper, e⟩
  else none

/-- Zeros at the end move into the exponent. -/
def trimZeros : Nat → Digits → Digits
  | 0, d => d
  | steps + 1, d =>
    if d.digits % 10 = 0 && d.digits ≠ 0 then trimZeros steps ⟨d.digits / 10, d.exponent + 1⟩
    else d

/-- Tries grids of `n`, `n + 1`, … digits, `steps` of them. -/
def shortestFrom (i : Interval) (lead : Int) : Nat → Nat → Digits
  | 0, n => ⟨i.value / i.denominator, lead - n + 1⟩
  | steps + 1, n =>
    match nearestOnGrid? i (lead - n + 1) with
    | some d => trimZeros 20 d
    | none => shortestFrom i lead steps (n + 1)

/-- The fewest digits that read back as the magnitude of `d`. -/
def shortest (d : Dyadic) : Digits :=
  if d.mantissa = 0 then ⟨0, 0⟩
  else
    let i := Interval.ofDyadic d
    shortestFrom i (leadingExponent i.value i.denominator) 17 1

end QuerySets.Decimal
