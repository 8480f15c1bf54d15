import QuerySets.Decimal.Reading
import QuerySets.Json.Basic
import QuerySets.Text.Numeral

/-!
Numbers in JSON text. A numeral is a whole number when it has neither fraction
nor exponent, fits in a 64-bit word and is not a negative zero; all others are
floats. The digits of a float are rounded as one whole number first and then
scaled by one power of ten.
-/

namespace QuerySets.Json

open Text

/-- A numeral as it is written. -/
structure Numeral where
  negative : Bool
  whole : List Char
  fraction : List Char
  exponent : Option Int

namespace Numeral

/-- Leading digits and the rest. -/
def digits (cs : List Char) : List Char × List Char :=
  (cs.takeWhile Char.isDigit, cs.dropWhile Char.isDigit)

/-- A zero does not start a longer run of digits. -/
def scanWhole? (cs : List Char) : Option (List Char × List Char) :=
  match digits cs with
  | ([], _) => none
  | ('0' :: _ :: _, _) => none
  | run => some run

def scanFraction? : List Char → Option (List Char × List Char)
  | '.' :: cs =>
    match digits cs with
    | ([], _) => none
    | run => some run
  | cs => some ([], cs)

def scanSignedDigits? (cs : List Char) : Option (Int × List Char) :=
  let (negative, cs) := match cs with
    | '-' :: rest => (true, rest)
    | '+' :: rest => (false, rest)
    | _ => (false, cs)
  match digits cs with
  | ([], _) => none
  | (run, rest) =>
    let n : Int := Text.Numeral.valueFrom 0 run
    some (if negative then -n else n, rest)

def scanExponent? : List Char → Option (Option Int × List Char)
  | [] => some (none, [])
  | c :: cs =>
    if c = 'e' ∨ c = 'E' then (scanSignedDigits? cs).map fun (n, rest) => (some n, rest)
    else some (none, c :: cs)

/-- The numeral at the start of a text. -/
def scan? (cs : List Char) : Option (Numeral × List Char) := do
  let (negative, cs) := match cs with
    | '-' :: rest => (true, rest)
    | _ => (false, cs)
  let (whole, cs) ← scanWhole? cs
  let (fraction, cs) ← scanFraction? cs
  let (exponent, cs) ← scanExponent? cs
  return (⟨negative, whole, fraction, exponent⟩, cs)

/-- A significand of at most 64 bits and the power of ten that it is scaled by. -/
structure Scaled where
  significand : Nat
  exponent : Int

/-- Digits before the point; from the first one that does not fit on, they only count. -/
def pushWhole (s : Scaled) (cs : List Char) : Scaled :=
  match cs with
  | [] => s
  | c :: rest =>
    let next := 10 * s.significand + Text.Numeral.digitValue c
    if next < UInt64.size then pushWhole ⟨next, s.exponent⟩ rest
    else ⟨s.significand, s.exponent + (rest.length + 1 : Nat)⟩

/-- Digits after the point; from the first one that does not fit on, they are passed over. -/
def pushFraction (s : Scaled) (cs : List Char) : Scaled :=
  match cs with
  | [] => s
  | c :: rest =>
    let next := 10 * s.significand + Text.Numeral.digitValue c
    if next < UInt64.size then pushFraction ⟨next, s.exponent - 1⟩ rest else s

def greatestPower : Nat := 308

def powerOfTen (k : Nat) : Float := Float.ofScientific 1 false k

/-- Divides by a power of ten, at most the greatest one at a time. -/
def divide : Nat → Float → Nat → Float
  | 0, _, _ => 0
  | steps + 1, x, k =>
    if k ≤ greatestPower then x / powerOfTen k
    else divide steps (x / powerOfTen greatestPower) (k - greatestPower)

/-- The float of a scaled significand, unless it is too great. -/
def Scaled.toFloat? (s : Scaled) : Option Float :=
  if s.significand = 0 then some 0
  else
    let x := Float.ofNat s.significand
    if s.exponent < 0 then some (divide 4 x s.exponent.natAbs)
    else if greatestPower < s.exponent.toNat then none
    else
      let y := x * powerOfTen s.exponent.toNat
      if Decimal.isFinite y then some y else none

def float? (n : Numeral) : Option Float :=
  let scaled := pushFraction (pushWhole ⟨0, 0⟩ n.whole) n.fraction
  let scaled := { scaled with exponent := scaled.exponent + n.exponent.getD 0 }
  scaled.toFloat?.map (Decimal.signed n.negative)

/-- The number that a numeral stands for; none when it is beyond the range of floats. -/
def number? (n : Numeral) : Option Number :=
  let whole := Text.Numeral.valueFrom 0 n.whole
  let plain := n.fraction.isEmpty && n.exponent.isNone
  if plain && !n.negative && whole < UInt64.size then some (.whole whole)
  else if plain && n.negative && 0 < whole && whole ≤ Int64.size / 2 then some (.whole (-whole))
  else n.float?.map .float

end Numeral

end QuerySets.Json
