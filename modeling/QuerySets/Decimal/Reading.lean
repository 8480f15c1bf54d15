import QuerySets.Text.Numeral
import QuerySets.Text.Split

/-!
Decimal numerals read as floats, rounded to the nearest float once. A numeral has
digits with a point before, among or after them, and may have a sign and an
exponent.
-/

namespace QuerySets.Decimal

/-- Exponents further out than this decide the result by themselves. -/
def extremeExponent : Nat := 400

/-- The float nearest to `digits * 10 ^ exponent`; infinite when none is near. -/
def nearest (digits : Nat) (exponent : Int) : Float :=
  let size : Int := (Nat.toDigits 10 digits).length
  if digits = 0 then 0
  else if exponent + size > extremeExponent then Float.ofBits 0x7ff0000000000000
  else if exponent + size < -extremeExponent then 0
  else Float.ofScientific digits (exponent < 0) exponent.natAbs

/-- The same with a sign; a negative zero keeps its sign. -/
def signed (negative : Bool) (x : Float) : Float := if negative then -x else x

/-- Infinities and NaN are the floats whose exponent bits are all set. -/
def isFinite (x : Float) : Bool := x.toBits >>> 52 % 2048 ≠ 2047

/-- Digits with at most one point, times a power of ten. -/
def scaled? (exponent : Int) (cs : List Char) : Option Float :=
  let (whole, fraction) := (Text.cutFirst? '.' cs).getD (cs, [])
  (Text.Numeral.digits? (whole ++ fraction)).map fun n => nearest n (exponent - fraction.length)

/-- Digits with at most one point and nothing else. -/
def plain? (cs : List Char) : Option Float := scaled? 0 cs

def isExponentMark (c : Char) : Bool := c = 'e' || c = 'E'

/-- A numeral without its sign. -/
def unsigned? (cs : List Char) : Option Float :=
  match cs.dropWhile (!isExponentMark ·) with
  | [] => plain? cs
  | _ :: power =>
    (Text.Numeral.int? power).bind fun exponent =>
      scaled? exponent (cs.takeWhile (!isExponentMark ·))

/-- A numeral of any form. -/
def float? (cs : List Char) : Option Float :=
  match cs with
  | '-' :: rest => (unsigned? rest).map (signed true)
  | '+' :: rest => unsigned? rest
  | _ => unsigned? cs

end QuerySets.Decimal
