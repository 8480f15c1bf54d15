/-!
Finite binary floating-point numbers taken apart: a sign, a whole mantissa and
a power of two. All questions about the exact value of a float are asked here.
-/

namespace QuerySets.Decimal

/-- The number `± mantissa * 2 ^ exponent`. -/
structure Dyadic where
  negative : Bool
  mantissa : Nat
  exponent : Int
deriving DecidableEq

namespace Dyadic

/-- The mantissa of a normal number lies between this and its double. -/
def hiddenBit : Nat := 1 <<< 52

def leastExponent : Int := -1074

/-- The value of a finite float; infinities and NaN have none. -/
def ofFloat? (x : Float) : Option Dyadic :=
  let bits := x.toBits.toNat
  let negative := bits.testBit 63
  let exponent := bits / hiddenBit % 2048
  let fraction := bits % hiddenBit
  if exponent = 2047 then none
  else if exponent = 0 then some ⟨negative, fraction, leastExponent⟩
  else some ⟨negative, hiddenBit + fraction, leastExponent + (exponent - 1 : Nat)⟩

/-- The whole part of the magnitude, and whether nothing is left over. -/
def wholePart (d : Dyadic) : Nat × Bool :=
  match d.exponent with
  | .ofNat e => (d.mantissa <<< e, true)
  | .negSucc e => (d.mantissa >>> (e + 1), d.mantissa % (1 <<< (e + 1)) == 0)

/-- The value as a whole number, if it is one. -/
def toInt? (d : Dyadic) : Option Int :=
  let (whole, exact) := d.wholePart
  if exact then some (if d.negative then -(whole : Int) else whole) else none

/-- The whole number nearest to the magnitude; a half goes up. -/
def rounded (d : Dyadic) : Nat :=
  match d.exponent with
  | .ofNat e => d.mantissa <<< e
  | .negSucc e => (d.mantissa + (1 <<< e)) >>> (e + 1)

end Dyadic

end QuerySets.Decimal
