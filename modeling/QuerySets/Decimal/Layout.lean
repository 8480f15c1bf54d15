import QuerySets.Decimal.Shortest

/-!
How a float is written. Numbers of a middling size stand in positional notation
with at least one digit after the point; others have one digit before the point
and an exponent with its sign.
-/

namespace QuerySets.Decimal

/-- Which exponents of the first digit are written in positional notation. -/
structure Layout where
  least : Int
  bound : Int

/-- The layout of floats in JSON text. -/
def Layout.json : Layout := ⟨-5, 16⟩

/-- Positional notation. -/
def positional (digits : List Char) (lead : Int) : List Char :=
  if lead < 0 then
    '0' :: '.' :: (List.replicate (-lead - 1).toNat '0' ++ digits)
  else
    let whole := lead.toNat + 1
    let zeros := List.replicate (whole - digits.length) '0'
    let fraction := digits.drop whole
    digits.take whole ++ zeros ++ '.' :: (if fraction.isEmpty then ['0'] else fraction)

/-- One digit before the point, then the exponent with its sign. -/
def scientific (digits : List Char) (lead : Int) : List Char :=
  let mantissa := match digits with
    | [] => ['0']
    | [d] => [d]
    | d :: rest => d :: '.' :: rest
  let sign := if lead < 0 then '-' else '+'
  mantissa ++ 'e' :: sign :: Nat.toDigits 10 lead.natAbs

def Layout.write (layout : Layout) (d : Dyadic) : List Char :=
  let sign := if d.negative then ['-'] else []
  let short := shortest d
  let digits := Nat.toDigits 10 short.digits
  let lead := short.exponent + digits.length - 1
  let body :=
    if layout.least ≤ lead && lead < layout.bound then positional digits lead
    else scientific digits lead
  sign ++ body

/-- The text of a finite float; infinities and NaN have none. -/
def write? (x : Float) : Option String :=
  (Dyadic.ofFloat? x).map fun d => String.ofList (Layout.json.write d)

end QuerySets.Decimal
