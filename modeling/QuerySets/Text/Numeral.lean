/-!
Whole numbers written in decimal. A numeral is a nonempty run of the ASCII
digits, with a sign in front where the kind of number allows one.
-/

namespace QuerySets.Text.Numeral

def digitValue (c : Char) : Nat := c.toNat - '0'.toNat

/-- The number that a run of digits stands for, after the digits already read. -/
def valueFrom (acc : Nat) (cs : List Char) : Nat :=
  cs.foldl (fun n c => 10 * n + digitValue c) acc

/-- A nonempty run of digits and nothing else. -/
def digits? (cs : List Char) : Option Nat :=
  if cs.isEmpty || !cs.all Char.isDigit then none else some (valueFrom 0 cs)

/-- A count below `bound`; a plus sign may stand in front. -/
def natBelow? (bound : Nat) (cs : List Char) : Option Nat :=
  let body := match cs with
    | '+' :: rest => rest
    | _ => cs
  (digits? body).filter (· < bound)

/-- A count that fits in a 64-bit word. -/
def word? (cs : List Char) : Option Nat := natBelow? UInt64.size cs

/-- A whole number; either sign may stand in front. -/
def int? (cs : List Char) : Option Int :=
  match cs with
  | '-' :: rest => (digits? rest).map fun n => -(n : Int)
  | '+' :: rest => (digits? rest).map fun n => (n : Int)
  | _ => (digits? cs).map fun n => (n : Int)

/-- A whole number that fits in a signed 64-bit word. -/
def int64? (cs : List Char) : Option Int64 :=
  let fits (n : Int) : Bool := Int64.minValue.toInt ≤ n && n ≤ Int64.maxValue.toInt
  ((int? cs).filter fits).map Int64.ofInt

def ofNat (n : Nat) : List Char := Nat.toDigits 10 n

def ofInt (n : Int) : List Char :=
  if n < 0 then '-' :: ofNat n.natAbs else ofNat n.natAbs

/-- The digits of `n`, with zeros in front up to `width` of them. -/
def padded (width n : Nat) : List Char :=
  let text := ofNat n
  List.replicate (width - text.length) '0' ++ text

end QuerySets.Text.Numeral
