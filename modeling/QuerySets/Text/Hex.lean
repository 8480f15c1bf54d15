/-!
Hexadecimal digits. They are written in lowercase and read in either case.
-/

namespace QuerySets.Text.Hex

def digit (n : Nat) : Char :=
  if n < 10 then Char.ofNat ('0'.toNat + n) else Char.ofNat ('a'.toNat + (n - 10))

def value? (c : Char) : Option Nat :=
  if c.isDigit then some (c.toNat - '0'.toNat)
  else if 'a' ≤ c && c ≤ 'f' then some (c.toNat - 'a'.toNat + 10)
  else if 'A' ≤ c && c ≤ 'F' then some (c.toNat - 'A'.toNat + 10)
  else none

/-- The number that a nonempty run of digits stands for. -/
def number? : List Char → Option Nat
  | [] => none
  | cs => cs.foldl (fun n c => do return 16 * (← n) + (← value? c)) (some 0)

/-- The digits of a number, as many as it needs. -/
def ofNat (n : Nat) : List Char := Nat.toDigits 16 n

end QuerySets.Text.Hex
