import QuerySets.Text.Numeral
import QuerySets.Time.Instant

/-!
The internet date format. It is written in universal time with milliseconds;
it is read with any number of digits in the fraction and any offset below a day.
Years outside of four digits have a sign when written, and are not read.
-/

namespace QuerySets.Time

open Text

/-- The first `width` characters as a number, if all of them are digits. -/
def fixedNumber? (width : Nat) (cs : List Char) : Option (Nat × List Char) :=
  let head := cs.take width
  if head.length = width then (Numeral.digits? head).map (·, cs.drop width) else none

/-- The rest after one given character. -/
def after? (c : Char) : List Char → Option (List Char)
  | [] => none
  | d :: rest => if d = c then some rest else none

/-- The nanoseconds of a fraction whose digits follow; those after the ninth are passed over. -/
def fraction? (cs : List Char) : Option (Nat × List Char) :=
  let digits := cs.takeWhile Char.isDigit
  let kept := digits.take 9
  (Numeral.digits? kept).map fun n => (n * Nat.pow 10 (9 - kept.length), cs.dropWhile Char.isDigit)

/-- A fraction with its point, or nothing at all. -/
def optionalFraction? : List Char → Option (Nat × List Char)
  | '.' :: rest => fraction? rest
  | cs => some (0, cs)

/-- The offset from universal time, in minutes. -/
def offset? : List Char → Option (Int × List Char)
  | [] => none
  | c :: rest =>
    if c = 'Z' ∨ c = 'z' then some (0, rest)
    else if c = '+' ∨ c = '-' ∨ c = '\u2212' then do
      let (hours, rest) ← fixedNumber? 2 rest
      let rest ← after? ':' rest
      let (minutes, rest) ← fixedNumber? 2 rest
      if hours < 24 ∧ minutes < 60 then
        let total : Int := 60 * hours + minutes
        return (if c = '+' then total else -total, rest)
      else none
    else none

def isDateTimeSeparator (c : Char) : Bool := c = 'T' || c = 't' || c = ' '

namespace Instant

def readRfc3339Chars? (cs : List Char) : Option Instant := do
  let (year, cs) ← fixedNumber? 4 cs
  let cs ← after? '-' cs
  let (month, cs) ← fixedNumber? 2 cs
  let cs ← after? '-' cs
  let (day, cs) ← fixedNumber? 2 cs
  let (separator, cs) ← cs.head?.map (·, cs.tail)
  if !isDateTimeSeparator separator then none
  let (hour, cs) ← fixedNumber? 2 cs
  let cs ← after? ':' cs
  let (minute, cs) ← fixedNumber? 2 cs
  let cs ← after? ':' cs
  let (second, cs) ← fixedNumber? 2 cs
  let (nanos, cs) ← optionalFraction? cs
  let (offset, cs) ← offset? cs
  if !cs.isEmpty then none
  let date ← Date.of? year month day
  let clock ← Clock.of? hour minute second nanos
  let there := ofClock date clock
  return { there with seconds := there.seconds - 60 * offset }

def readRfc3339? (text : String) : Option Instant := readRfc3339Chars? text.toList

/-- Four digits, or a sign and at least four. -/
def writeYear (year : Int) : List Char :=
  if 0 ≤ year ∧ year ≤ 9999 then Numeral.padded 4 year.toNat
  else (if year < 0 then '-' else '+') :: Numeral.padded 4 year.natAbs

def writeRfc3339Chars (instant : Instant) : List Char :=
  let date := instant.date
  let clock := instant.clock
  writeYear date.year ++ '-' :: Numeral.padded 2 date.month ++
    '-' :: Numeral.padded 2 date.day ++ 'T' :: Numeral.padded 2 clock.hour ++
    ':' :: Numeral.padded 2 clock.minute ++ ':' :: Numeral.padded 2 clock.second ++
    '.' :: Numeral.padded 3 (clock.nanos / 1000000) ++ ['Z']

def writeRfc3339 (instant : Instant) : String := String.ofList instant.writeRfc3339Chars

end Instant

end QuerySets.Time
