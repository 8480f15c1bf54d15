import QuerySets.Text.Blank
import QuerySets.Time.Rfc3339

/-!
Dates as people write them: a day, or a day and a time of universal time, with
numbers of up to their usual width and blanks before any of them. Text in the
internet date format is read as such first.
-/

namespace QuerySets.Time.Written

open Text

/-- A number of at most `width` digits. -/
def number? (width : Nat) (cs : List Char) : Option (Nat × List Char) :=
  let cs := dropBlanks cs
  let run := (cs.take width).takeWhile Char.isDigit
  (Numeral.digits? run).map (·, cs.drop run.length)

/-- All digits at the start of a text. -/
def wholeNumber? (cs : List Char) : Option (Nat × List Char) :=
  (Numeral.digits? (cs.takeWhile Char.isDigit)).map (·, cs.dropWhile Char.isDigit)

/-- A year of up to four digits, or one with a sign and any number of them. -/
def year? (cs : List Char) : Option (Int × List Char) :=
  match dropBlanks cs with
  | '-' :: rest => (wholeNumber? rest).map fun (n, rest) => (-(n : Int), rest)
  | '+' :: rest => (wholeNumber? rest).map fun (n, rest) => ((n : Int), rest)
  | rest => (number? 4 rest).map fun (n, rest) => ((n : Int), rest)

def day? (cs : List Char) : Option (Date × List Char) := do
  let (year, cs) ← year? cs
  let cs ← after? '-' cs
  let (month, cs) ← number? 2 cs
  let cs ← after? '-' cs
  let (day, cs) ← number? 2 cs
  return (← Date.of? year month day, cs)

/-- Hours, minutes and seconds, with a fraction if `fraction` allows one. -/
def clock? (fraction : Bool) (cs : List Char) : Option (Clock × List Char) := do
  let (hour, cs) ← number? 2 cs
  let cs ← after? ':' cs
  let (minute, cs) ← number? 2 cs
  let cs ← after? ':' cs
  let (second, cs) ← number? 2 cs
  let (nanos, cs) ← if fraction then optionalFraction? cs else some (0, cs)
  return (← Clock.of? hour minute second nanos, cs)

/-- A day and a time with the letter between them. -/
def joined? (cs : List Char) : Option (Instant × List Char) := do
  let (day, cs) ← day? cs
  let cs ← after? 'T' cs
  let (clock, cs) ← clock? true cs
  return (Instant.ofClock day clock, cs)

/-- A day and a time with blanks between them, or with nothing. -/
def spaced? (cs : List Char) : Option (Instant × List Char) := do
  let (day, cs) ← day? cs
  let (clock, cs) ← clock? false cs
  return (Instant.ofClock day clock, cs)

/-- A day, which stands for its first instant. -/
def dayAlone? (cs : List Char) : Option (Instant × List Char) :=
  (day? cs).map fun (day, cs) => (Instant.ofClock day ⟨0, 0, 0, 0⟩, cs)

/-- What is read from a text that is used up. -/
def complete? (read : List Char → Option (Instant × List Char)) (cs : List Char) :
    Option Instant :=
  (read cs).bind fun (instant, rest) => if rest.isEmpty then some instant else none

/-- The instant of a written date in any of the forms. -/
def instant? (text : String) : Option Instant :=
  let cs := text.toList
  Instant.readRfc3339Chars? cs <|> complete? joined? cs <|> complete? spaced? cs <|>
    complete? dayAlone? cs

end QuerySets.Time.Written
