import QuerySets.Decimal.Reading
import QuerySets.Text.Blank
import QuerySets.Text.Split
import QuerySets.Value

/-!
Numbers and patterns written out in directives.
-/

namespace QuerySets.Literal

/-- A number: whole if it is written so and fits in 64 bits, otherwise a finite
float. Blanks around it do not count. -/
def number? (text : String) : Option Value :=
  let cs := Text.trimChars text.toList
  match Text.Numeral.int64? cs with
  | some n => some (.int n)
  | none => ((Decimal.float? cs).filter Decimal.isFinite).map .float

def isOption (c : Char) : Bool := c = 'i' || c = 'm' || c = 's' || c = 'x'

/-- A pattern between slashes, with option letters after the last one. -/
def pattern? (text : String) : Option Value := do
  let body ← Text.dropStart? ['/'] text.toList
  let (pattern, options) ← Text.cutLast? '/' body
  if options.all isOption then
    return .regex (String.ofList pattern) (String.ofList options)
  else none

end QuerySets.Literal
