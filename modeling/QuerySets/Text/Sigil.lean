/-!
The dollar sign marks operators, stage names and references to fields.
-/

namespace QuerySets.Text

/-- Whether a name starts with a dollar sign. -/
def isMarked (name : String) : Bool := name.toList.head? == some '$'

/-- What follows the dollar sign. -/
def unmark? (name : String) : Option String :=
  match name.toList with
  | '$' :: rest => some (String.ofList rest)
  | _ => none

end QuerySets.Text
