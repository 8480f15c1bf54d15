/-!
What can be wrong with a template: its directives, their payloads, and what they
refer to.
-/

namespace QuerySets

inductive TemplateError
  | missingParameter (name : String)
  | badDate (payload : String)
  | badObjectId (payload : String)
  | badPattern (payload : String)
  | badNumber (payload : String)
  | badDuration (payload : String)
  | missingSelector (directive : String)
  | badSelector (directive selector : String)
  | keyNotFound (key : String)
  | indexOutOfRange (key : String) (index count : Nat)
  /-- An operator that takes a list was given a directive of another kind. -/
  | needsArray (operator kind : String)

def TemplateError.message : TemplateError → String
  | missingParameter name => s!"Missing[{name}]"
  | badDate payload => s!"Invalid date value: {payload}"
  | badObjectId payload => s!"Invalid ObjectId value: {payload}"
  | badPattern payload => s!"Invalid regex value: {payload}"
  | badNumber payload => s!"Invalid number value: {payload}"
  | badDuration payload => s!"Invalid duration value: {payload}"
  | missingSelector directive => s!"Missing data operator in {directive}"
  | badSelector directive selector => s!"Invalid data operator {selector} in {directive}"
  | keyNotFound key => s!"Key {key} not found"
  | indexOutOfRange key index count =>
    s!"Index {index} out of range for {key} with {count} documents"
  | needsArray operator kind => s!"{operator} requires an array, got {kind}"

end QuerySets
