import QuerySets.Definition.Basic
import QuerySets.Execution.Masking
import QuerySets.Store.Error
import QuerySets.Template.Error

/-!
What can go wrong when a set is executed.
-/

namespace QuerySets

/-- What is wrong with the value of a declared parameter. -/
inductive ParameterFault
  | missing (name : String)
  | mismatch (value name pattern : String)
  | unknownPattern (value name : String)

def ParameterFault.message : ParameterFault → String
  | missing name => s!"Missing[{name}]"
  | mismatch value name pattern => s!"Invalid[{value}:{name}:Regex {pattern} did not match]"
  | unknownPattern value name => s!"Invalid[{value}:{name}:Regex Not found]"

inductive ExecutionError
  | template (error : TemplateError)
  /-- All faults of the parameters, in the order of their declarations. -/
  | parameters (faults : List ParameterFault)
  | masking (fault : MaskingFault)
  | disabled (set : String)
  | withoutQueries (set : String)
  | unsupportedType (query type : String)
  | store (error : StoreError)
  | definition (error : DefinitionError)

def ExecutionError.message : ExecutionError → String
  | template error => error.message
  | parameters faults => ",".intercalate (faults.map (·.message))
  | masking fault => fault.message
  | disabled set => s!"Set {set} is disabled"
  | withoutQueries set => s!"Set {set} has no queries"
  | unsupportedType query type => s!"Query {query} has unsupported type {type}"
  | store error => error.message
  | definition error => error.message

end QuerySets
