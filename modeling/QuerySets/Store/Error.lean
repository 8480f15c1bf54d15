import QuerySets.Pattern.Read
import QuerySets.Value.Json

/-!
What can be wrong with a filter, a stage or a write, and the message for it.
-/

namespace QuerySets

/-- What is wrong with the operand of an operator. -/
inductive OperandFault
  | needsArray (kind : String)
  | needsNonemptyArray
  | entryNotObject (kind : String)
  | badOption (letter : Char) (options : String)
  | badPattern (error : Pattern.ReadError)
  | optionsNotString (kind : String)
  | optionsWithoutPattern
  | needsCount
  | needsStringOrPattern (kind : String)
  | needsPatternOrDocument

/-- What is wrong with the specification of a stage. -/
inductive StageFault
  | notSingle
  | needsCount (given : Value)
  | needsFieldPath (given : Value)
  | needsObject (kind : String)
  | needsStringOrObject (kind : String)
  | needsSortKey
  | badDirection (field : String)
  | needsFieldName
  | exclusionAmongInclusions (field : String)
  | emptyProjection
  | needsId
  | needsAccumulator (field : String)
  | unknownAccumulator (name : String)

inductive StoreError
  | unknownStage (name : String)
  | invalidStage (stage : String) (fault : StageFault)
  | unknownOperator (name : String)
  | invalidOperand (operator : String) (fault : OperandFault)
  | duplicateKey (collection index : String) (key : List Value)
  /-- A stored record that cannot be read back. -/
  | unreadable (reason : String)

def OperandFault.message : OperandFault → String
  | needsArray kind => s!"needs an array, got {kind}"
  | needsNonemptyArray => "needs a nonempty array"
  | entryNotObject kind => s!"entries must be objects, got {kind}"
  | badOption letter options =>
    "invalid flag '" ++ letter.toString ++ s!"' in regex options: {options}"
  | badPattern error => error.message
  | optionsNotString kind => s!"needs a string, got {kind}"
  | optionsWithoutPattern => "needs a $regex"
  | needsCount => "needs a non-negative integer"
  | needsStringOrPattern kind => s!"needs a string or regex, got {kind}"
  | needsPatternOrDocument => "needs a regex or a document"

def StageFault.message : StageFault → String
  | notSingle => "a pipeline stage specification object must contain exactly one field"
  | needsCount given => "needs a non-negative integer, got " ++ given.text
  | needsFieldPath given =>
    "field path must be a string prefixed with '$', got " ++ given.text
  | needsObject kind => s!"needs an object, got {kind}"
  | needsStringOrObject kind => s!"needs a string or object, got {kind}"
  | needsSortKey => "must have at least one sort key"
  | badDirection field => s!"sort direction for {field} must be 1 or -1"
  | needsFieldName => "needs a non-empty field name"
  | exclusionAmongInclusions field =>
    s!"cannot do exclusion on field {field} in inclusion projection"
  | emptyProjection => "specification must have at least one field"
  | needsId => "a group specification must include an _id"
  | needsAccumulator field => s!"the field '{field}' must be an accumulator object"
  | unknownAccumulator name => s!"unknown group operator '{name}'"

def StoreError.message : StoreError → String
  | unknownStage name => s!"Unrecognized pipeline stage name: '{name}'"
  | invalidStage stage fault => s!"Invalid {stage} stage: " ++ fault.message
  | unknownOperator name => s!"Unknown operator: {name}"
  | invalidOperand operator fault => s!"Invalid operand for {operator}: " ++ fault.message
  | duplicateKey collection index key =>
    s!"E11000 duplicate key error collection: {collection} index: {index} dup key: " ++
      (Value.array key).text
  | unreadable reason => s!"serialization error: {reason}"

end QuerySets
