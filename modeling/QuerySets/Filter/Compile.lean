import QuerySets.Filter.Basic
import QuerySets.Text.Sigil

/-!
Filters from filter documents. Each entry is a clause, either a logical operator
over further filters or a condition on a field. A single clause stands for itself.
-/

namespace QuerySets.Filter

open Text

/-- Clauses of one document. -/
def conjunction : List Filter → Filter
  | [clause] => clause
  | clauses => .and clauses

def conjoin : List Condition → Condition
  | [condition] => condition
  | conditions => .all conditions

/-- A member of a list of wanted values. -/
def wanted : Value → Except StoreError Wanted
  | .regex pattern options => (Matcher.compile pattern options).map .pattern
  | v => .ok (.value v)

def wantedList (operator : String) : Value → Except StoreError (List Wanted)
  | .array items => items.mapM wanted
  | v => .error (.invalidOperand operator (.needsArray v.kind))

/-- A document whose first key is an operator is one of operators altogether. -/
def isOperators (entries : List (String × Value)) : Bool :=
  match entries with
  | (key, _) :: _ => isMarked key
  | [] => false

/-- The option letters that stand beside a pattern. -/
def patternOptions? (entries : List (String × Value)) : Except StoreError (Option String) :=
  match entries.lookup "$options" with
  | some (.string options) => .ok (some options)
  | some v => .error (.invalidOperand "$options" (.optionsNotString v.kind))
  | none => .ok none

def sizeCondition (v : Value) : Except StoreError Condition :=
  match v.int? with
  | some n =>
    if 0 ≤ n.toInt then .ok (.size n.toInt.toNat)
    else .error (.invalidOperand "$size" .needsCount)
  | none => .error (.invalidOperand "$size" .needsCount)

/-- Options beside a pattern take the place of its own. -/
def patternCondition (options : Option String) : Value → Except StoreError Condition
  | .string pattern => (Matcher.compile pattern (options.getD "")).map .pattern
  | .regex pattern own => (Matcher.compile pattern (options.getD own)).map .pattern
  | v => .error (.invalidOperand "$regex" (.needsStringOrPattern v.kind))

/-- Only a pattern or a document can be negated. -/
def isNegatable : Value → Bool
  | .regex _ _ | .document _ => true
  | _ => false

/-- The condition of an operator that does not look into other conditions. -/
def simpleOperator (options : Option String) (operator : String) (v : Value) :
    Except StoreError Condition :=
  match operator with
  | "$eq" => .ok (.eq v)
  | "$ne" => .ok (.ne v)
  | "$gt" => .ok (.gt v)
  | "$gte" => .ok (.gte v)
  | "$lt" => .ok (.lt v)
  | "$lte" => .ok (.lte v)
  | "$in" => (wantedList operator v).map .inList
  | "$nin" => (wantedList operator v).map .notInList
  | "$exists" => .ok (.present v.isTruthy)
  | "$size" => sizeCondition v
  | "$regex" => patternCondition options v
  | _ => .error (.unknownOperator operator)

namespace Condition

mutual
/-- The condition that a value states for a field. -/
def compile : Value → Except StoreError Condition
  | .regex source options => (Matcher.compile source options).map .pattern
  | .document ⟨entries⟩ =>
    if isOperators entries then do
      let options ← patternOptions? entries
      let conditions ← compileOperators options entries
      if options.isSome && (entries.lookup "$regex").isNone then
        throw (.invalidOperand "$options" .optionsWithoutPattern)
      return conjoin conditions
    else .ok (.eq (.document ⟨entries⟩))
  | v => .ok (.eq v)

/-- The conditions of the operators in their order. -/
def compileOperators (options : Option String) :
    List (String × Value) → Except StoreError (List Condition)
  | [] => .ok []
  | (operator, v) :: rest =>
    if operator = "$options" then compileOperators options rest
    else do
      let condition ←
        if operator ≠ "$not" then simpleOperator options operator v
        else if isNegatable v then (compile v).map .not
        else .error (.invalidOperand "$not" .needsPatternOrDocument)
      let others ← compileOperators options rest
      return condition :: others
end

end Condition

/-- The logical operator that a key names. -/
def logical? (key : String) : Option (List Filter → Filter) :=
  match key with
  | "$and" => some .and
  | "$or" => some .or
  | "$nor" => some .nor
  | _ => none

def fieldClause (key : String) (v : Value) : Except StoreError Filter :=
  if isMarked key then .error (.unknownOperator key)
  else (Condition.compile v).map (.field key)

mutual
def compileEntries : List (String × Value) → Except StoreError (List Filter)
  | [] => .ok []
  | (key, v) :: rest => do
    let clause ← compileClause key v
    let others ← compileEntries rest
    return clause :: others

def compileClause (key : String) (v : Value) : Except StoreError Filter :=
  match logical? key with
  | some join =>
    match v with
    | .array (first :: others) => (compileBranches key (first :: others)).map join
    | _ => .error (.invalidOperand key .needsNonemptyArray)
  | none => fieldClause key v

def compileBranches (operator : String) : List Value → Except StoreError (List Filter)
  | [] => .ok []
  | .document ⟨entries⟩ :: rest => do
    let clauses ← compileEntries entries
    let others ← compileBranches operator rest
    return conjunction clauses :: others
  | v :: _ => .error (.invalidOperand operator (.entryNotObject v.kind))
end

/-- The filter that a filter document stands for. -/
def compile (d : Document) : Except StoreError Filter :=
  (compileEntries d.entries).map conjunction

end QuerySets.Filter
