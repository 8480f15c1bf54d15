import QuerySets.Definition.Registry
import QuerySets.Execution.Error
import QuerySets.Template.Substitution

/-!
Variables held against the parameters that a set declares. A missing variable
takes the default of its parameter, unless that is empty; the value of a parameter
with a pattern has to match it. All faults are reported together.
-/

namespace QuerySets

namespace Param

/-- Checks the value of a parameter. Only a pattern that cannot be had for another
reason than that it does not exist is an error of its own. -/
def checkValue (p : Param) (value : String) (r : Registry) :
    Except DefinitionError (List ParameterFault) × Registry :=
  if p.pattern.isEmpty then (.ok [], r)
  else
    match r.pattern p.pattern with
    | (.ok pattern, r) =>
      (.ok (if pattern.isMatch value then [] else [.mismatch value p.name p.pattern]), r)
    | (.error (.notFound _ _), r) => (.ok [.unknownPattern value p.name], r)
    | (.error e, r) => (.error e, r)

/-- The variables with the default of a parameter, where that is needed. -/
def bind (p : Param) (vars : Variables) : Variables :=
  if vars.contains p.name || p.default.isEmpty then vars else vars.insert p.name p.default

/-- The faults of one parameter, whose default has been filled in. -/
def check (p : Param) (vars : Variables) (r : Registry) :
    Except DefinitionError (List ParameterFault) × Registry :=
  match vars.get? p.name with
  | none => (.ok [.missing p.name], r)
  | some value => p.checkValue value r

end Param

namespace Variables

/-- Goes through the parameters with the faults found so far. -/
def reconcileFrom (faults : List ParameterFault) (vars : Variables) (r : Registry) :
    List Param → Except ExecutionError Variables × Registry
  | [] => (if faults.isEmpty then .ok vars else .error (.parameters faults), r)
  | p :: rest =>
    let vars := p.bind vars
    match p.check vars r with
    | (.error e, r) => (.error (.definition e), r)
    | (.ok found, r) => reconcileFrom (faults ++ found) vars r rest

/-- The variables with all defaults, if they are what the parameters ask for. -/
def reconcile (vars : Variables) (params : List Param) (r : Registry) :
    Except ExecutionError Variables × Registry :=
  reconcileFrom [] vars r params

end Variables

end QuerySets
