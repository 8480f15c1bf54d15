import QuerySets.Execution.Session

/-!
Results of sets: the documents of each query, or the reason of the failure.
-/

namespace QuerySets

abbrev SetResult := Except SetFailure (List QueryResult)

def QueryResult.toJson (r : QueryResult) : Json :=
  .record [("Name", .string r.name), ("Docs", .array (r.docs.map (·.toJson)))]

def SetFailure.toJson (f : SetFailure) : Json :=
  let commands := f.commands.map fun commands =>
    ("commands", Json.array (commands.map (·.toJson)))
  .record (commands.toList ++ [("error", .string f.error.message)])

namespace SetResult

def toJson (r : SetResult) : Json :=
  match r with
  | .ok results => .record [("results", .array (results.map (·.toJson)))]
  | .error f => .record [("results", f.toJson)]

def isSuccess (r : SetResult) : Bool := r.toBool

/-- The message of a failure. -/
def error? (r : SetResult) : Option String :=
  match r with
  | .ok _ => none
  | .error f => some f.error.message

end SetResult

end QuerySets
