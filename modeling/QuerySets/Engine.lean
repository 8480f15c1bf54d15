import QuerySets.Config
import QuerySets.Execution.Parameters
import QuerySets.Execution.Result

/-!
The engine: a store of documents, a registry of definitions, and the execution of
sets with both of them.
-/

namespace QuerySets

structure Engine where
  store : Store
  registry : Registry
  /-- The collection that scripts run on. -/
  scriptCollection : String

namespace Engine

/-- An engine that keeps its data as records, with nothing in it yet. -/
def persistent (c : Config) : Engine :=
  ⟨.persistent .empty, .persistent c.cache, c.scriptCollection⟩

/-- The same data with new settings and empty caches. -/
def reopen (e : Engine) (c : Config) : Engine :=
  ⟨e.store, e.registry.reopen c.cache, c.scriptCollection⟩

/-- The engine after an execution. -/
def after (e : Engine) (s : Session) : Engine := { e with store := s.store, registry := s.registry }

def failed (error : ExecutionError) : SetResult := .error ⟨none, error⟩

/-- Executes a set with variables. Disabled sets and sets without queries fail
before anything is run. Each run of a pipeline looks at the watch. -/
def exec (e : Engine) (watch : Time.Watch) (set : QuerySet) (vars : Variables) :
    SetResult × Engine :=
  if !set.enabled then (failed (.disabled set.name), e)
  else if set.queries.isEmpty then (failed (.withoutQueries set.name), e)
  else
    match vars.reconcile set.params e.registry with
    | (.error error, registry) => (failed error, { e with registry })
    | (.ok vars, registry) =>
      let (result, s) :=
        (Session.mk e.store registry vars Bag.empty watch).runSet e.scriptCollection set
      (result, e.after s)

/-- Executes the stored set of a name. -/
def execName (e : Engine) (watch : Time.Watch) (name : String) (vars : Variables) :
    SetResult × Engine :=
  match e.registry.set name with
  | (.error error, registry) => (failed (.definition error), { e with registry })
  | (.ok set, registry) => { e with registry }.exec watch set vars

end Engine

end QuerySets
