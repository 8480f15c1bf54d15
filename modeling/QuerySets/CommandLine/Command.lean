import QuerySets.CommandLine.Arguments
import QuerySets.Config
import QuerySets.Template.Substitution

/-!
Commands, and the settings that they are run with.
-/

namespace QuerySets.CommandLine

/-- What is done with the definitions of a kind whose keys are `κ`. -/
inductive Action (κ : Type)
  | upsert (file : String)
  | get (key : κ)
  | list
  | delete (key : κ)
  | history (key : κ)

inductive Command
  | execStored (name : String) (vars : Variables)
  | execFile (file : String) (vars : Variables)
  | sets (action : Action String)
  | patterns (action : Action String)
  | scripts (action : Action String)
  | masks (action : Action (String × String))
  | load (collection file : String)
  | drop (collection : String)

/-- The settings that take the place of those of the configuration. -/
structure Overrides where
  dataPath : Option String
  cacheCapacity : Option Nat
  cacheLifetime : Option Nat
  scriptCollection : Option String

structure Request where
  config : Option String
  overrides : Overrides
  command : Command

open OptionSpec

/-- An action on definitions, with the key read from its options. -/
def Action.ofLevel? {κ : Type} (key : Level → Option κ) (l : Level) : Option (Action κ) :=
  match l.word with
  | "upsert" => (l.value? fromFile).map .upsert
  | "get" => (key l).map .get
  | "list" => some .list
  | "delete" => (key l).map .delete
  | "history" => (key l).map .history
  | _ => none

def nameKey? (l : Level) : Option String := l.value? named

def maskKey? (l : Level) : Option (String × String) := do
  return (← l.value? ofCollection, ← l.value? named)

/-- A set is executed by its name or from a file, and not by both. -/
def execOfLevel? (l : Level) : Option Command :=
  let vars := Fields.ofList ((l.values binding).filterMap assignment?)
  match l.value? named, l.value? fromFile with
  | some name, none => some (.execStored name vars)
  | none, some file => some (.execFile file vars)
  | _, _ => none

def dataOfLevel? (l : Level) : Option Command :=
  match l.word with
  | "load" => do return .load (← l.value? ofCollection) (← l.value? fromFile)
  | "drop" => (l.value? ofCollection).map .drop
  | _ => none

/-- The command that the words and the innermost options name. -/
def Command.ofLevels? (levels : List Level) : Option Command :=
  match levels with
  | [_, l] => if l.word = "exec" then execOfLevel? l else none
  | [_, kind, l] =>
    match kind.word with
    | "set" => (Action.ofLevel? nameKey? l).map .sets
    | "regex" => (Action.ofLevel? nameKey? l).map .patterns
    | "script" => (Action.ofLevel? nameKey? l).map .scripts
    | "mask" => (Action.ofLevel? maskKey? l).map .masks
    | "data" => dataOfLevel? l
    | _ => none
  | _ => none

namespace Overrides

def ofLevels (levels : List Level) (env : Environment) : Overrides :=
  let count (o : OptionSpec) : Option Nat :=
    (setting? levels env o).bind fun value => Text.Numeral.word? value.toList
  { dataPath := setting? levels env OptionSpec.dataPath
    cacheCapacity := count OptionSpec.cacheCapacity
    cacheLifetime := count OptionSpec.cacheLifetime
    scriptCollection := setting? levels env OptionSpec.scriptCollection }

def apply (o : Overrides) (c : Config) : Config :=
  { dataPath := o.dataPath.getD c.dataPath
    cache := ⟨o.cacheCapacity.getD c.cache.capacity, o.cacheLifetime.getD c.cache.lifetime⟩
    scriptCollection := o.scriptCollection.getD c.scriptCollection }

end Overrides

namespace Request

/-- The request that arguments make in an environment. -/
def read (env : Environment) (arguments : List String) : Except Stop Request := do
  let levels ← Reading.start.readAll arguments
  if !settings.all (env.suits levels) then throw .usage
  match Command.ofLevels? levels with
  | some command =>
    return ⟨setting? levels env OptionSpec.config, .ofLevels levels env, command⟩
  | none => throw .usage

end Request

/-- The file that an action reads. -/
def Action.file? {κ : Type} : Action κ → Option String
  | upsert file => some file
  | _ => none

/-- The file that a command reads. -/
def Command.file? : Command → Option String
  | execFile file _ => some file
  | sets a => a.file?
  | patterns a => a.file?
  | scripts a => a.file?
  | masks a => a.file?
  | load _ file => some file
  | _ => none

end QuerySets.CommandLine
