import QuerySets.Fields
import QuerySets.Text.Numeral
import QuerySets.Text.Split

/-!
The options of the program and the commands that they belong to. Every option has
a value. Those of the settings can be given at any level of a command and may also
be set by a variable of the environment.
-/

namespace QuerySets.CommandLine

/-- What the value of an option has to look like. -/
inductive ValueForm
  | text
  /-- The path of a file, which is not empty. -/
  | path
  /-- A count that fits in a 64-bit word. -/
  | word
  /-- A name and a value with an equals sign between them. -/
  | assignment

structure OptionSpec where
  name : String
  letter : Option Char
  form : ValueForm
  /-- The variable of the environment that stands in where the option is missing. -/
  env : Option String
  repeats : Bool

/-- A command with its own options, or a group of commands. -/
inductive Grammar
  | command (options : List OptionSpec)
  | group (members : List (String × Grammar))

/-- The name and the value of a variable; the name is not empty. -/
def assignment? (text : String) : Option (String × String) :=
  match Text.cutFirst? '=' text.toList with
  | some (c :: name, value) => some (String.ofList (c :: name), String.ofList value)
  | _ => none

def ValueForm.accepts (form : ValueForm) (value : String) : Bool :=
  match form with
  | text => true
  | path => !value.isEmpty
  | word => (Text.Numeral.word? value.toList).isSome
  | assignment => (assignment? value).isSome

namespace OptionSpec

def setting (name : String) (form : ValueForm) (env : Option String) : OptionSpec :=
  ⟨name, none, form, env, false⟩

def config : OptionSpec := setting "config" .path none

def dataPath : OptionSpec := setting "data-path" .path (some "XENIA_DATA_PATH")

def cacheCapacity : OptionSpec :=
  setting "cache-capacity" .word (some "XENIA_CACHE_CAPACITY")

def cacheLifetime : OptionSpec :=
  setting "cache-ttl-secs" .word (some "XENIA_CACHE_TTL_SECS")

def scriptCollection : OptionSpec :=
  setting "script-collection" .text (some "XENIA_SCRIPT_COLLECTION")

/-- The options that can be given at any level. -/
def settings : List OptionSpec :=
  [config, dataPath, cacheCapacity, cacheLifetime, scriptCollection]

def named : OptionSpec := ⟨"name", some 'n', .text, none, false⟩

def fromFile : OptionSpec := ⟨"file", some 'f', .path, none, false⟩

def ofCollection : OptionSpec := ⟨"collection", some 'c', .text, none, false⟩

def binding : OptionSpec := ⟨"var", some 'v', .assignment, none, true⟩

end OptionSpec

namespace Grammar

open OptionSpec

/-- The commands on definitions that the given options identify. -/
def definitions (key : List OptionSpec) : Grammar :=
  .group [("upsert", .command [fromFile]), ("get", .command key), ("list", .command []),
    ("delete", .command key), ("history", .command key)]

/-- All commands of the program. -/
def program : Grammar :=
  .group
    [("exec", .command [named, fromFile, binding]), ("set", definitions [named]),
     ("regex", definitions [named]), ("script", definitions [named]),
     ("mask", definitions [ofCollection, named]),
     ("data", .group
       [("load", .command [ofCollection, fromFile]), ("drop", .command [ofCollection])])]

/-- The options of its own. -/
def options : Grammar → List OptionSpec
  | command options => options
  | group _ => []

/-- The member of a group. -/
def member? (word : String) : Grammar → Option Grammar
  | command _ => none
  | group members => members.lookup word

/-- Whether a row of words leads to a command or a group. -/
def leadsOn (g : Grammar) : List String → Bool
  | [] => true
  | word :: rest =>
    match g.member? word with
    | some inner => inner.leadsOn rest
    | none => word == "help" && rest.isEmpty

end Grammar

end QuerySets.CommandLine
