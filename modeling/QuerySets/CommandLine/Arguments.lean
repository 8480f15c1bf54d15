import QuerySets.CommandLine.Option

/-!
Reading of arguments. Words lead from the whole program to one of its commands;
options stand between and after them. An option is given by its name or its letter,
and its value is joined to it or follows it.
-/

namespace QuerySets.CommandLine

/-- What is given at one level: the word that leads there, and options in order. -/
structure Level where
  word : String
  given : List (String × String)

/-- Why arguments are no command to be run. -/
inductive Stop
  | help
  | version
  | usage
deriving DecidableEq

/-- An argument by its form. -/
inductive Argument
  /-- Two hyphens alone, after which no options are read. -/
  | separator
  | long (name : String) (value : Option String)
  /-- A letter with what follows it. -/
  | short (letter : Char) (rest : List Char)
  | word

def Argument.ofString (text : String) : Argument :=
  match text.toList with
  | ['-', '-'] => separator
  | '-' :: '-' :: cs =>
    match Text.cutFirst? '=' cs with
    | some (name, value) => long (String.ofList name) (some (String.ofList value))
    | none => long (String.ofList cs) none
  | '-' :: letter :: cs => short letter cs
  | _ => word

/-- The value that is joined to a letter, with an equals sign or without. -/
def joinedValue? (cs : List Char) : Option String :=
  match cs with
  | [] => none
  | '=' :: value => some (String.ofList value)
  | value => some (String.ofList value)

/-- A place among the arguments. -/
structure Reading where
  grammar : Grammar
  /-- The levels passed through, the outermost first. -/
  above : List Level
  here : Level
  /-- The option whose value comes next. -/
  pending : Option OptionSpec

namespace Reading

def start : Reading := ⟨Grammar.program, [], ⟨"", []⟩, none⟩

def isOutermost (r : Reading) : Bool := r.above.isEmpty

def options (r : Reading) : List OptionSpec := r.grammar.options ++ OptionSpec.settings

/-- Records the value of an option, which is given once at a level unless it repeats. -/
def give (r : Reading) (o : OptionSpec) (value : String) : Except Stop Reading :=
  if !o.form.accepts value || (!o.repeats && r.here.given.any (·.1 == o.name)) then
    .error .usage
  else
    .ok { r with
      here := { r.here with given := r.here.given ++ [(o.name, value)] }
      pending := none }

/-- Meets an option, whose value is joined to it or comes next. -/
def meet (r : Reading) (o : OptionSpec) (value : Option String) : Except Stop Reading :=
  match value with
  | some value => r.give o value
  | none => .ok { r with pending := some o }

def descend (r : Reading) (word : String) (inner : Grammar) : Reading :=
  ⟨inner, r.above ++ [r.here], ⟨word, []⟩, none⟩

def readLong (r : Reading) (name : String) (value : Option String) : Except Stop Reading :=
  match r.options.find? (·.name == name) with
  | some o => r.meet o value
  | none =>
    if name = "help" && value.isNone then .error .help
    else if name = "version" && value.isNone && r.isOutermost then .error .version
    else .error .usage

def readShort (r : Reading) (letter : Char) (rest : List Char) : Except Stop Reading :=
  match r.options.find? (·.letter == some letter) with
  | some o => r.meet o (joinedValue? rest)
  | none =>
    if letter = 'h' then .error .help
    else if letter = 'V' && r.isOutermost then .error .version
    else .error .usage

/-- The levels that have been read, if they end in a command. -/
def finish (r : Reading) : Except Stop (List Level) :=
  match r.pending, r.grammar with
  | none, .command _ => .ok (r.above ++ [r.here])
  | _, _ => .error .usage

/-- Reads a word, which leads on; `rest` are the arguments after it. -/
def readWord (r : Reading) (word : String) (rest : List String) : Except Stop Reading :=
  match r.grammar.member? word, r.grammar with
  | some inner, _ => .ok (r.descend word inner)
  | none, .group _ =>
    .error (if word = "help" && r.grammar.leadsOn rest then .help else .usage)
  | none, .command _ => .error .usage

def readAll (r : Reading) : List String → Except Stop (List Level)
  | [] => r.finish
  | text :: rest =>
    match r.pending, Argument.ofString text with
    | some o, .word => do readAll (← r.give o text) rest
    | some _, _ => .error .usage
    | none, .separator => if rest.isEmpty then r.finish else .error .usage
    | none, .long name value => do readAll (← r.readLong name value) rest
    | none, .short letter cs => do readAll (← r.readShort letter cs) rest
    | none, .word => do readAll (← r.readWord text rest) rest

end Reading

namespace Level

def value? (l : Level) (o : OptionSpec) : Option String := l.given.lookup o.name

def values (l : Level) (o : OptionSpec) : List String :=
  (l.given.filter (·.1 == o.name)).map (·.2)

end Level

/-- The values of variables of the environment. -/
abbrev Environment := Fields String

/-- Whether the environment has a usable value for an option, or none. It is looked
at for every level that is without the option. -/
def Environment.suits (env : Environment) (levels : List Level) (o : OptionSpec) : Bool :=
  match o.env.bind env.get? with
  | none => true
  | some value => o.form.accepts value || levels.all fun l => (l.value? o).isSome

/-- The value of a setting: from the innermost level that has it, else from the
environment. -/
def setting? (levels : List Level) (env : Environment) (o : OptionSpec) : Option String :=
  (levels.filterMap (·.value? o)).getLast? <|> o.env.bind env.get?

end QuerySets.CommandLine
