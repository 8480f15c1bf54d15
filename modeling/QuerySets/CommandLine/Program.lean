import QuerySets.CommandLine.Perform

/-!
The program: it reads its arguments, its settings and the files that it needs,
opens the data, performs one command and keeps what has changed. It reaches the
machine that it runs on through a host.
-/

namespace QuerySets.CommandLine

/-- What the program asks of the machine. -/
structure Host (m : Type → Type) where
  /-- A variable of the environment. -/
  getVariable : String → m (Option String)
  fileText : String → m (Except FileFault String)
  /-- The engine whose data is kept where the settings say. -/
  openEngine : Config → m (Except FileFault Engine)
  keepEngine : Config → Engine → m Unit
  now : m Time.Instant
  takeIds : m IdSupply
  keepIds : IdSupply → m Unit

/-- What the program leaves behind: its exit code, and what it writes on the two
outputs. -/
structure Exit where
  code : Nat
  output : Option String
  error : Option String

namespace Exit

def version : String := "xenia 0.1.0"

def usage : String :=
  "Executes parameterized sets of aggregation pipelines.\n\n" ++
    "Usage: xenia [OPTIONS] <COMMAND>\n\n" ++
    "Commands: exec, set, regex, script, mask, data"

def ofStop : Stop → Exit
  | .help => ⟨0, some usage, none⟩
  | .version => ⟨0, some version, none⟩
  | .usage => ⟨2, none, some usage⟩

def ofError (e : CommandError) : Exit := ⟨1, none, some ("error: " ++ e.message)⟩

def ofReport (r : Report) : Exit := ⟨if r.success then 0 else 1, r.output.map (·.spread), none⟩

def ofResult (result : Except CommandError Report) : Exit :=
  match result with
  | .ok report => ofReport report
  | .error e => ofError e

end Exit

namespace Host

variable {m : Type → Type} [Monad m]

/-- The variables that options look for. -/
def environment (h : Host m) : List OptionSpec → m Environment
  | [] => pure Fields.empty
  | o :: rest => do
    let others ← environment h rest
    match o.env with
    | none => return others
    | some name =>
      match ← h.getVariable name with
      | none => return others
      | some value => return others.insert name value

/-- The settings of a request. -/
def settings (h : Host m) (r : Request) : m (Except CommandError Config) := do
  match r.config with
  | none => return .ok (r.overrides.apply Config.default)
  | some path =>
    match ← h.fileText path with
    | .error fault => return .error (.readingConfig path fault)
    | .ok text =>
      match Config.reader.ofText text with
      | .error _ => return .error (.parsingConfig path)
      | .ok config => return .ok (r.overrides.apply config)

/-- The text of the file of a command, or nothing where there is none. -/
def content (h : Host m) (c : Command) : m (Except CommandError String) := do
  match c.file? with
  | none => return .ok ""
  | some path => return (← h.fileText path).mapError (.reading path)

/-- Performs a command on an open engine and keeps what it leaves. -/
def perform (h : Host m) (config : Config) (e : Engine) (c : Command) (text : String) :
    m Exit := do
  let (result, s) := c.perform (← h.now) text ⟨e, ← h.takeIds⟩
  h.keepEngine config s.engine
  h.keepIds s.ids
  return .ofResult result

/-- Answers a request. -/
def answer (h : Host m) (r : Request) : m Exit := do
  match ← h.settings r with
  | .error e => return .ofError e
  | .ok config =>
    match ← h.openEngine config with
    | .error fault => return .ofError (.opening config.dataPath fault)
    | .ok e =>
      match ← h.content r.command with
      | .error error => return .ofError error
      | .ok text => h.perform config e r.command text

/-- Runs the program with its arguments. -/
def run (h : Host m) (arguments : List String) : m Exit := do
  match Request.read (← h.environment OptionSpec.settings) arguments with
  | .error stop => return .ofStop stop
  | .ok request => h.answer request

end Host

end QuerySets.CommandLine
