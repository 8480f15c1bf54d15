import QuerySets.CommandLine.Command
import QuerySets.Definition.Catalogue
import QuerySets.Engine

/-!
Commands performed on an engine. A command that reads a file is given the text of
it. What cannot be read as JSON is reported without details.
-/

namespace QuerySets.CommandLine

/-- Why a file cannot be read. -/
inductive FileFault
  | missing
  | isDirectory
  | notDirectory
  | other (reason : String)

def FileFault.message : FileFault → String
  | missing => "No such file or directory (os error 2)"
  | isDirectory => "Is a directory (os error 21)"
  | notDirectory => "Not a directory (os error 20)"
  | other reason => reason

inductive CommandError
  | readingConfig (path : String) (fault : FileFault)
  | parsingConfig (path : String)
  | opening (path : String) (fault : FileFault)
  | reading (path : String) (fault : FileFault)
  | parsing (path : String)
  | notDocument (path : String) (error : DocumentError)
  | store (error : StoreError)
  | definition (error : DefinitionError)

/-- The message; a pattern that cannot be compiled is reported with its cause. -/
def CommandError.message : CommandError → String
  | readingConfig path fault => s!"reading config {path}: " ++ fault.message
  | parsingConfig path => s!"parsing config {path}"
  | opening path fault => s!"opening database {path}: IO error: " ++ fault.message
  | reading path fault => s!"reading {path}: " ++ fault.message
  | parsing path => s!"parsing {path}"
  | notDocument path error => s!"parsing {path}: " ++ error.message
  | store (.unreadable _) => "serialization error"
  | store error => error.message
  | definition (.unreadable _) => "definition serialization error"
  | definition (.badPattern name error) =>
    (DefinitionError.badPattern name error).message ++ ": " ++ error.message
  | definition error => error.message

/-- What a command prints, and whether it did what it was asked to. -/
structure Report where
  output : Option Json
  success : Bool

namespace Report

def silent : Report := ⟨none, true⟩

def printed (j : Json) : Report := ⟨some j, true⟩

end Report

/-- The outcome of a part of a command on a registry. -/
def reported {α : Type} (report : α → Report)
    (outcome : Except DefinitionError α × Registry) : Except CommandError Report × Registry :=
  ((outcome.1.map report).mapError .definition, outcome.2)

namespace Action

variable {κ α : Type} [Definition α]

/-- Stores the definition that a text holds. -/
def store (c : Catalogue κ α) (fault : Json.ReadError → CommandError) (text : String)
    (r : Registry) : Except CommandError Registry := do
  let d ← ((Definition.reader (α := α)).ofText text).mapError fault
  (c.upsert r d).mapError .definition

/-- Performs an action on the definitions of a catalogue. -/
def perform (c : Catalogue κ α) (fault : String → Json.ReadError → CommandError) (text : String)
    (r : Registry) : Action κ → Except CommandError Report × Registry
  | .upsert file =>
    match store c (fault file) text r with
    | .ok r => (.ok .silent, r)
    | .error e => (.error e, r)
  | .get key => reported (fun d => .printed (Definition.toJson d)) (c.get r key)
  | .list =>
    reported (fun ds => .printed (.array (ds.map Definition.toJson))) (c.list r, r)
  | .delete key => reported (fun _ => .silent) (c.delete r key)
  | .history key =>
    reported (fun entries => .printed (.array (entries.map (·.toJson)))) (c.history r key, r)

end Action

/-- A set that cannot be read is reported as a fault of the definition. -/
def setFault (_ : String) (e : Json.ReadError) : CommandError := .definition (.unreadable e)

/-- Other definitions are reported with their file. -/
def fileFault (path : String) (_ : Json.ReadError) : CommandError := .parsing path

/-- The documents of a file. -/
def documentsOf (path text : String) : Except CommandError (List Document) :=
  (Document.listOfText text).mapError fun
    | .malformed => .parsing path
    | error => .notDocument path error

/-- The report on an execution, which is printed whether it succeeded or not. -/
def reportOf (r : SetResult) : Report := ⟨some r.toJson, r.isSuccess⟩

/-- What a command works with. -/
structure State where
  engine : Engine
  ids : IdSupply

namespace State

/-- Does something with the registry. -/
def onRegistry (s : State) (action : Registry → Except CommandError Report × Registry) :
    Except CommandError Report × State :=
  let (result, registry) := action s.engine.registry
  (result, { s with engine := { s.engine with registry } })

/-- Executes a set. -/
def executed (s : State) (outcome : SetResult × Engine) : Except CommandError Report × State :=
  (.ok (reportOf outcome.1), { s with engine := outcome.2 })

/-- Appends documents to a collection. -/
def load (s : State) (collection : String) (docs : List Document) :
    Except CommandError Report × State :=
  match s.engine.store.insert s.ids collection docs with
  | .error e => (.error (.store e), s)
  | .ok (store, ids) =>
    let counts : Json :=
      .record [("collection", .string collection), ("inserted", .int docs.length)]
    (.ok (.printed counts), ⟨{ s.engine with store }, ids⟩)

end State

/-- Performs a command; `text` is what its file holds. -/
def Command.perform (now : Time.Instant) (text : String) (s : State) :
    Command → Except CommandError Report × State
  | execStored name vars => s.executed (s.engine.execName now name vars)
  | execFile _ vars =>
    match QuerySet.reader.ofText text with
    | .error e => (.error (.definition (.unreadable e)), s)
    | .ok set => s.executed (s.engine.exec now set vars)
  | sets action => s.onRegistry fun r => action.perform .sets setFault text r
  | patterns action => s.onRegistry fun r => action.perform .patterns fileFault text r
  | scripts action => s.onRegistry fun r => action.perform .scripts fileFault text r
  | masks action => s.onRegistry fun r => action.perform .masks fileFault text r
  | load collection file =>
    match documentsOf file text with
    | .error e => (.error e, s)
    | .ok docs => s.load collection docs
  | drop collection =>
    (.ok .silent, { s with engine.store := s.engine.store.drop collection })

end QuerySets.CommandLine
