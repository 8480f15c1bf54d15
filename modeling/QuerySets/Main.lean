import QuerySets.Archive
import QuerySets.CommandLine.Program
import Std.Time.DateTime.Timestamp

/-!
The program on a real machine. Data is kept in one file inside of the directory
that the settings name.
-/

namespace QuerySets.CommandLine.Machine

def faultOf : IO.Error → FileFault
  | .noFileOrDirectory .. => .missing
  | e => .other (toString e)

def attempt {α : Type} (action : IO α) : IO (Except FileFault α) := do
  try
    return .ok (← action)
  catch e => return .error (faultOf e)

def dataFile (config : Config) : String := config.dataPath ++ "/data.json"

def openKept (config : Config) : IO (Except FileFault Engine) := do
  match ← attempt (IO.FS.createDirAll config.dataPath) with
  | .error fault => return .error fault
  | .ok () =>
    match ← attempt (IO.FS.readFile (dataFile config)) with
    | .error .missing => return .ok (Engine.persistent config)
    | .error fault => return .error fault
    | .ok text =>
      match Archive.read? config text with
      | some e => return .ok e
      | none => return .error (.other "damaged data")

def currentInstant : IO Time.Instant := do
  let nanos := (← Std.Time.Timestamp.now).toNanosecondsSinceUnixEpoch.toInt
  return ⟨nanos / 1000000000, (nanos % 1000000000).toNat⟩

def freshIds : IO IdSupply := do
  let now ← currentInstant
  return ⟨now.seconds.toNat, ← IO.rand 0 ((1 <<< 40) - 1), ← IO.rand 0 ((1 <<< 24) - 1)⟩

def host : Host IO where
  getVariable name := IO.getEnv name
  fileText path := attempt (IO.FS.readFile path)
  openEngine := openKept
  keepEngine config e := IO.FS.writeFile (dataFile config) (Archive.write e)
  now := currentInstant
  takeIds := freshIds
  keepIds _ := pure ()

end QuerySets.CommandLine.Machine

def main (arguments : List String) : IO UInt32 := do
  let exit ← QuerySets.CommandLine.Machine.host.run arguments
  if let some text := exit.output then IO.println text
  if let some text := exit.error then IO.eprintln text
  return UInt32.ofNat exit.code
