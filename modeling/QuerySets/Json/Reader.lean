import QuerySets.Json.Draft
import QuerySets.Json.Printer
import QuerySets.Text.Quoted

/-!
Readers of JSON that expect a certain shape. Members of a record are read in the
order in which they are written, and the first fault found is reported; members
that are missing are reported last, in the order of the record. A record may also
be written as the array of its members. Unknown members only have to be JSON in
form.
-/

namespace QuerySets.Json

inductive ReadError
  /-- The text is not JSON. -/
  | malformed
  | unexpected (found expected : String)
  | missing (member : String)
  | repeated (member : String)
  | tooShort (given : Nat) (shape : String) (members : Nat)
  | surplus (given : Nat)
  | refused (reason : String)

namespace ReadError

/-- The message; a text that is no JSON has none of its own. -/
def message : ReadError → String
  | malformed => ""
  | unexpected found expected => s!"invalid type: {found}, expected {expected}"
  | missing member => s!"missing field `{member}`"
  | repeated member => s!"duplicate field `{member}`"
  | tooShort given shape members =>
    s!"invalid length {given}, expected {shape} with {members} elements"
  | surplus given => s!"invalid length {given}, expected fewer elements in array"
  | refused reason => reason

end ReadError

namespace Draft

/-- What is found at the start of a draft; none when the text breaks off there. -/
def found? : Draft → Option String
  | .null => some "null"
  | .bool b => some (if b then "boolean `true`" else "boolean `false`")
  | .number n => n.map fun
    | .whole k => s!"integer `" ++ String.ofList (Text.Numeral.ofInt k) ++ "`"
    | .float x => "floating point `" ++ (Decimal.write? x).getD "null" ++ "`"
  | .string s => s.map fun s => "string " ++ Text.Quoted.quote s
  | .array _ _ => some "sequence"
  | .object _ _ => some "map"
  | .broken => none

def unexpected {α : Type} (expected : String) (draft : Draft) : Except ReadError α :=
  match draft.found? with
  | some found => .error (.unexpected found expected)
  | none => .error .malformed

end Draft

/-- Reads a draft in which so many containers may still lie inside of each other. -/
abbrev Reader (α : Type) := Nat → Draft → Except ReadError α

namespace Reader

variable {α σ : Type}

def string : Reader String
  | _, .string (some s) => .ok s
  | _, draft => draft.unexpected "a string"

def bool : Reader Bool
  | _, .bool b => .ok b
  | _, draft => draft.unexpected "a boolean"

/-- A count that fits in a 64-bit word. -/
def word : Reader Nat
  | _, .number (some (.whole n)) =>
    if n < 0 then Draft.unexpected "u64" (.number (some (.whole n))) else .ok n.toNat
  | _, draft => draft.unexpected "u64"

/-- Any JSON value. -/
def json : Reader Json := fun room draft =>
  match draft.toJson? room with
  | some j => .ok j
  | none => .error .malformed

def items (item : Reader α) (room : Nat) : List Draft → Except ReadError (List α)
  | [] => .ok []
  | part :: rest => do
    let first ← item room part
    let others ← items item room rest
    return first :: others

def list (item : Reader α) : Reader (List α)
  | 0, .array _ _ => .error .malformed
  | room + 1, .array parts closed => do
    let all ← items item room parts
    if closed then return all else .error .malformed
  | _, draft => draft.unexpected "a sequence"

/-- A member of a record: how it is read into the record, and whether it has to
be there. -/
structure Member (σ : Type) where
  name : String
  required : Bool
  read : Nat → Draft → σ → Except ReadError σ

def Member.of (name : String) (required : Bool) (reader : Reader α) (write : α → σ → σ) :
    Member σ :=
  ⟨name, required, fun room draft record => (reader room draft).map (write · record)⟩

/-- Reads written members into a record; `seen` are the names read before. -/
def readMembers (members : List (Member σ)) (room : Nat) (seen : List String) (record : σ) :
    List (Option String × Draft) → Except ReadError (List String × σ)
  | [] => .ok (seen, record)
  | (none, _) :: _ => .error .malformed
  | (some key, part) :: rest =>
    match members.find? (·.name == key) with
    | none =>
      if part.isWhole then readMembers members room seen record rest else .error .malformed
    | some member =>
      if key ∈ seen then .error (.repeated key)
      else do
        let record ← member.read room part record
        readMembers members room (key :: seen) record rest

/-- Reads the items of an array as the members of a record in their order. -/
def readItems (shape : String) (members : List (Member σ)) (closed : Bool) (room given : Nat)
    (record : σ) : List (Member σ) → List Draft → Except ReadError σ
  | [], [] => if closed then .ok record else .error .malformed
  | [], _ :: rest => .error (.surplus (given + rest.length + 1))
  | member :: others, [] =>
    if !closed then .error .malformed
    else if member.required then .error (.tooShort given shape members.length)
    else readItems shape members closed room (given + 1) record others []
  | member :: others, part :: rest => do
    let record ← member.read room part record
    readItems shape members closed room (given + 1) record others rest

/-- A record that starts out as `blank`. -/
def record (shape : String) (members : List (Member σ)) (blank : σ) : Reader σ
  | 0, .array _ _ => .error .malformed
  | 0, .object _ _ => .error .malformed
  | room + 1, .object parts closed => do
    let (seen, filled) ← readMembers members room [] blank parts
    if !closed then .error .malformed
    match members.find? fun member => member.required && !seen.contains member.name with
    | some member => .error (.missing member.name)
    | none => return filled
  | room + 1, .array parts closed => readItems shape members closed room 0 blank members parts
  | _, draft => draft.unexpected shape

/-- Reads a whole text. Items beyond the members of a record are no JSON then,
because the end of the array is expected in their place. -/
def ofText (reader : Reader α) (text : String) : Except ReadError α :=
  let (draft, trailing) := Draft.ofText text
  match reader depthLimit draft with
  | .ok a => if trailing then .error .malformed else .ok a
  | .error (.surplus _) => .error .malformed
  | .error e => .error e

/-- Reads a value that is at hand as a tree. -/
def ofJson (reader : Reader α) (value : Json) : Except ReadError α :=
  reader depthLimit (Draft.ofJson value)

end Reader

end QuerySets.Json
