import QuerySets.Json.Numeral
import QuerySets.Text.Hex

/-!
JSON text up to the first place where it stops being JSON. A reader that looks
for certain members finds a fault in an early member before a later place where
the text breaks off, so the two kinds of fault are kept in one tree: whatever
could be read stands before the break.
-/

namespace QuerySets.Json

/-- A JSON value as far as its text goes. A container that is not closed breaks
off after its last part. -/
inductive Draft
  | null
  | bool (b : Bool)
  /-- No number is kept when it is beyond the range of floats. -/
  | number (n : Option Number)
  /-- No content is kept when an escape stands for half of a pair. -/
  | string (s : Option String)
  | array (items : List Draft) (closed : Bool)
  | object (members : List (Option String × Draft)) (closed : Bool)
  | broken

namespace Draft

def isBlank (c : Char) : Bool := c = ' ' || c = '\n' || c = '\t' || c = '\x0d'

def skipBlanks (cs : List Char) : List Char := cs.dropWhile isBlank

def hexUnit? (a b c d : Char) : Option Nat := do
  let a ← Text.Hex.value? a
  let b ← Text.Hex.value? b
  let c ← Text.Hex.value? c
  let d ← Text.Hex.value? d
  return ((a * 16 + b) * 16 + c) * 16 + d

def simpleEscape? (c : Char) : Option Char :=
  if c = '"' || c = '\\' || c = '/' then some c
  else if c = 'b' then some '\x08'
  else if c = 'f' then some '\x0c'
  else if c = 'n' then some '\n'
  else if c = 'r' then some '\x0d'
  else if c = 't' then some '\t'
  else none

/-- One unit of a string: a character, or half of a pair. -/
inductive TextUnit
  | char (c : Char)
  | high (n : Nat)
  | low (n : Nat)

def TextUnit.ofNat (n : Nat) : TextUnit :=
  if 0xd800 ≤ n ∧ n < 0xdc00 then .high n
  else if 0xdc00 ≤ n ∧ n < 0xe000 then .low n
  else .char (Char.ofNat n)

/-- The units up to the closing quote. -/
def stringUnits? : List Char → Option (List TextUnit × List Char)
  | [] => none
  | '"' :: rest => some ([], rest)
  | '\\' :: 'u' :: a :: b :: c :: d :: rest => do
    let n ← hexUnit? a b c d
    let (units, rest) ← stringUnits? rest
    return (TextUnit.ofNat n :: units, rest)
  | '\\' :: c :: rest => do
    let e ← simpleEscape? c
    let (units, rest) ← stringUnits? rest
    return (.char e :: units, rest)
  | c :: rest =>
    if c.toNat < 0x20 then none
    else (stringUnits? rest).map fun (units, rest) => (.char c :: units, rest)

/-- A high half must be followed by a low one, and a low one must follow. -/
def joinUnits? : List TextUnit → Option (List Char)
  | [] => some []
  | .char c :: rest => (joinUnits? rest).map (c :: ·)
  | .high h :: .low l :: rest =>
    (joinUnits? rest).map (Char.ofNat (0x10000 + (h - 0xd800) * 0x400 + (l - 0xdc00)) :: ·)
  | _ :: _ => none

/-- A string whose opening quote has been read. -/
def stringBody? (cs : List Char) : Option (Option String × List Char) :=
  (stringUnits? cs).map fun (units, rest) => ((joinUnits? units).map String.ofList, rest)

mutual
/-- The value at the start of a text and what follows it; nothing follows a break. -/
def value : Nat → List Char → Draft × Option (List Char)
  | 0, _ => (.broken, none)
  | fuel + 1, cs =>
    match skipBlanks cs with
    | [] => (.broken, none)
    | '{' :: rest =>
      match skipBlanks rest with
      | '}' :: rest => (.object [] true, some rest)
      | rest =>
        let (parts, rest) := members fuel rest
        (.object parts rest.isSome, rest)
    | '[' :: rest =>
      match skipBlanks rest with
      | ']' :: rest => (.array [] true, some rest)
      | rest =>
        let (parts, rest) := items fuel rest
        (.array parts rest.isSome, rest)
    | '"' :: rest =>
      match stringBody? rest with
      | some (s, rest) => (.string s, some rest)
      | none => (.broken, none)
    | 't' :: 'r' :: 'u' :: 'e' :: rest => (.bool true, some rest)
    | 'f' :: 'a' :: 'l' :: 's' :: 'e' :: rest => (.bool false, some rest)
    | 'n' :: 'u' :: 'l' :: 'l' :: rest => (.null, some rest)
    | cs =>
      match Numeral.scan? cs with
      | some (n, rest) => (.number n.number?, some rest)
      | none => (.broken, none)

/-- The items of an array up to its closing bracket. -/
def items : Nat → List Char → List Draft × Option (List Char)
  | 0, _ => ([], none)
  | fuel + 1, cs =>
    match value fuel cs with
    | (item, none) => ([item], none)
    | (item, some rest) =>
      match skipBlanks rest with
      | ',' :: rest =>
        let (others, rest) := items fuel rest
        (item :: others, rest)
      | ']' :: rest => ([item], some rest)
      | _ => ([item], none)

/-- The members of an object up to its closing brace. -/
def members : Nat → List Char → List (Option String × Draft) × Option (List Char)
  | 0, _ => ([], none)
  | fuel + 1, cs =>
    match skipBlanks cs with
    | '"' :: rest =>
      match stringBody? rest with
      | none => ([], none)
      | some (key, rest) =>
        match skipBlanks rest with
        | ':' :: rest =>
          match value fuel rest with
          | (item, none) => ([(key, item)], none)
          | (item, some rest) =>
            match skipBlanks rest with
            | ',' :: rest =>
              let (others, rest) := members fuel rest
              ((key, item) :: others, rest)
            | '}' :: rest => ([(key, item)], some rest)
            | _ => ([(key, item)], none)
        | _ => ([(key, .broken)], none)
    | _ => ([], none)
end

/-- A whole text: its value, and whether anything but blanks follows it. Every
two steps into the text take at least one character. -/
def ofText (text : String) : Draft × Bool :=
  let cs := text.toList
  match value (2 * cs.length + 4) cs with
  | (draft, none) => (draft, false)
  | (draft, some rest) => (draft, !(skipBlanks rest).isEmpty)

mutual
/-- The whole value, if nothing in it is amiss and it is not nested too deeply. -/
def toJson? (room : Nat) : Draft → Option Json
  | .null => some .null
  | .bool b => some (.bool b)
  | .number n => n.map .number
  | .string s => s.map .string
  | .array parts closed =>
    match room, closed with
    | room + 1, true => (itemsToJson? room parts).map .array
    | _, _ => none
  | .object parts closed =>
    match room, closed with
    | room + 1, true => (membersToJson? room parts).map fun pairs => .object (Fields.ofList pairs)
    | _, _ => none
  | .broken => none

def itemsToJson? (room : Nat) : List Draft → Option (List Json)
  | [] => some []
  | part :: rest => do
    let item ← part.toJson? room
    let others ← itemsToJson? room rest
    return item :: others

def membersToJson? (room : Nat) : List (Option String × Draft) → Option (List (String × Json))
  | [] => some []
  | (key, part) :: rest => do
    let key ← key
    let item ← part.toJson? room
    let others ← membersToJson? room rest
    return (key, item) :: others
end

mutual
/-- Whether the text is JSON at least in form: every container is closed. -/
def isWhole : Draft → Bool
  | .array parts closed => closed && itemsAreWhole parts
  | .object parts closed => closed && membersAreWhole parts
  | .broken => false
  | _ => true

def itemsAreWhole : List Draft → Bool
  | [] => true
  | part :: rest => part.isWhole && itemsAreWhole rest

def membersAreWhole : List (Option String × Draft) → Bool
  | [] => true
  | (_, part) :: rest => part.isWhole && membersAreWhole rest
end

mutual
/-- The draft of a value that is at hand as a tree. -/
def ofJson : Json → Draft
  | .null => .null
  | .bool b => .bool b
  | .number n => .number (some n)
  | .string s => .string (some s)
  | .array parts => .array (ofItems parts) true
  | .object ⟨parts⟩ => .object (ofMembers parts) true

def ofItems : List Json → List Draft
  | [] => []
  | item :: rest => ofJson item :: ofItems rest

def ofMembers : List (String × Json) → List (Option String × Draft)
  | [] => []
  | (key, item) :: rest => (some key, ofJson item) :: ofMembers rest
end

end Draft

/-- Reads a whole text as one value. -/
def ofText? (text : String) : Option Json :=
  match Draft.ofText text with
  | (draft, false) => draft.toJson? depthLimit
  | (_, true) => none

end QuerySets.Json
