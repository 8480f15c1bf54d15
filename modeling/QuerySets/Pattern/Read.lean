import QuerySets.Pattern.Bracket
import QuerySets.Pattern.Match
import QuerySets.Pattern.Weight
import QuerySets.Text.Numeral

/-!
Reading a pattern. Groups and alternatives are read as they nest; flags set
inside a group hold up to its end.
-/

namespace QuerySets.Pattern

open Text

/-- Why a pattern cannot be used. -/
inductive ReadError
  | unreadable
  | tooLarge
deriving DecidableEq

def ReadError.message : ReadError → String
  | unreadable => "regex parse error:"
  | tooLarge => "Compiled regex exceeds size limit of 10485760 bytes."

/-- What the start of a group says about it. -/
inductive Header
  | capture
  | named (name : String)
  | flagged (flags : Flags)
  | settings (flags : Flags)

def isNameStart (c : Char) : Bool := c = '_' || Property.isAlphabetic c

def isNameRest (c : Char) : Bool :=
  c = '_' || c = '.' || c = '[' || c = ']' || Property.isAlphabetic c ||
    GeneralCategory.decimalNumber.contains c || GeneralCategory.letterNumber.contains c ||
    GeneralCategory.otherNumber.contains c

/-- A name up to its closing angle bracket. -/
def groupName? (cs : List Char) : Option (String × List Char) :=
  let name := cs.takeWhile (· != '>')
  match name, cs.dropWhile (· != '>') with
  | first :: others, '>' :: rest =>
    if isNameStart first && others.all isNameRest then some (String.ofList name, rest) else none
  | _, _ => none

/-- Flag letters up to a colon or a closing parenthesis. No letter comes twice,
and the hyphen that switches flags off comes once and not last. -/
def flagLetters? (flags : Flags) (on last : Bool) (seen : List Char) :
    List Char → Option (Flags × List Char × List Char)
  | [] => none
  | c :: rest =>
    if c = ':' ∨ c = ')' then
      if last then none else some (flags, seen, c :: rest)
    else if c ∈ seen then none
    else if c = '-' then flagLetters? flags false true (c :: seen) rest
    else do
      let flags ← flags.set? c on
      flagLetters? flags on false (c :: seen) rest

/-- The start of a group, after its parenthesis. Looking around is not supported. -/
def header? (flags : Flags) (cs : List Char) : Option (Header × List Char) :=
  match flags.skip cs with
  | '?' :: '=' :: _ | '?' :: '!' :: _ => none
  | '?' :: '<' :: '=' :: _ | '?' :: '<' :: '!' :: _ => none
  | '?' :: 'P' :: '<' :: rest | '?' :: '<' :: rest =>
    (groupName? rest).map fun (name, rest) => (.named name, rest)
  | '?' :: rest => do
    match ← flagLetters? flags true false [] rest with
    | (changed, _, ':' :: rest) => return (.flagged changed, rest)
    | (changed, seen, _ :: rest) =>
      if seen.isEmpty then none else return (.settings changed, rest)
    | (_, _, []) => none
  | rest => some (.capture, rest)

/-- A count in a repetition, with blanks around it. -/
def count? (flags : Flags) (cs : List Char) : Option (Nat × List Char) := do
  let cs := dropBlanks cs
  let (digits, rest) ← digitsOf cs.length cs
  let n ← Numeral.digits? digits
  if n < UInt32.size then return (n, dropBlanks (flags.skip rest)) else none
where
  digitsOf : Nat → List Char → Option (List Char × List Char)
    | 0, cs => some ([], cs)
    | fuel + 1, cs =>
      match cs with
      | c :: rest =>
        if c.isDigit then (digitsOf fuel (flags.skip rest)).map fun (ds, rest) => (c :: ds, rest)
        else some ([], cs)
      | [] => some ([], [])

/-- The mark after a repetition that makes it take as little as it can. -/
def skipLazy : List Char → List Char
  | '?' :: rest => rest
  | cs => cs

/-- The bounds of a repetition, after its brace. -/
def bounds? (flags : Flags) (cs : List Char) :
    Option (Nat × Option Nat × List Char) := do
  let (least, cs) ← count? flags (flags.skip cs)
  let (most, cs) ← match cs with
    | ',' :: rest =>
      match flags.skip rest with
      | '}' :: rest => some (none, '}' :: rest)
      | rest => (count? flags rest).map fun (n, rest) => (some n, rest)
    | cs => some (some least, cs)
  match cs with
  | '}' :: rest =>
    if (most.map (decide <| least ≤ ·)).getD true then
      return (least, most, skipLazy (flags.skip rest))
    else none
  | _ => none

/-- Repeats the last of the parts, which are kept in reverse. A change of flags
cannot be repeated. -/
def repeatLast? (least : Nat) (most : Option Nat) : List Pattern → Option (List Pattern)
  | [] => none
  | .setting :: _ => none
  | last :: others => some (.repetition last least most :: others)

def primitive? (flags : Flags) : Primitive → Option Pattern
  | .literal c byte =>
    if byte && !flags.unicode && 128 ≤ c.toNat then none else some (flags.literal c)
  | .set set => some (.one set 0)
  | .look what => some (.look what)

/-- The state of reading a group: what has been read, in reverse, and the names
of groups that are in use. -/
structure Reading where
  flags : Flags
  branches : List Pattern
  parts : List Pattern
  names : List String

namespace Reading

def push (state : Reading) (part : Pattern) : Reading :=
  { state with parts := part :: state.parts }

def branch (state : Reading) : Reading :=
  { state with branches := ofParts state.parts.reverse :: state.branches, parts := [] }

def finish (state : Reading) : Pattern :=
  ofBranches (ofParts state.parts.reverse :: state.branches).reverse

end Reading

/-- Reads up to the end of the group, or of the whole text outside of all groups. -/
def body? : Nat → Bool → Reading → List Char → Option (Pattern × List String × List Char)
  | 0, _, _, _ => none
  | fuel + 1, inGroup, state, cs =>
    let flags := state.flags
    let repeated (least : Nat) (most : Option Nat) (rest : List Char) :
        Option (Pattern × List String × List Char) := do
      let parts ← repeatLast? least most state.parts
      body? fuel inGroup { state with parts } rest
    match flags.skip cs with
    | [] => if inGroup then none else some (state.finish, state.names, [])
    | ')' :: rest => if inGroup then some (state.finish, state.names, rest) else none
    | '|' :: rest => body? fuel inGroup state.branch rest
    | '?' :: rest => repeated 0 (some 1) (skipLazy rest)
    | '*' :: rest => repeated 0 none (skipLazy rest)
    | '+' :: rest => repeated 1 none (skipLazy rest)
    | '{' :: rest => do
      let (least, most, rest) ← bounds? flags rest
      repeated least most rest
    | '[' :: rest => do
      let (set, rest) ← Bracket.read? flags rest
      body? fuel inGroup (state.push set) rest
    | '(' :: rest => do
      let inner (flags : Flags) (names : List String) (rest : List Char) :
          Option (Pattern × List String × List Char) := do
        let (body, names, rest) ← body? fuel true ⟨flags, [], [], names⟩ rest
        body? fuel inGroup { state.push (.group body) with names } rest
      match ← header? flags rest with
      | (.settings changed, rest) =>
        body? fuel inGroup { state.push .setting with flags := changed } rest
      | (.flagged changed, rest) => inner changed state.names rest
      | (.capture, rest) => inner flags state.names rest
      | (.named name, rest) =>
        if name ∈ state.names then none else inner flags (name :: state.names) rest
    | '\\' :: rest => do
      let (primitive, rest) ← Escape.read? flags rest
      body? fuel inGroup (state.push (← primitive? flags primitive)) rest
    | '.' :: rest => do body? fuel inGroup (state.push (← flags.dot?)) rest
    | '^' :: rest => body? fuel inGroup (state.push flags.caret) rest
    | '$' :: rest => body? fuel inGroup (state.push flags.dollar) rest
    | c :: rest => body? fuel inGroup (state.push (flags.literal c)) rest

/-- Reads a pattern under flags that hold from its start. -/
def read (flags : Flags) (text : String) : Except ReadError Pattern :=
  let cs := text.toList
  match body? (cs.length + 1) false ⟨flags, [], [], []⟩ cs with
  | none => .error .unreadable
  | some (p, _, _) =>
    if nestingLimit < p.nesting then .error .unreadable
    else if p.isTooLarge then .error .tooLarge
    else .ok p

end QuerySets.Pattern
