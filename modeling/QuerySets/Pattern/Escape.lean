import QuerySets.Pattern.Flags
import QuerySets.Pattern.Property
import QuerySets.Text.Hex

/-!
What a backslash and the characters after it stand for.
-/

namespace QuerySets.Pattern

open Text

inductive Primitive
  /-- A character; `byte` if it is written as one byte in hexadecimal. -/
  | literal (c : Char) (byte : Bool)
  | set (set : CharSet)
  | look (look : Look)

namespace Escape

def isHex (c : Char) : Bool := (Hex.value? c).isSome

/-- The character with a code point, unless that is half of a pair or too great. -/
def char? (n : Nat) : Option Char :=
  if h : n.isValidChar then some (Char.ofNatAux n h) else none

/-- The characters that have a meaning of their own in patterns. -/
def isMeta (c : Char) : Bool := "\\.+*?()|[]\x7b\x7d^$#&-~".toList.contains c

/-- ASCII characters that may be escaped without a need. -/
def isSuperfluous (c : Char) : Bool :=
  c.toNat < 128 && !c.isAlphanum && c != '<' && c != '>'

/-- As many hexadecimal digits as asked for, the first of which comes first. -/
def hexDigits? (flags : Flags) : Nat → List Char → Option (List Char × List Char)
  | 0, cs => some ([], cs)
  | _ + 1, [] => none
  | n + 1, c :: rest => do
    if !isHex c then none
    let (digits, rest) ← hexDigits? flags n (flags.skip rest)
    return (c :: digits, rest)

/-- The hexadecimal digits up to a closing brace. -/
def bracedDigits? (flags : Flags) : Nat → List Char → Option (List Char × List Char)
  | 0, _ => none
  | fuel + 1, cs =>
    match cs with
    | [] => none
    | '}' :: rest => some ([], rest)
    | c :: rest => do
      if !isHex c then none
      let (digits, rest) ← bracedDigits? flags fuel (flags.skip rest)
      return (c :: digits, rest)

/-- A character by its number, after the letter that tells how many digits there are. -/
def hex? (flags : Flags) (letter : Char) (cs : List Char) :
    Option (Primitive × List Char) := do
  let count := if letter = 'x' then 2 else if letter = 'u' then 4 else 8
  let (digits, rest, byte) ← match flags.skip cs with
    | '{' :: rest =>
      (bracedDigits? flags (rest.length + 1) (flags.skip rest)).map fun (digits, rest) =>
        (digits, rest, false)
    | cs => (hexDigits? flags count cs).map fun (digits, rest) => (digits, rest, letter = 'x')
  let n ← Hex.number? digits
  let c ← char? n
  return (.literal c byte, flags.skip rest)

/-- The characters up to a closing brace. -/
def bracedName? (flags : Flags) : Nat → List Char → Option (List Char × List Char)
  | 0, _ => none
  | fuel + 1, cs =>
    match flags.skip cs with
    | [] => none
    | '}' :: rest => some ([], rest)
    | c :: rest => do
      let (name, rest) ← bracedName? flags fuel rest
      return (c :: name, rest)

/-- Cuts a text at the first place where two characters stand one after the other. -/
def cutPair? (a b : Char) : List Char → Option (List Char × List Char)
  | [] => none
  | c :: rest =>
    if c = a ∧ rest.head? = some b then some ([], rest.tail)
    else (cutPair? a b rest).map fun (front, back) => (c :: front, back)

/-- The set that a name in braces stands for, and whether its complement is meant. -/
def namedSet? (name : List Char) : Option (CharSet × Bool) :=
  match cutPair? '!' '=' name with
  | some (property, value) => (Property.valued? property value).map (·, true)
  | none =>
    match cutFirst? ':' name with
    | some (property, value) => (Property.valued? property value).map (·, false)
    | none =>
      match cutFirst? '=' name with
      | some (property, value) => (Property.valued? property value).map (·, false)
      | none => (Property.named? name).map (·, false)

/-- The name of a property, after `p` or `P`: one character, or several in braces. -/
def propertyName? (flags : Flags) (cs : List Char) : Option ((CharSet × Bool) × List Char) :=
  match flags.skip cs with
  | [] => none
  | '{' :: rest => do
    let (name, rest) ← bracedName? flags (rest.length + 1) rest
    return (← namedSet? name, rest)
  | '\\' :: _ => none
  | c :: rest => (Property.named? [c]).map fun set => ((set, false), flags.skip rest)

/-- A set of characters by a property. -/
def property? (flags : Flags) (negated : Bool) (cs : List Char) :
    Option (Primitive × List Char) := do
  let ((set, different), rest) ← propertyName? flags cs
  if !flags.unicode then none
  let set ← flags.close? (negated != different) set
  return (.set set, rest)

/-- The sets that are named by one letter; a capital stands for the complement. -/
def perl? (flags : Flags) (letter : Char) : Option Primitive := do
  let set : CharSet :=
    if letter.toLower = 'd' then (if flags.unicode then .digit else .asciiDigit)
    else if letter.toLower = 's' then (if flags.unicode then .space else .asciiSpace)
    else flags.word
  let set := set.complIf letter.isUpper
  if flags.unicode || set.isAscii then return .set set else none

def isBoundaryLetter (c : Char) : Bool := c.isAlpha || c = '-'

/-- The letters up to a closing brace. -/
def boundaryName? (flags : Flags) : Nat → List Char → Option (List Char × List Char)
  | 0, _ => none
  | fuel + 1, cs =>
    match cs with
    | [] => none
    | '}' :: rest => some ([], rest)
    | c :: rest => do
      if !isBoundaryLetter c then none
      let (name, rest) ← boundaryName? flags fuel (flags.skip rest)
      return (c :: name, rest)

def namedBoundary? (word : CharSet) (name : String) : Option Look :=
  if name = "start" then some (.wordStart word)
  else if name = "end" then some (.wordFinish word)
  else if name = "start-half" then some (.wordStartHalf word)
  else if name = "end-half" then some (.wordFinishHalf word)
  else none

/-- A word boundary, with the name of a special one after it if a letter follows
the brace; otherwise the brace begins a repetition. -/
def boundary? (flags : Flags) (cs : List Char) : Option (Primitive × List Char) :=
  let word := flags.word
  match cs with
  | '{' :: rest =>
    match flags.skip rest with
    | [] => none
    | c :: inner =>
      if isBoundaryLetter c then do
        let (name, rest) ← boundaryName? flags (inner.length + 2) (c :: inner)
        let look ← namedBoundary? word (String.ofList name)
        return (.look look, rest)
      else some (.look (.boundary word), cs)
  | _ => some (.look (.boundary word), cs)

/-- Reads what follows a backslash. -/
def read? (flags : Flags) : List Char → Option (Primitive × List Char)
  | [] => none
  | c :: rest =>
    if c = 'x' ∨ c = 'u' ∨ c = 'U' then
      if (flags.skip rest).isEmpty then none else hex? flags c rest
    else if c = 'p' ∨ c = 'P' then property? flags (c = 'P') rest
    else if c = 'd' ∨ c = 's' ∨ c = 'w' ∨ c = 'D' ∨ c = 'S' ∨ c = 'W' then
      (perl? flags c).map (·, rest)
    else if isMeta c || isSuperfluous c then some (.literal c false, rest)
    else
      match c with
      | 'a' => some (.literal '\x07' false, rest)
      | 'f' => some (.literal '\x0c' false, rest)
      | 't' => some (.literal '\t' false, rest)
      | 'n' => some (.literal '\n' false, rest)
      | 'r' => some (.literal '\x0d' false, rest)
      | 'v' => some (.literal '\x0b' false, rest)
      | 'A' => some (.look .start, rest)
      | 'z' => some (.look .finish, rest)
      | 'b' => boundary? flags rest
      | 'B' => some (.look (.noBoundary flags.word), rest)
      | '<' => some (.look (.wordStart flags.word), rest)
      | '>' => some (.look (.wordFinish flags.word), rest)
      | _ => none

end Escape

end QuerySets.Pattern
