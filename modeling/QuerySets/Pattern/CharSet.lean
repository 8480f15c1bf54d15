import QuerySets.Text.Case
import QuerySets.Text.Script

/-!
Sets of characters as patterns describe them: ranges, properties with names, and
what can be made of these.
-/

namespace QuerySets.Pattern

open Text

/-- How letters that differ only in case are told apart. -/
inductive Folding
  | exact
  | ascii
  | full

namespace Folding

/-- The characters that count as the same, the character itself included. -/
def variants : Folding → Char → List Char
  | exact, c => [c]
  | ascii, c =>
    if c.isUpper then [c, c.toLower] else if c.isLower then [c, c.toUpper] else [c]
  | full, c =>
    let folded := Case.fold c
    c :: folded :: Case.foldRuns.preimages folded

end Folding

/-- A set of characters, given by its members. -/
structure CharSet where
  contains : Char → Bool

namespace CharSet

def none : CharSet := ⟨fun _ => false⟩

def range (first last : Char) : CharSet := ⟨fun c => first ≤ c && c ≤ last⟩

def single (c : Char) : CharSet := ⟨fun d => d = c⟩

def union (a b : CharSet) : CharSet := ⟨fun c => a.contains c || b.contains c⟩

def inter (a b : CharSet) : CharSet := ⟨fun c => a.contains c && b.contains c⟩

def diff (a b : CharSet) : CharSet := ⟨fun c => a.contains c && !b.contains c⟩

/-- The characters that are in one of the sets but not in both. -/
def symmDiff (a b : CharSet) : CharSet := ⟨fun c => a.contains c != b.contains c⟩

def compl (a : CharSet) : CharSet := ⟨fun c => !a.contains c⟩

def complIf (negated : Bool) (a : CharSet) : CharSet := if negated then a.compl else a

/-- The set with all characters that count as the same as a member. -/
def folded (folding : Folding) (a : CharSet) : CharSet :=
  match folding with
  | .exact => a
  | _ => ⟨fun c => (folding.variants c).any a.contains⟩

def ofChars (chars : List Char) : CharSet := ⟨chars.contains⟩

/-- Whether no byte beyond the ASCII ones is a member. -/
def isAscii (a : CharSet) : Bool :=
  (List.range 128).all fun n => !a.contains (Char.ofNat (128 + n))

def asciiDigit : CharSet := range '0' '9'

def asciiLetter : CharSet := (range 'a' 'z').union (range 'A' 'Z')

def asciiWord : CharSet := (asciiLetter.union asciiDigit).union (single '_')

def asciiSpace : CharSet := ofChars [' ', '\t', '\n', '\x0b', '\x0c', '\x0d']

def digit : CharSet := ⟨GeneralCategory.decimalNumber.contains⟩

def space : CharSet := ⟨Property.whiteSpace.contains⟩

def word : CharSet := ⟨Property.isWord⟩

/-- The classes of ASCII characters that have a name in brackets. -/
def asciiClass? : List Char → Option CharSet
  | ['a', 'l', 'n', 'u', 'm'] => some (asciiLetter.union asciiDigit)
  | ['a', 'l', 'p', 'h', 'a'] => some asciiLetter
  | ['a', 's', 'c', 'i', 'i'] => some (range '\x00' '\x7f')
  | ['b', 'l', 'a', 'n', 'k'] => some (ofChars ['\t', ' '])
  | ['c', 'n', 't', 'r', 'l'] => some ((range '\x00' '\x1f').union (single '\x7f'))
  | ['d', 'i', 'g', 'i', 't'] => some asciiDigit
  | ['g', 'r', 'a', 'p', 'h'] => some (range '!' '~')
  | ['l', 'o', 'w', 'e', 'r'] => some (range 'a' 'z')
  | ['p', 'r', 'i', 'n', 't'] => some (range ' ' '~')
  | ['p', 'u', 'n', 'c', 't'] => some ((range '!' '~').diff (asciiLetter.union asciiDigit))
  | ['s', 'p', 'a', 'c', 'e'] => some asciiSpace
  | ['u', 'p', 'p', 'e', 'r'] => some (range 'A' 'Z')
  | ['w', 'o', 'r', 'd'] => some asciiWord
  | ['x', 'd', 'i', 'g', 'i', 't'] =>
    some (asciiDigit.union ((range 'a' 'f').union (range 'A' 'F')))
  | _ => Option.none

end CharSet

end QuerySets.Pattern
