import QuerySets.Pattern.CharSet

/-!
Patterns over text. A pattern is only asked whether it matches somewhere, so
neither the order of alternatives nor the greed of a repetition is kept.
-/

namespace QuerySets

/-- What a pattern can ask of a place between two characters. -/
inductive Pattern.Look
  | start
  | finish
  | lineStart
  | lineFinish
  /-- Lines that may end with a carriage return and a line feed. -/
  | crlfStart
  | crlfFinish
  | boundary (word : Pattern.CharSet)
  | noBoundary (word : Pattern.CharSet)
  | wordStart (word : Pattern.CharSet)
  | wordFinish (word : Pattern.CharSet)
  | wordStartHalf (word : Pattern.CharSet)
  | wordFinishHalf (word : Pattern.CharSet)

inductive Pattern
  /-- A change of flags, which matches the empty text. -/
  | setting
  /-- One character of a set; `nesting` counts the brackets inside of each other. -/
  | one (set : Pattern.CharSet) (nesting : Nat)
  | look (look : Pattern.Look)
  | group (body : Pattern)
  | repetition (body : Pattern) (least : Nat) (most : Option Nat)
  | sequence (parts : List Pattern)
  | choice (branches : List Pattern)

namespace Pattern

namespace Look

def isWord (word : CharSet) : Option Char → Bool
  | some c => word.contains c
  | none => false

/-- Whether it holds between the characters `before` and `after`; at the ends of
the text there are none. -/
def holds (look : Look) (before after : Option Char) : Bool :=
  match look with
  | start => before.isNone
  | finish => after.isNone
  | lineStart => before.isNone || before == some '\n'
  | lineFinish => after.isNone || after == some '\n'
  | crlfStart =>
    before.isNone || before == some '\n' || (before == some '\x0d' && after != some '\n')
  | crlfFinish =>
    after.isNone || after == some '\x0d' || (after == some '\n' && before != some '\x0d')
  | boundary word => isWord word before != isWord word after
  | noBoundary word => isWord word before == isWord word after
  | wordStart word => !isWord word before && isWord word after
  | wordFinish word => isWord word before && !isWord word after
  | wordStartHalf word => !isWord word before
  | wordFinishHalf word => !isWord word after

end Look

/-- Parts in a row; a single one stands for itself. -/
def ofParts : List Pattern → Pattern
  | [part] => part
  | parts => sequence parts

def ofBranches : List Pattern → Pattern
  | [branch] => branch
  | branches => choice branches

mutual
/-- How many parts of the written form lie inside of each other. -/
def nesting : Pattern → Nat
  | setting | look _ => 0
  | one _ depth => depth
  | group body => body.nesting + 1
  | repetition body _ _ => body.nesting + 1
  | sequence [] => 0
  | sequence parts => nestingAll parts + 1
  | choice branches => nestingAll branches + 1

def nestingAll : List Pattern → Nat
  | [] => 0
  | p :: rest => max p.nesting (nestingAll rest)
end

/-- Patterns nested deeper than this are refused. -/
def nestingLimit : Nat := 250

end Pattern

end QuerySets
