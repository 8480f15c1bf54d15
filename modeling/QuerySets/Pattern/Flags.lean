import QuerySets.Text.Blank
import QuerySets.Pattern.Basic

/-!
Flags that change how the rest of a pattern is read, and what the single
elements of a pattern stand for under them. Without the flag for full character
sets a pattern speaks of ASCII characters only, and sets that would hold others
are refused.
-/

namespace QuerySets.Pattern

structure Flags where
  ignoreCase : Bool
  multiLine : Bool
  dotAll : Bool
  swapGreed : Bool
  unicode : Bool
  crlf : Bool
  verbose : Bool

namespace Flags

def default : Flags := ⟨false, false, false, false, true, false, false⟩

/-- The flag that a letter names, switched on or off. -/
def set? (flags : Flags) (letter : Char) (on : Bool) : Option Flags :=
  match letter with
  | 'i' => some { flags with ignoreCase := on }
  | 'm' => some { flags with multiLine := on }
  | 's' => some { flags with dotAll := on }
  | 'U' => some { flags with swapGreed := on }
  | 'u' => some { flags with unicode := on }
  | 'R' => some { flags with crlf := on }
  | 'x' => some { flags with verbose := on }
  | _ => none

def folding (flags : Flags) : Folding :=
  if !flags.ignoreCase then .exact else if flags.unicode then .full else .ascii

/-- Folds a set if case is ignored, then takes its complement if asked to. -/
def close? (flags : Flags) (negated : Bool) (set : CharSet) : Option CharSet :=
  let closed := (set.folded flags.folding).complIf negated
  if flags.unicode || closed.isAscii then some closed else none

def literal (flags : Flags) (c : Char) : Pattern :=
  .one ((CharSet.single c).folded flags.folding) 0

def word (flags : Flags) : CharSet := if flags.unicode then CharSet.word else CharSet.asciiWord

def dot? (flags : Flags) : Option Pattern :=
  let set : CharSet :=
    if flags.dotAll then ⟨fun _ => true⟩
    else if flags.crlf then ⟨fun c => c != '\n' && c != '\x0d'⟩
    else ⟨fun c => c != '\n'⟩
  if flags.unicode then some (.one set 0) else none

def caret (flags : Flags) : Pattern :=
  .look (if !flags.multiLine then .start else if flags.crlf then .crlfStart else .lineStart)

def dollar (flags : Flags) : Pattern :=
  .look (if !flags.multiLine then .finish else if flags.crlf then .crlfFinish else .lineFinish)

/-- Blanks and comments, which do not count in a verbose pattern. -/
def skipVerbose : Nat → List Char → List Char
  | 0, cs => cs
  | fuel + 1, cs =>
    match Text.dropBlanks cs with
    | '#' :: rest => skipVerbose fuel ((rest.dropWhile (· != '\n')).drop 1)
    | rest => rest

def skip (flags : Flags) (cs : List Char) : List Char :=
  if flags.verbose then skipVerbose cs.length cs else cs

end Flags

end QuerySets.Pattern
