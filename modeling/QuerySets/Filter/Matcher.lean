import QuerySets.Store.Error

/-!
Patterns as filters use them: a text with option letters. A stored pattern counts
as matched when its text is that of the matcher.
-/

namespace QuerySets

structure Matcher where
  source : String
  pattern : Pattern

namespace Matcher

/-- The option letters that can be given. -/
def isOption (c : Char) : Bool := c = 'i' || c = 'm' || c = 's' || c = 'x'

def flags (options : List Char) : Pattern.Flags :=
  { Pattern.Flags.default with
    ignoreCase := options.contains 'i'
    multiLine := options.contains 'm'
    dotAll := options.contains 's'
    verbose := options.contains 'x' }

/-- Reads a pattern under its options, which are looked at first. -/
def compile (source options : String) : Except StoreError Matcher :=
  match options.toList.find? (!isOption ·) with
  | some letter => .error (.invalidOperand "$options" (.badOption letter options))
  | none =>
    match Pattern.read (flags options.toList) source with
    | .ok pattern => .ok ⟨source, pattern⟩
    | .error e => .error (.invalidOperand "$regex" (.badPattern e))

def accepts (m : Matcher) : Value → Bool
  | .string s => m.pattern.isMatch s
  | .regex pattern _ => pattern == m.source
  | _ => false

end Matcher

end QuerySets
