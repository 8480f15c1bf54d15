import QuerySets.Text.Blank
import QuerySets.Text.Numeral
import QuerySets.Text.Quoted
import QuerySets.Text.Split

/-!
How a masked field is obscured, and how that is written: a word, and for the two
kinds with a length a numeral after it, in square brackets or without.
-/

namespace QuerySets

inductive MaskType
  | all
  | email
  | left (length : Nat)
  | right (length : Nat)
  | remove
deriving DecidableEq

namespace MaskType

/-- The length that nothing stands for. -/
def defaultLength : Nat := 4

/-- A numeral with its brackets taken off, if it has both. -/
def unbracket (cs : List Char) : List Char :=
  match cs with
  | '[' :: rest => if rest.getLast? = some ']' then rest.dropLast else cs
  | _ => cs

def length? (cs : List Char) : Option Nat :=
  if cs.isEmpty then some defaultLength else Text.Numeral.word? (unbracket cs)

/-- Reads a type without blanks at its ends. -/
def ofChars? (cs : List Char) : Option MaskType :=
  if cs = "all".toList then some all
  else if cs = "email".toList then some email
  else if cs = "remove".toList then some remove
  else
    match Text.dropStart? "left".toList cs with
    | some rest => (length? rest).map left
    | none =>
      match Text.dropStart? "right".toList cs with
      | some rest => (length? rest).map right
      | none => none

/-- Reads a type; blanks at its ends do not count. -/
def ofString? (text : String) : Option MaskType := ofChars? (Text.trimChars text.toList)

def toChars : MaskType → List Char
  | all => "all".toList
  | email => "email".toList
  | left n => "left[".toList ++ Text.Numeral.ofNat n ++ [']']
  | right n => "right[".toList ++ Text.Numeral.ofNat n ++ [']']
  | remove => "remove".toList

def toString (m : MaskType) : String := String.ofList m.toChars

/-- The message for a text that is no type. -/
def unrecognised (text : String) : String :=
  "unrecognised mask type " ++ Text.Quoted.quote (Text.trim text)

end MaskType

end QuerySets
