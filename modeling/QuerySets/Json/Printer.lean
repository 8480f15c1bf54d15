import QuerySets.Decimal.Layout
import QuerySets.Json.Basic
import QuerySets.Text.Hex
import QuerySets.Text.Numeral

/-!
JSON text. The compact form has no blanks; the spread form has one part of a
container on each line. In strings only quotes, backslashes and control
characters are escaped. A float that is not finite is written as null.
-/

namespace QuerySets.Json

def escape (c : Char) : List Char :=
  if c = '"' then ['\\', '"']
  else if c = '\\' then ['\\', '\\']
  else if c = '\x08' then ['\\', 'b']
  else if c = '\x0c' then ['\\', 'f']
  else if c = '\n' then ['\\', 'n']
  else if c = '\x0d' then ['\\', 'r']
  else if c = '\t' then ['\\', 't']
  else if c.toNat < 0x20 then
    ['\\', 'u', '0', '0', Text.Hex.digit (c.toNat / 16), Text.Hex.digit (c.toNat % 16)]
  else [c]

def quoteChars (cs : List Char) : List Char := '"' :: (cs.flatMap escape ++ ['"'])

def quote (s : String) : List Char := quoteChars s.toList

def Number.write : Number → List Char
  | .whole n => Text.Numeral.ofInt n
  | .float x => ((Decimal.write? x).getD "null").toList

mutual
/-- The text without blanks. -/
def compactChars : Json → List Char
  | .null => "null".toList
  | .bool b => (if b then "true" else "false").toList
  | .number n => n.write
  | .string s => quote s
  | .array [] => ['[', ']']
  | .array (item :: rest) => '[' :: (compactChars item ++ compactItems rest)
  | .object ⟨[]⟩ => ['{', '}']
  | .object ⟨(key, item) :: rest⟩ =>
    '{' :: (quote key ++ ':' :: (compactChars item ++ compactMembers rest))

/-- The items after the first, each with its comma, and the bracket. -/
def compactItems : List Json → List Char
  | [] => [']']
  | item :: rest => ',' :: (compactChars item ++ compactItems rest)

/-- The members after the first, each with its comma, and the brace. -/
def compactMembers : List (String × Json) → List Char
  | [] => ['}']
  | (key, item) :: rest =>
    ',' :: (quote key ++ ':' :: (compactChars item ++ compactMembers rest))
end

def compact (j : Json) : String := String.ofList j.compactChars

def newline (indent : Nat) : List Char := '\n' :: List.replicate (2 * indent) ' '

mutual
/-- The text with every part on a line of its own, `indent` steps in. -/
def spreadChars (indent : Nat) : Json → List Char
  | .array [] => ['[', ']']
  | .array (item :: rest) =>
    '[' :: (newline (indent + 1) ++ spreadChars (indent + 1) item ++ spreadItems indent rest)
  | .object ⟨[]⟩ => ['{', '}']
  | .object ⟨(key, item) :: rest⟩ =>
    '{' :: (newline (indent + 1) ++ quote key ++ ':' :: ' ' ::
      (spreadChars (indent + 1) item ++ spreadMembers indent rest))
  | scalar => compactChars scalar

def spreadItems (indent : Nat) : List Json → List Char
  | [] => newline indent ++ [']']
  | item :: rest =>
    ',' :: (newline (indent + 1) ++ spreadChars (indent + 1) item ++ spreadItems indent rest)

def spreadMembers (indent : Nat) : List (String × Json) → List Char
  | [] => newline indent ++ ['}']
  | (key, item) :: rest =>
    ',' :: (newline (indent + 1) ++ quote key ++ ':' :: ' ' ::
      (spreadChars (indent + 1) item ++ spreadMembers indent rest))
end

def spread (j : Json) : String := String.ofList (j.spreadChars 0)

end QuerySets.Json
