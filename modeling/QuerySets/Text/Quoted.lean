import QuerySets.Text.Property

/-!
Text in double quotes, as it stands in messages. What cannot be shown by itself
is written as an escape: control characters, unassigned characters, and marks
that would join the character before them.
-/

namespace QuerySets.Text.Quoted

def escape (c : Char) : List Char :=
  if c = '\x00' then ['\\', '0']
  else if c = '\t' then ['\\', 't']
  else if c = '\x0d' then ['\\', 'r']
  else if c = '\n' then ['\\', 'n']
  else if c = '"' ∨ c = '\\' then ['\\', c]
  else if Property.isGraphemeExtend c || !Property.isPrintable c then
    '\\' :: 'u' :: '{' :: (Hex.ofNat c.toNat ++ ['}'])
  else [c]

def quote (text : String) : String :=
  String.ofList ('"' :: (text.toList.flatMap escape ++ ['"']))

end QuerySets.Text.Quoted
