import QuerySets.Fields

/-!
Variables in text. A name in braces is a token and gives way to the value of the
variable; a token that names no variable stays. A brace that belongs to no token
is text, and values are not searched for tokens again.
-/

namespace QuerySets

/-- The values of variables by their names. -/
abbrev Variables := Fields String

namespace Variables

/-- What stands for a token: the value of its name, or the token as it is. -/
def ofToken (vars : Variables) (name : List Char) : List Char :=
  match vars.get? (String.ofList name) with
  | some value => value.toList
  | none => '{' :: (name ++ ['}'])

/-- Substitutes from a place on. When a brace is open there, `name` holds what has
been read after it, the last character first. -/
def substituteFrom (vars : Variables) (name : Option (List Char)) : List Char → List Char
  | [] =>
    match name with
    | none => []
    | some name => '{' :: name.reverse
  | c :: rest =>
    match name with
    | none =>
      if c = '{' then substituteFrom vars (some []) rest
      else c :: substituteFrom vars none rest
    | some name =>
      if c = '{' then '{' :: (name.reverse ++ substituteFrom vars (some []) rest)
      else if c = '}' then vars.ofToken name.reverse ++ substituteFrom vars none rest
      else substituteFrom vars (some (c :: name)) rest

def substituteChars (vars : Variables) (cs : List Char) : List Char :=
  vars.substituteFrom none cs

/-- The text with every token replaced that names a variable. -/
def substitute (vars : Variables) (text : String) : String :=
  String.ofList (vars.substituteChars text.toList)

end Variables

end QuerySets
