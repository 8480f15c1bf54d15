import QuerySets.Json.Numeral
import QuerySets.Json.Printer

/-!
JSON that is written as text and read again. Everything comes back as it was except for floats:
one is written with the fewest digits that tell it apart, but the reader rounds these digits
twice, and now and then arrives at a neighbour of the float.
-/

namespace QuerySets.Json

/-- What is read of the text of a float. The text has a fraction or an exponent and is within the
range of floats, so that it is read as a float again. -/
def rereadFloat (x : Float) : Float :=
  match (Numeral.scan? (Number.float x).write).bind (·.1.number?) with
  | some (.float y) => y
  | _ => x

def Number.reread : Number → Number
  | .whole n => .whole n
  | .float x => .float (rereadFloat x)

mutual
/-- What is read of the text of a value. -/
def reread : Json → Json
  | .null => .null
  | .bool b => .bool b
  | .number n => .number n.reread
  | .string s => .string s
  | .array items => .array (rereadItems items)
  | .object ⟨members⟩ => .object ⟨rereadMembers members⟩

def rereadItems : List Json → List Json
  | [] => []
  | item :: rest => item.reread :: rereadItems rest

def rereadMembers : List (String × Json) → List (String × Json)
  | [] => []
  | (key, item) :: rest => (key, item.reread) :: rereadMembers rest
end

/-- Where the first container opens that lies inside of too many others, counted in bytes from
one; `depth` are open before the text, and a string is if it is `quoted`. -/
def excessColumn (column depth : Nat) (quoted : Bool) : List Char → Nat
  | [] => column
  | '\\' :: c :: rest => excessColumn (column + 1 + c.utf8Size) depth quoted rest
  | c :: rest =>
    let next := column + c.utf8Size
    if c = '"' then excessColumn next depth (!quoted) rest
    else if quoted then excessColumn next depth quoted rest
    else if c = '[' ∨ c = '{' then
      if depth = depthLimit then column else excessColumn next (depth + 1) quoted rest
    else if c = ']' ∨ c = '}' then excessColumn next (depth - 1) quoted rest
    else excessColumn next depth quoted rest

/-- The message for the text of a value that is nested too deeply. -/
def excessMessage (j : Json) : String :=
  let column := excessColumn 1 0 false j.compactChars
  s!"recursion limit exceeded at line 1 column {column}"

end QuerySets.Json
