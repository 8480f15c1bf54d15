import QuerySets.Fields

/-!
JSON values. Members of an object keep their order, and whole numbers are told
apart from numbers with a fraction or an exponent.
-/

namespace QuerySets

/-- Whole numbers are those that fit in a 64-bit word, with or without a sign. -/
inductive Json.Number
  | whole (n : Int)
  | float (x : Float)

inductive Json
  | null
  | bool (b : Bool)
  | number (n : Json.Number)
  | string (s : String)
  | array (items : List Json)
  | object (members : Fields Json)

namespace Json

def int (n : Int) : Json := .number (.whole n)

/-- An object written out member by member. -/
def record (members : List (String × Json)) : Json := .object ⟨members⟩

/-- Containers nested deeper than this are not read. -/
def depthLimit : Nat := 127

mutual
/-- How many containers lie inside of each other. -/
def depth : Json → Nat
  | .array items => depthItems items + 1
  | .object ⟨members⟩ => depthMembers members + 1
  | _ => 0

def depthItems : List Json → Nat
  | [] => 0
  | item :: rest => max item.depth (depthItems rest)

def depthMembers : List (String × Json) → Nat
  | [] => 0
  | (_, item) :: rest => max item.depth (depthMembers rest)
end

end Json

end QuerySets
