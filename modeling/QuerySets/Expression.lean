import QuerySets.Document.Path
import QuerySets.Text.Case
import QuerySets.Text.Sigil
import QuerySets.Value.Order

/-!
Expressions over a document. A text that starts with one dollar sign reads a
field, an object with one operator applies it, other arrays and objects are
evaluated part by part, and everything else stands for itself.
-/

namespace QuerySets.Expression

open Text

/-- The path that a text refers to. Two dollar signs are no reference. -/
def reference? (s : String) : Option String :=
  match unmark? s with
  | some path => if isMarked path then none else some path
  | none => none

/-- Texts one after the other; with anything else among them there is no text. -/
def concat : List Value → Value
  | [] => .string ""
  | .string s :: rest =>
    match concat rest with
    | .string t => .string (s ++ t)
    | _ => .null
  | _ :: _ => .null

def changeCase (change : String → String) (arguments : List Value) : Value :=
  match arguments with
  | .string s :: _ => .string (change s)
  | _ => .string ""

def int64? : Value → Option Int64
  | .int n => some n
  | _ => none

/-- The sum of floats from left to right; nothing sums to a negative zero. -/
def sumFloats (xs : List Float) : Float := xs.foldl (· + ·) (-0.0)

/-- Whole numbers add up to a whole number, with floats among them to a float. -/
def add (arguments : List Value) : Value :=
  match arguments.mapM int64? with
  | some ns => .int ns.sum
  | none =>
    match arguments.mapM Value.float? with
    | some xs => .float (sumFloats xs)
    | none => .null

def firstPresent (arguments : List Value) : Value :=
  (arguments.find? (!·.isNull)).getD .null

def countItems (arguments : List Value) : Value :=
  match arguments with
  | .array items :: _ => .int (Int64.ofNat items.length)
  | _ => .null

/-- The result of an operator on evaluated arguments; others than these give null. -/
def apply (operator : String) (arguments : List Value) : Value :=
  match operator with
  | "$concat" => concat arguments
  | "$toUpper" => changeCase Case.upper arguments
  | "$toLower" => changeCase Case.lower arguments
  | "$add" => add arguments
  | "$ifNull" => firstPresent arguments
  | "$size" => countItems arguments
  | _ => .null

mutual
def evaluate (d : Document) : Value → Value
  | .string s =>
    match reference? s with
    | some path => (d.getPath? path).getD .null
    | none => .string s
  | .array items => .array (evaluateItems d items)
  | .document ⟨[(key, argument)]⟩ =>
    if !isMarked key then .document ⟨[(key, evaluate d argument)]⟩
    else if key = "$literal" then argument
    else
      match argument with
      | .array items => apply key (evaluateItems d items)
      | other => apply key [evaluate d other]
  | .document ⟨entries⟩ => .document ⟨evaluateEntries d entries⟩
  | v => v

def evaluateItems (d : Document) : List Value → List Value
  | [] => []
  | v :: rest => evaluate d v :: evaluateItems d rest

def evaluateEntries (d : Document) : List (String × Value) → List (String × Value)
  | [] => []
  | (key, v) :: rest => (key, evaluate d v) :: evaluateEntries d rest
end

end QuerySets.Expression
