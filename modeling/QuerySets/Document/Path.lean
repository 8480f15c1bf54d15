import QuerySets.Text.Numeral
import QuerySets.Text.Split
import QuerySets.Value

/-!
Dotted paths into documents. A segment names a field of a document or, where the
path is only read, an item of an array by its number. Writing makes documents
where there are none; removing walks through documents alone.
-/

namespace QuerySets

/-- The segments of a path; a path that is split from text has at least one. -/
abbrev Path := List String

def Path.ofString (text : String) : Path := Text.split '.' text

namespace Value

/-- The item that a segment numbers. -/
def item? (segment : String) (items : List Value) : Option Value :=
  (Text.Numeral.word? segment.toList).bind (items[·]?)

/-- One step of a path. -/
def step? (segment : String) : Value → Option Value
  | document d => d.get? segment
  | array items => item? segment items
  | _ => none

/-- The value that a path leads to. -/
def at? : Path → Value → Option Value
  | [], v => some v
  | segment :: rest, v => (v.step? segment).bind (at? rest)

/-- The document itself, or an empty one in place of anything else. -/
def asDocument : Option Value → Document
  | some (document d) => d
  | _ => Fields.empty

end Value

namespace Document

def at? (d : Document) (path : Path) : Option Value := Value.at? path (.document d)

/-- The value that a written path leads to. -/
def getPath? (d : Document) (path : String) : Option Value := at? d (Path.ofString path)

/-- Writes at the end of a path. What is in the way gives place to a document. -/
def set (d : Document) : Path → Value → Document
  | [], _ => d
  | [key], v => d.insert key v
  | key :: segment :: rest, v =>
    d.insert key (.document (set (Value.asDocument (d.get? key)) (segment :: rest) v))

def setPath (d : Document) (path : String) (v : Value) : Document := set d (Path.ofString path) v

/-- Takes away the value at the end of a path; without one the document stays. -/
def remove (d : Document) : Path → Option Value × Document
  | [] => (none, d)
  | [key] => (d.get? key, d.erase key)
  | key :: segment :: rest =>
    match d.get? key with
    | some (.document child) =>
      let (removed, child) := remove child (segment :: rest)
      (removed, d.insert key (.document child))
    | _ => (none, d)

def removePath (d : Document) (path : String) : Option Value × Document :=
  remove d (Path.ofString path)

end Document

end QuerySets
