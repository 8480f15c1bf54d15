import QuerySets.Template.Error
import QuerySets.Value

/-!
Documents that a query has saved under a key for the queries after it.
-/

namespace QuerySets

structure Bag where
  saved : Fields (List Document)

namespace Bag

def empty : Bag := ⟨Fields.empty⟩

/-- Saves documents in place of those saved under the key before. -/
def put (b : Bag) (key : String) (docs : List Document) : Bag := ⟨b.saved.insert key docs⟩

def get (b : Bag) (key : String) : Except TemplateError (List Document) :=
  match b.saved.get? key with
  | some docs => .ok docs
  | none => .error (.keyNotFound key)

def contains (b : Bag) (key : String) : Bool := b.saved.contains key

/-- How many keys there are. -/
def size (b : Bag) : Nat := b.saved.size

def isEmpty (b : Bag) : Bool := b.saved.isEmpty

end Bag

end QuerySets
