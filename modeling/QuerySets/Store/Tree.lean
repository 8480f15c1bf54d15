/-!
Trees of records under keys. Keys are strings of characters and stand in the
order of their characters, so that all keys with the same start stand together.
-/

namespace QuerySets

structure Tree (α : Type) where
  entries : List (List Char × α)

namespace Tree

variable {α : Type}

def empty : Tree α := ⟨[]⟩

/-- The last `width` digits of a number in base 256 as characters, the high one first. -/
def digits : Nat → Nat → List Char
  | 0, _ => []
  | width + 1, n => Char.ofNat (n >>> (8 * width) % 256) :: digits width n

/-- A count as a key of eight characters, which stand in the order of the counts. -/
def countKey (n : Nat) : List Char := digits 8 n

def get? (t : Tree α) (key : List Char) : Option α := t.entries.lookup key

def contains (t : Tree α) (key : List Char) : Bool := (t.get? key).isSome

/-- Puts a record in its place, over an earlier one of the same key. -/
def put (key : List Char) (record : α) : List (List Char × α) → List (List Char × α)
  | [] => [(key, record)]
  | (k, old) :: rest =>
    if k = key then (key, record) :: rest
    else if k < key then (k, old) :: put key record rest
    else (key, record) :: (k, old) :: rest

def insert (t : Tree α) (key : List Char) (record : α) : Tree α := ⟨put key record t.entries⟩

def erase (t : Tree α) (key : List Char) : Tree α := ⟨t.entries.filter fun e => e.1 ≠ key⟩

def values (t : Tree α) : List α := t.entries.map (·.2)

/-- The records whose keys start with `start`, in the order of their keys. -/
def scan (t : Tree α) (start : List Char) : List α :=
  (t.entries.filter fun e => start.isPrefixOf e.1).map (·.2)

/-- Takes away all records whose keys start with `start`. -/
def eraseAll (t : Tree α) (start : List Char) : Tree α :=
  ⟨t.entries.filter fun e => !start.isPrefixOf e.1⟩

end Tree

end QuerySets
