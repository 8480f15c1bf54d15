import QuerySets.Document.Path
import QuerySets.Store.Error
import QuerySets.Value.Order

/-!
Indexes on collections. The key of an index is a list of paths with their
directions; a hyphen in front means descending. An index is known by a name that
spells its key.
-/

namespace QuerySets

structure Index where
  key : List String
  unique : Bool

namespace Index

def isSign (c : Char) : Bool := c = '-' || c = '+'

/-- A path without the signs in front of it. -/
def fieldOf (part : String) : String := String.ofList (part.toList.dropWhile isSign)

def fields (i : Index) : List String := i.key.map fieldOf

/-- One part of the name: the path and its direction. -/
def partName (part : String) : String :=
  match part.toList with
  | '-' :: rest => String.ofList rest ++ "_-1"
  | cs => String.ofList (cs.dropWhile (· = '+')) ++ "_1"

def name (i : Index) : String := "_".intercalate (i.key.map partName)

/-- What a document is keyed on; a missing field counts as null. -/
def keyOf (i : Index) (d : Document) : List Value :=
  i.fields.map fun path => (d.getPath? path).getD .null

/-- Keys are the same when their parts are equal by size. -/
def sameKey : List Value → List Value → Bool
  | [], [] => true
  | a :: as, b :: bs => a.looseEq b && sameKey as bs
  | _, _ => false

/-- The first of the documents whose key is already in use, with its key. -/
def clash? (i : Index) (used : List (List Value)) : List Document → Option (List Value)
  | [] => none
  | d :: rest =>
    let key := i.keyOf d
    if used.any (sameKey · key) then some key else clash? i (used ++ [key]) rest

/-- Refuses documents whose key under a unique index is in use, by the documents
that are there or by an earlier one of their own. -/
def checkUnique (collection : String) (indexes : List Index) (existing incoming : List Document) :
    Except StoreError Unit :=
  match indexes with
  | [] => .ok ()
  | i :: rest =>
    match if i.unique then i.clash? (existing.map i.keyOf) incoming else none with
    | some key => .error (.duplicateKey collection i.name key)
    | none => checkUnique collection rest existing incoming

def toJson (i : Index) : Json :=
  .record [("key", .array (i.key.map .string)), ("unique", .bool i.unique)]

def members : List (Json.Reader.Member Index) :=
  [.of "key" false (.list .string) fun key i => { i with key },
   .of "unique" false .bool fun unique i => { i with unique }]

def reader : Json.Reader Index := .record "struct Index" members ⟨[], false⟩

end Index

end QuerySets
