import QuerySets.Definition.Basic
import QuerySets.Definition.MaskType

/-!
Masks: which fields of a collection are obscured. Masks of all collections give
way to those of the collection itself.
-/

namespace QuerySets

structure Mask where
  collection : String
  field : String
  type : MaskType

/-- The types of the masked fields of one collection. -/
abbrev FieldMasks := Fields MaskType

namespace Mask

/-- The name that stands for all collections. -/
def allCollections : String := "*"

/-- The key that identifies a mask: the JSON array of its two names. -/
def keyFor (collection field : String) : String :=
  (Json.array [.string collection, .string field]).compact

def key (m : Mask) : String := keyFor m.collection m.field

def blank : Mask := ⟨"", "", .all⟩

def typeReader : Json.Reader MaskType := fun room draft => do
  let text ← Json.Reader.string room draft
  match MaskType.ofString? text with
  | some type => .ok type
  | none => .error (.refused (MaskType.unrecognised text))

def members : List (Json.Reader.Member Mask) :=
  [.of "collection" true .string fun collection m => { m with collection },
   .of "field" true .string fun field m => { m with field },
   .of "type" true typeReader fun type m => { m with type }]

def reader : Json.Reader Mask := .record "struct Mask" members blank

def toJson (m : Mask) : Json :=
  .record [("collection", .string m.collection), ("field", .string m.field),
    ("type", .string m.type.toString)]

def validate (m : Mask) : Except DefinitionError Unit :=
  if Text.isBlankText m.collection then .error (.invalid "mask" .maskWithoutCollection)
  else if Text.isBlankText m.field then .error (.invalid "mask" .maskWithoutField)
  else .ok ()

instance : Definition Mask where
  kind := "mask"
  collection := "query_masks"
  key := key
  validate := validate
  toJson := toJson
  reader := reader

/-- The masked fields among the masks of one collection. -/
def fieldsOf (collection : String) (masks : List Mask) : FieldMasks :=
  .ofList ((masks.filter (·.collection == collection)).map fun m => (m.field, m.type))

/-- The masks that count for a collection. -/
def forCollection (collection : String) (masks : List Mask) : FieldMasks :=
  let general := fieldsOf allCollections masks
  let own := fieldsOf collection masks
  own.entries.foldl (fun table (field, type) => table.insert field type) general

end Mask

end QuerySets
