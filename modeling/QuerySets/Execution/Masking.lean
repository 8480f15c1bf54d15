import QuerySets.Definition.Mask
import QuerySets.Value

/-!
Masking of documents. A mask goes by the name of the field, at whatever depth it
stands, and reaches through arrays to their items. Fields to be removed go first;
numbers become zero and strings lose what their mask covers. Masking stops at the
first value that cannot be masked, and what it has done by then stays done.
-/

namespace QuerySets

inductive MaskingFault
  | badKind (field kind : String)
  | notAnEmail (field : String)

def MaskingFault.message : MaskingFault → String
  | badKind field kind => s!"Field {field} of type {kind} cannot be masked"
  | notAnEmail field => s!"Field {field} is not an email address"

namespace FieldMasks

def cover : List Char := "******".toList

def stars (n : Nat) : List Char := List.replicate n '*'

/-- What is left of a text under a mask. Email addresses keep what follows the
name, with the sign before it; a text without the sign is none. -/
def obscure? (type : MaskType) (cs : List Char) : Option (List Char) :=
  match type with
  | .all | .remove => some cover
  | .email =>
    match cs.dropWhile (· ≠ '@') with
    | [] => none
    | address => some (cover ++ address)
  | .left n => some (stars (min n cs.length) ++ cs.drop n)
  | .right n => some (cs.take (cs.length - n) ++ stars (min n cs.length))

def obscureScalar (field : String) (type : MaskType) : Value → Except MaskingFault Value
  | .int _ => .ok (.int 0)
  | .float _ => .ok (.float 0)
  | .string s =>
    match obscure? type s.toList with
    | some cs => .ok (.string (String.ofList cs))
    | none => .error (.notAnEmail field)
  | v => .error (.badKind field v.kind)

/-- Whether a field is one that is taken away. -/
def removes (masks : FieldMasks) (field : String) : Bool := masks.get? field == some .remove

/-- The entries whose fields are not taken away. -/
def kept (masks : FieldMasks) (entries : List (String × Value)) : List (String × Value) :=
  entries.filter (!masks.removes ·.1)

/-- Masks a value that is no container. -/
def maskScalar (masks : FieldMasks) (field : String) (v : Value) : Value × Option MaskingFault :=
  match masks.get? field with
  | none => (v, none)
  | some type =>
    match obscureScalar field type v with
    | .ok masked => (masked, none)
    | .error fault => (v, some fault)

mutual
/-- Masks a value of a field: what becomes of it, and the fault that it stopped at. -/
def maskValue (masks : FieldMasks) (field : String) : Value → Value × Option MaskingFault
  | .document ⟨entries⟩ =>
    let (entries, fault) := maskEntries masks entries
    (.document ⟨entries⟩, fault)
  | .array items =>
    let (items, fault) := maskItems masks field items
    (.array items, fault)
  | v => masks.maskScalar field v

def maskItems (masks : FieldMasks) (field : String) :
    List Value → List Value × Option MaskingFault
  | [] => ([], none)
  | item :: rest =>
    match maskValue masks field item with
    | (item, some fault) => (item :: rest, some fault)
    | (item, none) =>
      let (rest, fault) := maskItems masks field rest
      (item :: rest, fault)

def maskEntries (masks : FieldMasks) :
    List (String × Value) → List (String × Value) × Option MaskingFault
  | [] => ([], none)
  | (field, v) :: rest =>
    if masks.removes field then maskEntries masks rest
    else
      match maskValue masks field v with
      | (v, some fault) => ((field, v) :: masks.kept rest, some fault)
      | (v, none) =>
        let (rest, fault) := maskEntries masks rest
        ((field, v) :: rest, fault)
end

def maskDocument (masks : FieldMasks) (d : Document) : Document × Option MaskingFault :=
  let (entries, fault) := masks.maskEntries d.entries
  (⟨entries⟩, fault)

/-- Masks documents up to the first fault. -/
def maskAll (masks : FieldMasks) : List Document → List Document × Option MaskingFault
  | [] => ([], none)
  | d :: rest =>
    match masks.maskDocument d with
    | (d, some fault) => (d :: rest, some fault)
    | (d, none) =>
      let (rest, fault) := maskAll masks rest
      (d :: rest, fault)

/-- The masked documents, if all of them can be masked. -/
def apply (masks : FieldMasks) (docs : List Document) : Except MaskingFault (List Document) :=
  match masks.maskAll docs with
  | (docs, none) => .ok docs
  | (_, some fault) => .error fault

end FieldMasks

end QuerySets
