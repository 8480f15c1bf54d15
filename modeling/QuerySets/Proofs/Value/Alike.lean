import QuerySets.Proofs.Traversal
import QuerySets.Proofs.Value.Nodes

/-!
Values compared scalar by scalar. Two values are alike if they have the same containers, of
the same lengths and with the same keys in the same order, and if their scalars are related,
where the relation may look at the field in which they stand. What a value is without certain
fields is defined beside it, so that values can be compared but for those fields.
-/

namespace QuerySets

namespace Value

mutual
/-- The value without the entries of some fields, at any depth. -/
def without (removed : String → Bool) : Value → Value
  | document ⟨entries⟩ => document ⟨entriesWithout removed entries⟩
  | array items => array (itemsWithout removed items)
  | v => v

def itemsWithout (removed : String → Bool) : List Value → List Value
  | [] => []
  | v :: rest => v.without removed :: itemsWithout removed rest

def entriesWithout (removed : String → Bool) : List (String × Value) → List (String × Value)
  | [] => []
  | (key, v) :: rest =>
    if removed key then entriesWithout removed rest
    else (key, v.without removed) :: entriesWithout removed rest
end

/-- A value of a field and another one that differs from it in its scalars alone, and in these
as a relation allows that knows the field of the nearest document around them. -/
inductive Alike (R : String → Value → Value → Prop) : String → Value → Value → Prop
  | scalar {field : String} {v w : Value} (hv : v.IsScalar) (hw : w.IsScalar)
      (h : R field v w) : Alike R field v w
  | array {field : String} {items others : List Value} (length : items.length = others.length)
      (members : ∀ v w, (v, w) ∈ items.zip others → Alike R field v w) :
      Alike R field (.array items) (.array others)
  | document {field : String} {d other : Document} (keys : d.keys = other.keys)
      (members : ∀ key v name w, ((key, v), (name, w)) ∈ d.entries.zip other.entries →
        Alike R key v w) :
      Alike R field (.document d) (.document other)

end Value

namespace Document

def without (removed : String → Bool) (d : Document) : Document :=
  ⟨Value.entriesWithout removed d.entries⟩

/-- Documents with the same keys in the same order and values that are alike. -/
def Alike (R : String → Value → Value → Prop) (d other : Document) : Prop :=
  List.Forall₂ (fun e o => e.1 = o.1 ∧ Value.Alike R e.1 e.2 o.2) d.entries other.entries

end Document

namespace Value

section Without

variable {removed : String → Bool}

theorem without_scalar {v : Value} (h : v.IsScalar) : v.without removed = v := by
  cases v <;> first | rfl | exact h.elim

theorem itemsWithout_eq_map (items : List Value) :
    itemsWithout removed items = items.map (without removed) := by
  induction items with
  | nil => rfl
  | cons v rest ih => rw [itemsWithout, ih, List.map_cons]

theorem entriesWithout_eq_map (entries : List (String × Value)) :
    entriesWithout removed entries =
      (entries.filter (!removed ·.1)).map fun e => (e.1, e.2.without removed) := by
  induction entries with
  | nil => rfl
  | cons e rest ih =>
    obtain ⟨key, v⟩ := e
    rw [entriesWithout, ih]
    by_cases hkey : removed key = true
    · simp [hkey]
    · simp [hkey]

theorem without_array (items : List Value) :
    (array items).without removed = array (items.map (without removed)) := by
  rw [without, itemsWithout_eq_map]

theorem without_document (d : Document) :
    (document d).without removed = document (d.without removed) := rfl

end Without

section Alike

variable {R : String → Value → Value → Prop} {field : String}

theorem alike_scalar {v w : Value} (h : v.IsScalar) :
    Alike R field v w ↔ w.IsScalar ∧ R field v w := by
  constructor
  · intro hvw
    cases hvw with
    | scalar _ hw hR => exact ⟨hw, hR⟩
    | array => exact h.elim
    | document => exact h.elim
  · rintro ⟨hw, hR⟩
    exact .scalar h hw hR

theorem alike_array {items : List Value} {w : Value} :
    Alike R field (array items) w ↔
      ∃ others, List.Forall₂ (Alike R field) items others ∧ array others = w := by
  constructor
  · intro h
    cases h with
    | scalar hv => exact hv.elim
    | @array _ _ others length members =>
      exact ⟨others, List.forall₂_iff_zip.mpr ⟨length, fun hvw => members _ _ hvw⟩, rfl⟩
  · rintro ⟨others, h, rfl⟩
    obtain ⟨length, members⟩ := List.forall₂_iff_zip.mp h
    exact .array length fun v w hvw => members hvw

theorem forall₂_keys_iff {entries others : List (String × Value)} :
    List.Forall₂ (fun e o => e.1 = o.1) entries others ↔
      entries.map (·.1) = others.map (·.1) := by
  have hmap : List.Forall₂ (· = ·) (entries.map (·.1)) (others.map (·.1)) ↔
      List.Forall₂ (fun e o => e.1 = o.1) entries others := by
    rw [List.forall₂_map_left_iff, List.forall₂_map_right_iff]
  rw [← hmap, List.forall₂_eq_eq_eq]

theorem alike_document {d : Document} {w : Value} :
    Alike R field (document d) w ↔ ∃ other, d.Alike R other ∧ document other = w := by
  constructor
  · intro h
    cases h with
    | scalar hv => exact hv.elim
    | @document _ _ other keys members =>
      have hkeys := forall₂_keys_iff.mpr keys
      refine ⟨other, List.forall₂_iff_zip.mpr ⟨hkeys.length_eq, ?_⟩, rfl⟩
      intro e o heo
      exact ⟨List.forall₂_zip hkeys heo, members e.1 e.2 o.1 o.2 heo⟩
  · rintro ⟨other, h, rfl⟩
    refine .document (forall₂_keys_iff.mp (h.imp fun _ _ heo => heo.1)) ?_
    intro key v name w hmem
    exact (List.forall₂_zip h hmem).2

end Alike

end Value

end QuerySets
