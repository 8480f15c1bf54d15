import QuerySets.Proofs.Execution.Masking
import QuerySets.Proofs.Value.Alike

/-!
What masking makes of documents. It succeeds exactly if every scalar that a masked field
governs can be obscured, and then it gives the documents without the fields to be removed,
with the governed scalars obscured and with all else as it was. Nothing is left to do for
masking the result once more.
-/

namespace QuerySets

namespace FieldMasks

variable {masks : FieldMasks} {field : String}

section Results

/-- A document and another one that is what the first one is without the fields to be removed,
at any depth, and with its scalars obscured by the masks of the fields that govern them. -/
def MaskedAs (masks : FieldMasks) (d out : Document) : Prop :=
  (d.without masks.removes).Alike masks.Covers out

/-- Where the masked forms of the values are known, so is that of the document. -/
theorem maskedDocument_eq_ok_iff_of_entries {d out : Document}
    (h : ∀ e ∈ d.entries, ∀ field w, masks.masked field e.2 = .ok w ↔
      Value.Alike masks.Covers field (e.2.without masks.removes) w) :
    masks.maskedDocument d = .ok out ↔ masks.MaskedAs d out := by
  rw [maskedDocument_eq_ok_iff_forall₂, MaskedAs, Document.Alike, Document.without,
    Value.entriesWithout_eq_map, List.forall₂_map_left_iff]
  apply forall₂_congr_of_mem
  intro e he o
  rw [maskedEntry_eq_ok_iff, h e (List.mem_of_mem_filter he)]

theorem masked_eq_ok_iff {v w : Value} :
    masks.masked field v = .ok w ↔
      Value.Alike masks.Covers field (v.without masks.removes) w := by
  induction v using Value.induction generalizing field w with
  | scalar v h =>
    rw [masked_scalar h, outcome_maskScalar_eq_ok_iff, Value.without_scalar h,
      Value.alike_scalar h]
    exact ⟨fun hw => ⟨hw.isScalar h, hw⟩, And.right⟩
  | array items ih =>
    rw [masked_array, map_eq_ok_iff, Value.without_array, Value.alike_array]
    apply exists_congr
    intro others
    rw [mapM_eq_ok_iff, List.forall₂_map_left_iff]
    exact and_congr_left fun _ => forall₂_congr_of_mem fun v hv w => ih v hv
  | document d ih =>
    rw [masked_document, map_eq_ok_iff, Value.without_document, Value.alike_document]
    apply exists_congr
    intro out
    rw [maskedDocument_eq_ok_iff_of_entries fun e he field w => ih e he, MaskedAs]

theorem maskedDocument_eq_ok_iff {d out : Document} :
    masks.maskedDocument d = .ok out ↔ masks.MaskedAs d out :=
  maskedDocument_eq_ok_iff_of_entries fun _ _ _ _ => masked_eq_ok_iff

theorem apply_eq_ok_iff {docs outs : List Document} :
    masks.apply docs = .ok outs ↔ List.Forall₂ masks.MaskedAs docs outs := by
  rw [apply_eq_mapM, mapM_eq_ok_iff]
  simp only [maskedDocument_eq_ok_iff]

/-- What masking has succeeded on it leaves as it is. -/
theorem apply_masked {docs outs : List Document} (h : masks.apply docs = .ok outs) :
    masks.apply outs = .ok outs := by
  rw [apply_eq_mapM, mapM_eq_ok_iff, List.forall₂_same]
  intro out hout
  have hfixed := (guards_of_apply h out hout).fixed
  rw [apply_eq_mapM, mapM_eq_ok_iff, List.forall₂_cons] at hfixed
  exact hfixed.1

end Results

section Acceptance

/-- In a value of a field, the scalars with the field that governs each: the one of the
nearest document around the scalar, with only arrays between them. What lies in a field to be
removed is governed by none. -/
inductive Governs (masks : FieldMasks) : String → Value → String → Value → Prop
  | scalar {field : String} {x : Value} (h : x.IsScalar) : Governs masks field x field x
  | item {field governing : String} {items : List Value} {v x : Value} (hv : v ∈ items)
      (h : Governs masks field v governing x) : Governs masks field (.array items) governing x
  | entry {field governing key : String} {d : Document} {v x : Value}
      (he : (key, v) ∈ d.entries) (hkept : masks.get? key ≠ some .remove)
      (h : Governs masks key v governing x) : Governs masks field (.document d) governing x

/-- The scalars of a document with the fields that govern them. -/
def Governed (masks : FieldMasks) (d : Document) (governing : String) (x : Value) : Prop :=
  ∃ e ∈ d.entries, masks.get? e.1 ≠ some .remove ∧ masks.Governs e.1 e.2 governing x

theorem governs_scalar {v x : Value} (h : v.IsScalar) {governing : String} :
    masks.Governs field v governing x ↔ governing = field ∧ x = v := by
  constructor
  · intro hx
    cases hx with
    | scalar => exact ⟨rfl, rfl⟩
    | item => exact h.elim
    | entry => exact h.elim
  · rintro ⟨rfl, rfl⟩
    exact .scalar h

theorem governs_array {items : List Value} {x : Value} {governing : String} :
    masks.Governs field (.array items) governing x ↔
      ∃ v ∈ items, masks.Governs field v governing x := by
  constructor
  · intro hx
    cases hx with
    | scalar h => exact h.elim
    | item hv hx => exact ⟨_, hv, hx⟩
  · rintro ⟨v, hv, hx⟩
    exact .item hv hx

theorem governs_document {d : Document} {x : Value} {governing : String} :
    masks.Governs field (.document d) governing x ↔ masks.Governed d governing x := by
  constructor
  · intro hx
    cases hx with
    | scalar h => exact h.elim
    | entry he hkept hx => exact ⟨_, he, hkept, hx⟩
  · rintro ⟨e, he, hkept, hx⟩
    exact .entry he hkept hx

theorem exists_maskedEntry_iff {e : String × Value} :
    (∃ o, masks.maskedEntry e = .ok o) ↔ ∃ w, masks.masked e.1 e.2 = .ok w := by
  simp only [maskedEntry_eq_ok_iff]
  constructor
  · rintro ⟨o, -, ho⟩
    exact ⟨o.2, ho⟩
  · rintro ⟨w, hw⟩
    exact ⟨(e.1, w), rfl, hw⟩

/-- Where the values that can be masked are known, so are the documents. -/
theorem exists_maskedDocument_iff_of_entries {d : Document}
    (h : ∀ e ∈ d.entries, (∃ w, masks.masked e.1 e.2 = .ok w) ↔
      ∀ governing x, masks.Governs e.1 e.2 governing x → masks.Accepts governing x) :
    (∃ out, masks.maskedDocument d = .ok out) ↔
      ∀ governing x, masks.Governed d governing x → masks.Accepts governing x := by
  rw [maskedDocument, exists_map_eq_ok_iff, exists_mapM_eq_ok_iff]
  constructor
  · rintro hentries governing x ⟨e, he, hkept, hx⟩
    have hmasked := hentries e (mem_kept_iff.mpr ⟨he, hkept⟩)
    exact (h e he).mp (exists_maskedEntry_iff.mp hmasked) governing x hx
  · intro hall e he
    obtain ⟨hmem, hkept⟩ := mem_kept_iff.mp he
    refine exists_maskedEntry_iff.mpr ((h e hmem).mpr ?_)
    intro governing x hx
    exact hall governing x ⟨e, hmem, hkept, hx⟩

theorem exists_masked_iff {v : Value} :
    (∃ w, masks.masked field v = .ok w) ↔
      ∀ governing x, masks.Governs field v governing x → masks.Accepts governing x := by
  induction v using Value.induction generalizing field with
  | scalar v h =>
    simp only [masked_scalar h, outcome_maskScalar_eq_ok_iff, exists_covers_iff,
      governs_scalar h]
    constructor
    · rintro hv governing x ⟨rfl, rfl⟩
      exact hv
    · intro hall
      exact hall field v ⟨rfl, rfl⟩
  | array items ih =>
    rw [masked_array, exists_map_eq_ok_iff, exists_mapM_eq_ok_iff]
    constructor
    · intro hitems governing x hx
      obtain ⟨v, hv, hx⟩ := governs_array.mp hx
      exact (ih v hv).mp (hitems v hv) governing x hx
    · intro hall v hv
      exact (ih v hv).mpr fun governing x hx => hall governing x (.item hv hx)
  | document d ih =>
    rw [masked_document, exists_map_eq_ok_iff]
    simp only [governs_document]
    exact exists_maskedDocument_iff_of_entries fun e he => ih e he

theorem exists_maskedDocument_iff {d : Document} :
    (∃ out, masks.maskedDocument d = .ok out) ↔
      ∀ governing x, masks.Governed d governing x → masks.Accepts governing x :=
  exists_maskedDocument_iff_of_entries fun _ _ => exists_masked_iff

end Acceptance

/-- What masking does, exactly. Documents can be masked exactly if every scalar is accepted by
the field that governs it: if the field is masked, the scalar is a number or a text, and a text
that is masked as an address has the sign of one. What comes out then is each document without
the fields to be removed, at any depth, and with the governed scalars of masked fields obscured,
while other scalars, the keys and their order and the lengths of arrays are as they were; and
the same masks change nothing about it. -/
theorem apply_exact (masks : FieldMasks) (docs : List Document) :
    ((∃ outs, masks.apply docs = .ok outs) ↔
        ∀ d ∈ docs, ∀ governing x, masks.Governed d governing x → masks.Accepts governing x) ∧
      ∀ outs, (masks.apply docs = .ok outs ↔ List.Forall₂ masks.MaskedAs docs outs) ∧
        (masks.apply docs = .ok outs → masks.apply outs = .ok outs) := by
  constructor
  · rw [apply_eq_mapM, exists_mapM_eq_ok_iff]
    exact forall₂_congr fun d _ => exists_maskedDocument_iff
  · intro outs
    exact ⟨apply_eq_ok_iff, apply_masked⟩

/-- A mask reaches through arrays to texts and numbers, and fields to be removed go whole. -/
example : apply ⟨[("note", .remove), ("email", .email)]⟩
    [⟨[("note", .document ⟨[]⟩), ("email", .array [.string "me@x.io", .int 7])]⟩] =
      .ok [⟨[("email", .array [.string "******@x.io", .int 0])]⟩] := rfl

end FieldMasks

end QuerySets
