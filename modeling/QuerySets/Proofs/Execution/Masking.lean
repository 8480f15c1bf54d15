import QuerySets.Proofs.Execution.MaskedScalars
import QuerySets.Proofs.Traversal

/-!
What masking leaves behind. Containers are masked member by member, up to the first fault. A
masked value is settled: masking it again changes nothing, and no document in it, however deep,
has a field that is to be removed.
-/

namespace QuerySets

namespace FieldMasks

/-- What masking a value of a field comes to. -/
def masked (masks : FieldMasks) (field : String) (v : Value) : Except MaskingFault Value :=
  outcome (masks.maskValue field v)

def maskedEntry (masks : FieldMasks) (e : String × Value) :
    Except MaskingFault (String × Value) :=
  (masks.masked e.1 e.2).map (e.1, ·)

def maskedDocument (masks : FieldMasks) (d : Document) : Except MaskingFault Document :=
  ((masks.kept d.entries).mapM masks.maskedEntry).map Fields.mk

variable {masks : FieldMasks} {field : String}

theorem maskValue_scalar {v : Value} (h : v.IsScalar) :
    masks.maskValue field v = masks.maskScalar field v := by
  cases v <;> first | rfl | cases h

section Outcomes

theorem outcome_maskItems (items : List Value) :
    outcome (masks.maskItems field items) = items.mapM (masks.masked field) := by
  induction items with
  | nil => rfl
  | cons v rest ih =>
    rw [List.mapM_cons, ← ih, masked, maskItems]
    cases masks.maskValue field v with
    | mk w fault =>
      cases fault with
      | some fault => rfl
      | none =>
        cases masks.maskItems field rest with
        | mk others fault => cases fault <;> rfl

theorem outcome_maskEntries (entries : List (String × Value)) :
    outcome (masks.maskEntries entries) = (masks.kept entries).mapM masks.maskedEntry := by
  induction entries with
  | nil => rfl
  | cons e rest ih =>
    obtain ⟨key, v⟩ := e
    by_cases hkey : masks.removes key = true
    · have hkept : masks.kept ((key, v) :: rest) = masks.kept rest := by
        simp [kept, hkey]
      rw [hkept, ← ih, maskEntries, if_pos hkey]
    · have hkept : masks.kept ((key, v) :: rest) = (key, v) :: masks.kept rest := by
        simp [kept, hkey]
      rw [hkept, List.mapM_cons, ← ih, maskEntries, if_neg hkey, maskedEntry, masked]
      cases masks.maskValue key v with
      | mk w fault =>
        cases fault with
        | some fault => rfl
        | none =>
          cases masks.maskEntries rest with
          | mk others fault => cases fault <;> rfl

theorem outcome_maskDocument (d : Document) :
    outcome (masks.maskDocument d) = masks.maskedDocument d := by
  rw [maskedDocument, ← outcome_maskEntries, maskDocument]
  cases masks.maskEntries d.entries with
  | mk entries fault => cases fault <;> rfl

theorem masked_scalar {v : Value} (h : v.IsScalar) :
    masks.masked field v = outcome (masks.maskScalar field v) := by
  rw [masked, maskValue_scalar h]

theorem masked_array (items : List Value) :
    masks.masked field (.array items) = (items.mapM (masks.masked field)).map .array := by
  rw [← outcome_maskItems, masked, maskValue]
  cases masks.maskItems field items with
  | mk others fault => cases fault <;> rfl

theorem masked_document (d : Document) :
    masks.masked field (.document d) = (masks.maskedDocument d).map .document := by
  rw [← outcome_maskDocument, masked, maskValue, maskDocument]
  cases masks.maskEntries d.entries with
  | mk entries fault => cases fault <;> rfl

/-- Documents are masked one by one, up to the first fault. -/
theorem apply_eq_mapM (docs : List Document) :
    masks.apply docs = docs.mapM masks.maskedDocument := by
  have houtcome : masks.apply docs = outcome (masks.maskAll docs) := by
    rw [apply]
    cases masks.maskAll docs with
    | mk outs fault => cases fault <;> rfl
  rw [houtcome]
  clear houtcome
  induction docs with
  | nil => rfl
  | cons d rest ih =>
    rw [List.mapM_cons, ← ih, ← outcome_maskDocument, maskAll]
    cases masks.maskDocument d with
    | mk out fault =>
      cases fault with
      | some fault => rfl
      | none =>
        cases masks.maskAll rest with
        | mk outs fault => cases fault <;> rfl

theorem maskedEntry_eq_ok_iff {e o : String × Value} :
    masks.maskedEntry e = .ok o ↔ e.1 = o.1 ∧ masks.masked e.1 e.2 = .ok o.2 := by
  rw [maskedEntry, map_eq_ok_iff]
  constructor
  · rintro ⟨w, hw, rfl⟩
    exact ⟨rfl, hw⟩
  · rintro ⟨hkey, hw⟩
    exact ⟨o.2, hw, Prod.ext hkey rfl⟩

theorem maskedDocument_eq_ok_iff_forall₂ {d out : Document} :
    masks.maskedDocument d = .ok out ↔
      List.Forall₂ (fun e o => masks.maskedEntry e = .ok o) (masks.kept d.entries) out.entries := by
  rw [maskedDocument, map_eq_ok_iff, ← mapM_eq_ok_iff]
  constructor
  · rintro ⟨entries, h, rfl⟩
    exact h
  · intro h
    exact ⟨out.entries, h, rfl⟩

theorem mem_kept_iff {entries : List (String × Value)} {e : String × Value} :
    e ∈ masks.kept entries ↔ e ∈ entries ∧ masks.get? e.1 ≠ some .remove := by
  simp [kept, removes]

end Outcomes

/-- A value of a field that masking leaves as it is, and in which nothing is to be
removed. -/
structure Settled (masks : FieldMasks) (field : String) (v : Value) : Prop where
  fixed : masks.maskValue field v = (v, none)
  clean : ∀ node, v.HasNode node → ∀ key ∈ node.keys, masks.removes key = false

theorem settled_scalar {v : Value} (h : v.IsScalar) (hv : masks.Covers field v v) :
    masks.Settled field v := by
  constructor
  · rw [maskValue_scalar h, ← outcome_eq_ok_iff]
    exact outcome_maskScalar_eq_ok_iff.mpr hv
  · intro node hnode
    exact absurd hnode (Value.not_hasNode_scalar h node)

theorem settled_array {items : List Value} (h : ∀ v ∈ items, masks.Settled field v) :
    masks.Settled field (.array items) := by
  constructor
  · have hitems : items.mapM (masks.masked field) = .ok items :=
      mapM_eq_ok_self fun v hv => outcome_eq_ok_iff.mpr (h v hv).fixed
    rw [← outcome_eq_ok_iff, ← masked, masked_array, hitems]
    rfl
  · intro node hnode
    obtain ⟨v, hv, hnode⟩ := Value.hasNode_array.mp hnode
    exact (h v hv).clean node hnode

theorem settled_document {d : Document}
    (h : ∀ e ∈ d.entries, masks.removes e.1 = false ∧ masks.Settled e.1 e.2) :
    masks.Settled field (.document d) := by
  constructor
  · have hkept : masks.kept d.entries = d.entries :=
      List.filter_eq_self.mpr fun e he => by rw [(h e he).1, Bool.not_false]
    have hentries : d.entries.mapM masks.maskedEntry = .ok d.entries := by
      apply mapM_eq_ok_self
      intro e he
      exact maskedEntry_eq_ok_iff.mpr ⟨rfl, outcome_eq_ok_iff.mpr (h e he).2.fixed⟩
    rw [← outcome_eq_ok_iff, ← masked, masked_document, maskedDocument, hkept, hentries]
    rfl
  · intro node hnode key hkey
    rcases Value.hasNode_document.mp hnode with rfl | ⟨e, he, hnode⟩
    · obtain ⟨e, he, rfl⟩ := List.mem_map.mp hkey
      exact (h e he).1
    · exact (h e he).2.clean node hnode key hkey

/-- Where masked values are settled, so are documents. -/
theorem settled_of_maskedDocument_of_entries {d out : Document}
    (h : ∀ e ∈ d.entries, ∀ w, masks.masked e.1 e.2 = .ok w → masks.Settled e.1 w)
    (hout : masks.maskedDocument d = .ok out) : masks.Settled field (.document out) := by
  apply settled_document
  intro o ho
  obtain ⟨e, he, hmasked⟩ := exists_relating (maskedDocument_eq_ok_iff_forall₂.mp hout) ho
  obtain ⟨hmem, hkept⟩ := List.mem_filter.mp he
  obtain ⟨hkey, hvalue⟩ := maskedEntry_eq_ok_iff.mp hmasked
  rw [← hkey]
  exact ⟨by simpa using hkept, h e hmem o.2 hvalue⟩

theorem settled_of_masked {v w : Value} (h : masks.masked field v = .ok w) :
    masks.Settled field w := by
  induction v using Value.induction generalizing field w with
  | scalar v hv =>
    rw [masked_scalar hv] at h
    have hcovers := outcome_maskScalar_eq_ok_iff.mp h
    exact settled_scalar (hcovers.isScalar hv) hcovers.again
  | array items ih =>
    rw [masked_array, map_eq_ok_iff] at h
    obtain ⟨others, hothers, rfl⟩ := h
    apply settled_array
    intro w hw
    obtain ⟨v, hv, hmasked⟩ := exists_relating (mapM_eq_ok_iff.mp hothers) hw
    exact ih v hv hmasked
  | document d ih =>
    rw [masked_document, map_eq_ok_iff] at h
    obtain ⟨out, hout, rfl⟩ := h
    exact settled_of_maskedDocument_of_entries (fun e he _ hw => ih e he hw) hout

/-- A document that masking leaves as it is, and in which no field is to be removed at
any depth. -/
structure Guards (masks : FieldMasks) (d : Document) : Prop where
  fixed : masks.apply [d] = .ok [d]
  clean : ∀ node, (Value.document d).HasNode node →
    ∀ key ∈ node.keys, masks.get? key ≠ some .remove

theorem guards_of_settled {d : Document} (h : masks.Settled field (.document d)) :
    masks.Guards d := by
  constructor
  · have hdocument : masks.maskDocument d = (d, none) := by
      have hfixed := h.fixed
      simp only [maskValue, Prod.mk.injEq, Value.document.injEq] at hfixed
      exact Prod.ext hfixed.1 hfixed.2
    simp only [apply, maskAll, hdocument]
  · intro node hnode key hkey hremove
    have hclean := h.clean node hnode key hkey
    simp [removes, hremove] at hclean

/-- Whatever masking succeeds on, it guards every document that it returns. -/
theorem guards_of_apply {docs out : List Document} (h : masks.apply docs = .ok out) :
    ∀ d ∈ out, masks.Guards d := by
  intro out hout
  rw [apply_eq_mapM, mapM_eq_ok_iff] at h
  obtain ⟨d, -, hmasked⟩ := exists_relating h hout
  have hsettled : masks.Settled "" (.document out) :=
    settled_of_maskedDocument_of_entries (fun _ _ _ hw => settled_of_masked hw) hmasked
  exact guards_of_settled hsettled

end FieldMasks

end QuerySets
