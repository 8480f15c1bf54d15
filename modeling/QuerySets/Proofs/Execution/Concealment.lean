import QuerySets.Proofs.Execution.MaskedDocuments

/-!
What masking keeps to itself. Documents that differ only in what their masks hide come to the
same: the same masked documents, or the same fault. So neither what is removed, nor the hidden
part of a text, nor a masked number can be told from the answer.
-/

namespace QuerySets

namespace FieldMasks

/-- Texts that agree in what a mask leaves to be seen. -/
def Conceals : MaskType → List Char → List Char → Prop
  | .all, _, _ | .remove, _, _ => True
  | .email, cs, ds => ('@' ∉ cs ∧ '@' ∉ ds) ∨
      ∃ name other address, '@' ∉ name ∧ '@' ∉ other ∧
        cs = name ++ '@' :: address ∧ ds = other ++ '@' :: address
  | .left n, cs, ds => cs.length = ds.length ∧ cs.drop n = ds.drop n
  | .right n, cs, ds => cs.length = ds.length ∧
      cs.take (cs.length - n) = ds.take (ds.length - n)

/-- Scalars of a field that are the same, or that only its mask makes the same. -/
inductive Indistinct (masks : FieldMasks) (field : String) : Value → Value → Prop
  | same (v : Value) : Indistinct masks field v v
  | int {type : MaskType} (h : masks.get? field = some type) (n m : Int64) :
      Indistinct masks field (.int n) (.int m)
  | float {type : MaskType} (h : masks.get? field = some type) (x y : Float) :
      Indistinct masks field (.float x) (.float y)
  | string {type : MaskType} (h : masks.get? field = some type) {s t : String}
      (hst : Conceals type s.toList t.toList) : Indistinct masks field (.string s) (.string t)

/-- Documents that differ only in fields to be removed, at any depth, and in scalars that the
masks of their fields make the same. -/
def AgreeOnShown (masks : FieldMasks) (d other : Document) : Prop :=
  (d.without masks.removes).Alike masks.Indistinct (other.without masks.removes)

variable {masks : FieldMasks} {field : String}

section Scalars

theorem dropWhile_address {name : List Char} (hname : '@' ∉ name) (address : List Char) :
    (name ++ '@' :: address).dropWhile (· ≠ '@') = '@' :: address :=
  dropWhile_eq_cons_iff.mpr ⟨name, hname, rfl, rfl⟩

theorem dropWhile_of_not_mem {cs : List Char} (h : '@' ∉ cs) :
    cs.dropWhile (· ≠ '@') = [] := by
  apply List.dropWhile_eq_nil_iff.mpr
  intro c hc
  have hother : c ≠ '@' := fun heq => h (heq ▸ hc)
  simpa using hother

theorem obscure?_eq_of_conceals {type : MaskType} {cs ds : List Char}
    (h : Conceals type cs ds) : obscure? type cs = obscure? type ds := by
  cases type with
  | all => rfl
  | remove => rfl
  | email =>
    rw [obscure?, obscure?]
    obtain ⟨hcs, hds⟩ | ⟨name, other, address, hname, hother, rfl, rfl⟩ := h
    · rw [dropWhile_of_not_mem hcs, dropWhile_of_not_mem hds]
    · rw [dropWhile_address hname, dropWhile_address hother]
  | left n =>
    obtain ⟨hlength, hdrop⟩ := h
    rw [obscure?, obscure?, hlength, hdrop]
  | right n =>
    obtain ⟨hlength, htake⟩ := h
    rw [obscure?, obscure?, htake, hlength]

theorem maskScalar_eq_of_indistinct {v w : Value} (h : masks.Indistinct field v w) :
    outcome (masks.maskScalar field v) = outcome (masks.maskScalar field w) := by
  cases h with
  | same => rfl
  | int h | float h =>
    rw [outcome_maskScalar_of_masked h, outcome_maskScalar_of_masked h]
    rfl
  | string h hst =>
    rw [outcome_maskScalar_of_masked h, outcome_maskScalar_of_masked h, obscureScalar,
      obscureScalar, obscure?_eq_of_conceals hst]

end Scalars

section Removed

theorem kept_entriesWithout (entries : List (String × Value)) :
    masks.kept (Value.entriesWithout masks.removes entries) =
      (masks.kept entries).map fun e => (e.1, e.2.without masks.removes) := by
  rw [Value.entriesWithout_eq_map, kept, kept, List.filter_map, List.filter_filter]
  simp only [Function.comp_apply, Bool.and_self]

/-- Where it does not matter for the values, it does not for the document. -/
theorem maskedDocument_without_of_entries {d : Document}
    (h : ∀ e ∈ d.entries, masks.masked e.1 (e.2.without masks.removes) = masks.masked e.1 e.2) :
    masks.maskedDocument (d.without masks.removes) = masks.maskedDocument d := by
  have hentries : List.Forall₂ (fun e o => masks.maskedEntry e = masks.maskedEntry o)
      (masks.kept (d.without masks.removes).entries) (masks.kept d.entries) := by
    rw [Document.without, kept_entriesWithout, List.forall₂_map_left_iff, List.forall₂_same]
    intro e he
    rw [maskedEntry, maskedEntry, h e (mem_kept_iff.mp he).1]
  rw [maskedDocument, maskedDocument, mapM_eq_of_forall₂ hentries]

/-- It does not matter whether fields are there that are to be removed. -/
theorem masked_without (v : Value) :
    masks.masked field (v.without masks.removes) = masks.masked field v := by
  induction v using Value.induction generalizing field with
  | scalar v h => rw [Value.without_scalar h]
  | array items ih =>
    have hitems : List.Forall₂ (fun v w => masks.masked field v = masks.masked field w)
        (items.map (Value.without masks.removes)) items := by
      rw [List.forall₂_map_left_iff, List.forall₂_same]
      exact fun v hv => ih v hv
    rw [Value.without_array, masked_array, masked_array, mapM_eq_of_forall₂ hitems]
  | document d ih =>
    rw [Value.without_document, masked_document, masked_document,
      maskedDocument_without_of_entries fun e he => ih e he]

theorem maskedDocument_without (d : Document) :
    masks.maskedDocument (d.without masks.removes) = masks.maskedDocument d :=
  maskedDocument_without_of_entries fun e _ => masked_without e.2

end Removed

section Indistinct

/-- Where values that are alike come to the same, so do documents that are. -/
theorem maskedDocument_eq_of_entries {d other : Document}
    (h : ∀ e ∈ d.entries, ∀ w, Value.Alike masks.Indistinct e.1 e.2 w →
      masks.masked e.1 e.2 = masks.masked e.1 w)
    (halike : d.Alike masks.Indistinct other) :
    masks.maskedDocument d = masks.maskedDocument other := by
  have hentries : List.Forall₂ (fun e o => e.1 = o.1 ∧ masks.maskedEntry e = masks.maskedEntry o)
      d.entries other.entries := by
    refine ((List.forall₂_and_left _ _).mpr ⟨h, halike⟩).imp ?_
    rintro ⟨key, v⟩ ⟨_, w⟩ ⟨hv, rfl, hvw⟩
    exact ⟨rfl, by rw [maskedEntry, maskedEntry, hv w hvw]⟩
  have hkept : List.Forall₂ (fun e o => e.1 = o.1 ∧ masks.maskedEntry e = masks.maskedEntry o)
      (masks.kept d.entries) (masks.kept other.entries) := by
    refine List.rel_filter ?_ hentries
    rintro e o ⟨hkey, -⟩
    simp only [hkey]
  rw [maskedDocument, maskedDocument, mapM_eq_of_forall₂ (hkept.imp fun _ _ heo => heo.2)]

theorem masked_eq_of_alike {v w : Value} (h : Value.Alike masks.Indistinct field v w) :
    masks.masked field v = masks.masked field w := by
  induction v using Value.induction generalizing field w with
  | scalar v hv =>
    obtain ⟨hw, hvw⟩ := (Value.alike_scalar hv).mp h
    rw [masked_scalar hv, masked_scalar hw, maskScalar_eq_of_indistinct hvw]
  | array items ih =>
    obtain ⟨others, hothers, rfl⟩ := Value.alike_array.mp h
    have hitems : List.Forall₂ (fun v w => masks.masked field v = masks.masked field w)
        items others := by
      refine ((List.forall₂_and_left _ _).mpr ⟨ih, hothers⟩).imp ?_
      rintro v w ⟨hv, hvw⟩
      exact hv hvw
    rw [masked_array, masked_array, mapM_eq_of_forall₂ hitems]
  | document d ih =>
    obtain ⟨other, hother, rfl⟩ := Value.alike_document.mp h
    rw [masked_document, masked_document,
      maskedDocument_eq_of_entries (fun e he w hw => ih e he hw) hother]

theorem maskedDocument_eq_of_alike {d other : Document} (h : d.Alike masks.Indistinct other) :
    masks.maskedDocument d = masks.maskedDocument other :=
  maskedDocument_eq_of_entries (fun _ _ _ hw => masked_eq_of_alike hw) h

end Indistinct

theorem maskedDocument_eq_of_agreeOnShown {d other : Document}
    (h : masks.AgreeOnShown d other) : masks.maskedDocument d = masks.maskedDocument other := by
  rw [← maskedDocument_without d, ← maskedDocument_without other]
  exact maskedDocument_eq_of_alike h

/-- Documents that differ only in fields to be removed, at any depth, and in what the masks of
other fields hide of scalars that these govern, cannot be told apart by their masked form: they
come to the same documents, or masking them stops at the same fault. -/
theorem apply_eq_of_agreeOnShown (masks : FieldMasks) {docs others : List Document}
    (h : List.Forall₂ masks.AgreeOnShown docs others) : masks.apply docs = masks.apply others := by
  rw [apply_eq_mapM, apply_eq_mapM]
  exact mapM_eq_of_forall₂ (h.imp fun _ _ hshown => maskedDocument_eq_of_agreeOnShown hshown)

/-- Masks that remove notes and hide the names in addresses. -/
def contactMasks : FieldMasks := ⟨[("note", .remove), ("email", .email)]⟩

def contact : Document := ⟨[("note", .int 1), ("email", .array [.string "ann@x.io", .int 7])]⟩

def otherContact : Document := ⟨[("email", .array [.string "bob@x.io", .int 8])]⟩

theorem apply_eq_of_agreeOnShown_contacts :
    List.Forall₂ contactMasks.AgreeOnShown [contact] [otherContact] ∧
      contactMasks.apply [contact] = contactMasks.apply [otherContact] := by
  have hmask : contactMasks.get? "email" = some .email := by decide
  have hnames : Conceals .email "ann@x.io".toList "bob@x.io".toList :=
    .inr ⟨"ann".toList, "bob".toList, "x.io".toList, by decide, by decide, by decide, by decide⟩
  have hitems : Value.Alike contactMasks.Indistinct "email"
      (.array [.string "ann@x.io", .int 7]) (.array [.string "bob@x.io", .int 8]) := by
    refine Value.alike_array.mpr ⟨_, .cons ?_ (.cons ?_ .nil), rfl⟩
    · exact .scalar trivial trivial (.string hmask hnames)
    · exact .scalar trivial trivial (.int hmask 7 8)
  have hshown : contactMasks.AgreeOnShown contact otherContact := .cons ⟨rfl, hitems⟩ .nil
  have hall : List.Forall₂ contactMasks.AgreeOnShown [contact] [otherContact] :=
    .cons hshown .nil
  exact ⟨hall, apply_eq_of_agreeOnShown contactMasks hall⟩

end FieldMasks

end QuerySets
