import Mathlib.Data.List.Forall2
import QuerySets.Proofs.Value.Equality
import QuerySets.Store.Index

/-!
What the check of unique indexes decides. It accepts documents exactly when each
unique index keeps them apart from the documents that are there and from each other.
Only the pairs of an earlier and a later document are looked at, in this order; as keys
are alike either way round or neither way, this tells any two documents apart.
-/

namespace QuerySets.Index

/-- Two keys whose parts are equal by size, one after the other. -/
def Alike (key other : List Value) : Prop :=
  List.Forall₂ (fun a b => a.looseEq b = true) key other

theorem sameKey_iff {key other : List Value} : sameKey key other = true ↔ Alike key other := by
  induction key generalizing other with
  | nil => cases other <;> simp [sameKey, Alike]
  | cons a as ih =>
    cases other with
    | nil => simp [sameKey, Alike]
    | cons b bs => simp [sameKey, Alike, ih]

/-- The index tells the first document from the second one. -/
def Separates (i : Index) (earlier later : Document) : Prop :=
  ¬ Alike (i.keyOf earlier) (i.keyOf later)

theorem clash?_eq_none_iff {i : Index} {used : List (List Value)} {docs : List Document} :
    i.clash? used docs = none ↔
      (∀ key ∈ used, ∀ d ∈ docs, ¬ Alike key (i.keyOf d)) ∧ docs.Pairwise i.Separates := by
  induction docs generalizing used with
  | nil => simp [clash?]
  | cons d rest ih =>
    have hany : (used.any (sameKey · (i.keyOf d)) = true) ↔
        ∃ key ∈ used, Alike key (i.keyOf d) := by
      simp [List.any_eq_true, sameKey_iff]
    simp only [clash?]
    split
    next hclash =>
      obtain ⟨key, hkey, hsame⟩ := hany.mp hclash
      constructor
      · intro h
        cases h
      · intro h
        exact absurd hsame (h.1 key hkey d List.mem_cons_self)
    next hfree =>
      have hapart : ∀ key ∈ used, ¬ Alike key (i.keyOf d) :=
        fun key hkey hsame => hfree (hany.mpr ⟨key, hkey, hsame⟩)
      rw [ih, List.pairwise_cons]
      constructor
      · intro h
        refine ⟨?_, ?_, h.2⟩
        · intro key hkey e he
          rcases List.mem_cons.mp he with rfl | he
          · exact hapart key hkey
          · exact h.1 key (List.mem_append_left _ hkey) e he
        · intro e he
          exact h.1 (i.keyOf d) (List.mem_append_right _ List.mem_cons_self) e he
      · intro h
        refine ⟨?_, h.2.2⟩
        intro key hkey e he
        rcases List.mem_append.mp hkey with hkey | hkey
        · exact h.1 key hkey e (List.mem_cons_of_mem _ he)
        · rw [List.mem_singleton.mp hkey]
          exact h.2.1 e he

theorem Alike.symm {key other : List Value} (h : Alike key other) : Alike other key := by
  refine List.Forall₂.flip (h.imp ?_)
  intro a b hab
  show b.looseEq a = true
  rw [Value.looseEq_comm]
  exact hab

/-- No two of the documents have the same key. -/
def Apart (i : Index) (docs : List Document) : Prop :=
  ∀ (m n : Nat) (d e : Document), m ≠ n → docs[m]? = some d → docs[n]? = some e →
    ¬ Alike (i.keyOf d) (i.keyOf e)

/-- It is enough to tell the earlier documents from the later ones. -/
theorem apart_of_pairwise {i : Index} {docs : List Document} (h : docs.Pairwise i.Separates) :
    i.Apart docs := by
  have hlater : ∀ (m n : Nat) (d e : Document), m < n → docs[m]? = some d → docs[n]? = some e →
      ¬ Alike (i.keyOf d) (i.keyOf e) := by
    intro m n d e hlt hd he
    obtain ⟨hm, rfl⟩ := List.getElem?_eq_some_iff.mp hd
    obtain ⟨hn, rfl⟩ := List.getElem?_eq_some_iff.mp he
    exact List.pairwise_iff_getElem.mp h m n hm hn hlt
  intro m n d e hne hd he
  rcases Nat.lt_or_gt_of_ne hne with hlt | hgt
  · exact hlater m n d e hlt hd he
  · intro halike
    exact hlater n m e d hgt he hd halike.symm

/-- The documents that come in are kept apart from those that are there, and from each
other. -/
def Admits (i : Index) (existing incoming : List Document) : Prop :=
  (∀ d ∈ existing, ∀ e ∈ incoming, i.Separates d e) ∧ incoming.Pairwise i.Separates

theorem clash?_keys_eq_none_iff {i : Index} {existing incoming : List Document} :
    i.clash? (existing.map i.keyOf) incoming = none ↔ i.Admits existing incoming := by
  rw [clash?_eq_none_iff]
  simp [Admits, Separates]

theorem checkUnique_eq_ok_iff {collection : String} {indexes : List Index}
    {existing incoming : List Document} :
    checkUnique collection indexes existing incoming = .ok () ↔
      ∀ i ∈ indexes, i.unique = true → i.Admits existing incoming := by
  induction indexes with
  | nil => simp [checkUnique]
  | cons i rest ih =>
    simp only [checkUnique, List.forall_mem_cons]
    cases hunique : i.unique with
    | false => simp [ih]
    | true =>
      cases hclash : i.clash? (existing.map i.keyOf) incoming with
      | none => simp [ih, clash?_keys_eq_none_iff.mp hclash]
      | some key =>
        have hnot : ¬ i.Admits existing incoming := by
          rw [← clash?_keys_eq_none_iff, hclash]
          simp
        simp [hnot]

/-- The order in which the indexes are looked at does not decide. -/
theorem checkUnique_eq_ok_iff_of_perm {collection : String} {indexes indexes' : List Index}
    (h : indexes.Perm indexes') {existing incoming : List Document} :
    checkUnique collection indexes existing incoming = .ok () ↔
      checkUnique collection indexes' existing incoming = .ok () := by
  simp only [checkUnique_eq_ok_iff, h.mem_iff]

end QuerySets.Index
