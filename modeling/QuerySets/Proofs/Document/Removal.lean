import QuerySets.Proofs.Document.Within
import QuerySets.Proofs.Value.Nodes

/-!
Reading after a value has been taken away. Nothing is left through documents alone at the path
that it was taken from, other paths lead to what they led to, and the documents on the way keep
their other fields. A path that comes to anything but a document before its end takes nothing
away.
-/

namespace QuerySets.Document

open QuerySets.Path (Apart)

section Proper

variable {d : Document}

/-- Each name stands once in the document and in all documents inside of it. -/
def Proper (d : Document) : Prop := ∀ node, (Value.document d).HasNode node → node.Distinct

theorem proper_iff_nodes :
    Proper d ↔ ∀ node ∈ (Value.document d).nodes, node.Distinct := by
  simp only [Proper, Value.mem_nodes_iff]

instance (d : Document) : Decidable d.Proper := decidable_of_iff _ proper_iff_nodes.symm

theorem proper_iff : Proper d ↔
    d.Distinct ∧ ∀ e ∈ d.entries, ∀ node, e.2.HasNode node → node.Distinct := by
  simp only [Proper, Value.hasNode_document]
  constructor
  · intro h
    exact ⟨h d (Or.inl rfl), fun e he node hnode => h node (Or.inr ⟨e, he, hnode⟩)⟩
  · rintro ⟨hdistinct, hentries⟩ node (rfl | ⟨e, he, hnode⟩)
    · exact hdistinct
    · exact hentries e he node hnode

theorem Proper.distinct (h : d.Proper) : d.Distinct := h d (.here d)

theorem Proper.field {child : Document} {key : String} (h : d.Proper)
    (hfield : d.get? key = some (.document child)) : child.Proper :=
  fun node hnode => h node (.field (Association.mem_of_lookup hfield) hnode)

theorem Proper.insert {child : Document} (h : d.Proper) (key : String) (hchild : child.Proper) :
    Proper (d.insert key (.document child)) := by
  refine proper_iff.mpr ⟨h.distinct.insert key _, fun e he => ?_⟩
  rcases Fields.mem_put he with rfl | hold
  · exact hchild
  · exact (proper_iff.mp h).2 e hold

theorem Proper.erase (h : d.Proper) (key : String) : Proper (d.erase key) := by
  refine proper_iff.mpr ⟨h.distinct.erase key, fun e he => ?_⟩
  exact (proper_iff.mp h).2 e (List.mem_of_mem_eraseP he)

end Proper

section Remove

variable {d child : Document} {key : String} {rest : Path}

theorem remove_cons (hrest : rest ≠ []) (h : d.get? key = some (.document child)) :
    d.remove (key :: rest) =
      ((remove child rest).1, d.insert key (.document (remove child rest).2)) := by
  cases rest with
  | nil => exact absurd rfl hrest
  | cons segment rest => rw [remove, h]

theorem remove_blocked (hrest : rest ≠ []) (h : ∀ child, d.get? key ≠ some (.document child)) :
    d.remove (key :: rest) = (none, d) := by
  cases rest with
  | nil => exact absurd rfl hrest
  | cons segment rest =>
    rw [remove]
    split
    next child hchild => exact absurd hchild (h child)
    next => rfl

/-- On its way a removal goes through a document, or it takes nothing away. -/
theorem remove_cases (d : Document) (key : String) (hrest : rest ≠ []) :
    (∃ child, d.get? key = some (.document child) ∧ d.remove (key :: rest) =
      ((remove child rest).1, d.insert key (.document (remove child rest).2))) ∨
    (∀ child, d.get? key ≠ some (.document child)) ∧ d.remove (key :: rest) = (none, d) := by
  by_cases h : ∃ child, d.get? key = some (.document child)
  · obtain ⟨child, hchild⟩ := h
    exact Or.inl ⟨child, hchild, remove_cons hrest hchild⟩
  · have hblocked : ∀ child, d.get? key ≠ some (.document child) := fun child hchild =>
      h ⟨child, hchild⟩
    exact Or.inr ⟨hblocked, remove_blocked hrest hblocked⟩

theorem Proper.remove {d : Document} (h : d.Proper) (p : Path) : Proper (d.remove p).2 := by
  induction p generalizing d with
  | nil => exact h
  | cons key rest ih =>
    by_cases hrest : rest = []
    · subst hrest
      exact h.erase key
    · rcases remove_cases d key hrest with ⟨child, hchild, heq⟩ | ⟨-, heq⟩
      · rw [heq]
        exact h.insert key (ih (h.field hchild))
      · rw [heq]
        exact h

theorem get?_remove_of_ne {other : String} (h : key ≠ other) (d : Document) (rest : Path) :
    (d.remove (key :: rest)).2.get? other = d.get? other := by
  by_cases hrest : rest = []
  · subst hrest
    exact Fields.get?_erase_of_ne h d
  · rcases remove_cases d key hrest with ⟨child, -, heq⟩ | ⟨-, heq⟩
    · rw [heq, Fields.get?_insert, if_neg h]
    · rw [heq]

/-- What a path beside the removed one leads to stays. -/
theorem at?_remove_of_apart {p q : Path} (h : Apart p q) (d : Document) :
    at? (d.remove p).2 q = d.at? q := by
  induction p generalizing d q with
  | nil => exact absurd h (Path.not_apart_nil q)
  | cons key rest ih =>
    obtain ⟨other, q, rfl⟩ := h.exists_cons
    by_cases hkey : key = other
    · subst hkey
      have hbelow : Apart rest q := Path.apart_cons_self.mp h
      obtain ⟨segment, others, hrest⟩ := hbelow.symm.exists_cons
      rcases remove_cases d key (hrest ▸ List.cons_ne_nil _ _) with ⟨child, hchild, heq⟩ | ⟨-, heq⟩
      · rw [heq, at?_insert_self, at?_cons_document hchild]
        exact ih hbelow child
      · rw [heq]
    · rw [at?_cons, at?_cons, get?_remove_of_ne hkey]

/-- Where nothing is found nothing changes. -/
theorem remove_of_missing {p : Path} (h : d.at? p = none) : (d.remove p).2 = d := by
  induction p generalizing d with
  | nil => rfl
  | cons key rest ih =>
    by_cases hrest : rest = []
    · subst hrest
      rw [at?_cons] at h
      refine Fields.erase_of_get?_eq_none ?_
      cases hfield : d.get? key with
      | none => rfl
      | some v =>
        rw [hfield] at h
        cases h
    · rcases remove_cases d key hrest with ⟨child, hchild, heq⟩ | ⟨-, heq⟩
      · rw [at?_cons_document hchild] at h
        rw [heq, ih h]
        exact Fields.insert_of_get? hchild
      · rw [heq]

end Remove

section Within

variable {d : Document}

theorem within?_cons (d : Document) (key : String) (rest : Path) :
    Value.within? (key :: rest) (.document d) = (d.get? key).bind (Value.within? rest) := rfl

/-- Nothing is left where a value was taken away, nor below. -/
theorem within?_remove_of_prefix {p q : Path} (hne : p ≠ []) (hpq : p <+: q) (h : d.Proper) :
    Value.within? q (.document (d.remove p).2) = none := by
  induction p generalizing d q with
  | nil => exact absurd rfl hne
  | cons key rest ih =>
    obtain ⟨back, rfl⟩ := hpq
    rw [List.cons_append, within?_cons]
    by_cases hrest : rest = []
    · subst hrest
      have hnone : (d.erase key).get? key = none := by
        rw [h.distinct.get?_erase, if_pos rfl]
      change ((d.erase key).get? key).bind _ = none
      rw [hnone]
      rfl
    · rcases remove_cases d key hrest with ⟨child, hchild, heq⟩ | ⟨hblocked, heq⟩
      · rw [heq, Fields.get?_insert, if_pos rfl]
        exact ih hrest (List.prefix_append rest back) (h.field hchild)
      · rw [heq]
        obtain ⟨segment, others, hsome⟩ := List.exists_cons_of_ne_nil hrest
        cases hfield : d.get? key with
        | none => rfl
        | some v =>
          cases v with
          | document child => exact absurd hfield (hblocked child)
          | _ => rw [hsome]; rfl

/-- At a path that does not lead through the removed one there is the same value as before, or
both times a document. -/
theorem within?_remove {p q : Path} (h : ¬ p <+: q) (d : Document) :
    Value.within? q (.document (d.remove p).2) = Value.within? q (.document d) ∨
      ∃ old new, Value.within? q (.document d) = some (.document old) ∧
        Value.within? q (.document (d.remove p).2) = some (.document new) := by
  induction p generalizing d q with
  | nil => exact absurd List.nil_prefix h
  | cons key rest ih =>
    cases q with
    | nil => exact Or.inr ⟨d, _, rfl, rfl⟩
    | cons other q =>
      rw [within?_cons, within?_cons]
      by_cases hkey : key = other
      · subst hkey
        have hbelow : ¬ rest <+: q := fun hthrough => h (List.cons_prefix_cons.mpr ⟨rfl, hthrough⟩)
        have hrest : rest ≠ [] := by
          rintro rfl
          exact hbelow List.nil_prefix
        rcases remove_cases d key hrest with ⟨child, hchild, heq⟩ | ⟨-, heq⟩
        · rw [heq, Fields.get?_insert, if_pos rfl, hchild]
          exact ih hbelow child
        · rw [heq]
          exact Or.inl rfl
      · rw [get?_remove_of_ne hkey]
        exact Or.inl rfl

end Within

end QuerySets.Document
