import Mathlib.Data.List.Perm.Basic
import QuerySets.Proofs.Value.Order
import QuerySets.Sorting

/-!
What a stable sort is. It rearranges a list so that it is in order and what compares equal
stands as it stood before; only one list is like that. To sort a list that has been sorted
before is to sort it once, by the later comparison and, where that does not decide, by the
earlier one.
-/

namespace QuerySets.Sorting

variable {α : Type} {cmp : α → α → Ordering} {P : α → Prop}

/-- The comparison gives the order of what has a property, up to what compares equal. -/
def ConsistentOn (cmp : α → α → Ordering) (P : α → Prop) : Prop :=
  ∀ a b c, P a → P b → P c → Consistent (cmp a b) (cmp b c) (cmp a c)

/-- Whether nothing tells which of the two comes first. -/
def tied (cmp : α → α → Ordering) (a b : α) : Bool := cmp a b == .eq

/-- The second list is the first one in order, and what is tied has kept its order. -/
structure StablySorted (cmp : α → α → Ordering) (xs ys : List α) : Prop where
  perm : ys.Perm xs
  ordered : ys.Pairwise fun a b => (cmp a b).isLE = true
  kept : ∀ a ∈ xs, ys.filter (tied cmp a) = xs.filter (tied cmp a)

theorem tied_iff {a b : α} : tied cmp a b = true ↔ cmp a b = .eq := beq_iff_eq

/-- Two elements are not both tied with a third one if one of them comes first. -/
theorem not_tied_of_lt (h : ConsistentOn cmp P) {a x y : α} (ha : P a) (hx : P x) (hy : P y)
    (hlt : cmp x y = .lt) (hax : tied cmp a x = true) : tied cmp a y = false := by
  have hay : cmp a y = .lt :=
    ((h a x y ha hx hy).left (tied_iff.mp hax)).trans hlt
  rw [tied, hay]
  rfl

section Ties

variable [Std.OrientedCmp cmp]

theorem tied_self (a : α) : tied cmp a a = true :=
  tied_iff.mpr Std.ReflCmp.compare_self

theorem isLE_of_not_lt {a b : α} (hab : cmp a b ≠ .lt) : (cmp b a).isLE = true := by
  have hswap : cmp b a = (cmp a b).swap := Std.OrientedCmp.eq_swap
  rw [hswap]
  cases hcmp : cmp a b with
  | lt => exact absurd hcmp hab
  | eq | gt => rfl

end Ties

section Place

theorem forall_mem_place {x : α} (hx : P x) {placed : List α} (hplaced : ∀ y ∈ placed, P y) :
    ∀ y ∈ place (fun a b => cmp a b == .lt) x placed, P y := by
  intro y hy
  rcases List.mem_cons.mp ((place_perm _ x placed).mem_iff.mp hy) with rfl | hy
  · exact hx
  · exact hplaced y hy

theorem pairwise_place [Std.OrientedCmp cmp] (h : ConsistentOn cmp P) {x : α} (hx : P x)
    {placed : List α} (hplaced : ∀ y ∈ placed, P y)
    (hdescending : placed.Pairwise fun a b => (cmp b a).isLE = true) :
    (place (fun a b => cmp a b == .lt) x placed).Pairwise fun a b => (cmp b a).isLE = true := by
  induction placed with
  | nil => exact List.pairwise_singleton _ _
  | cons y rest ih =>
    obtain ⟨hy, hrest⟩ := List.forall_mem_cons.mp hplaced
    obtain ⟨hfirst, hothers⟩ := List.pairwise_cons.mp hdescending
    simp only [place, beq_iff_eq]
    split
    next hlt =>
      refine List.pairwise_cons.mpr ⟨?_, ih hrest hothers⟩
      intro z hz
      rcases List.mem_cons.mp ((place_perm _ x rest).mem_iff.mp hz) with rfl | hz
      · rw [hlt]
        rfl
      · exact hfirst z hz
    next hnot =>
      have hyx : (cmp y x).isLE = true := isLE_of_not_lt hnot
      refine List.pairwise_cons.mpr ⟨?_, hdescending⟩
      intro z hz
      rcases List.mem_cons.mp hz with rfl | hz
      · exact hyx
      · exact (h z y x (hrest z hz) hy hx).isLE (hfirst z hz) hyx

/-- What is placed goes past nothing that it is tied with. -/
theorem filter_place (h : ConsistentOn cmp P) {a x : α} (ha : P a) (hx : P x) {placed : List α}
    (hplaced : ∀ y ∈ placed, P y) :
    (place (fun a b => cmp a b == .lt) x placed).filter (tied cmp a) =
      (x :: placed).filter (tied cmp a) := by
  induction placed with
  | nil => rfl
  | cons y rest ih =>
    obtain ⟨hy, hrest⟩ := List.forall_mem_cons.mp hplaced
    simp only [place, beq_iff_eq]
    split
    next hlt =>
      rw [List.filter_cons, ih hrest]
      by_cases hax : tied cmp a x = true
      · have hay : tied cmp a y = false := not_tied_of_lt h ha hx hy hlt hax
        simp [hax, hay]
      · simp [List.filter_cons, hax]
    next => rfl

variable {xs : List α}

theorem foldl_place_perm (cmp : α → α → Ordering) (xs placed : List α) :
    (xs.foldl (fun placed x => place (fun a b => cmp a b == .lt) x placed) placed).Perm
      (xs ++ placed) := by
  induction xs generalizing placed with
  | nil => exact List.Perm.refl _
  | cons x rest ih =>
    have hplace : (rest ++ place (fun a b => cmp a b == .lt) x placed).Perm (rest ++ x :: placed) :=
      (place_perm _ x placed).append_left rest
    exact ((ih _).trans hplace).trans List.perm_middle

theorem pairwise_foldl_place [Std.OrientedCmp cmp] (h : ConsistentOn cmp P)
    (hxs : ∀ x ∈ xs, P x) {placed : List α} (hplaced : ∀ y ∈ placed, P y)
    (hdescending : placed.Pairwise fun a b => (cmp b a).isLE = true) :
    (xs.foldl (fun placed x => place (fun a b => cmp a b == .lt) x placed) placed).Pairwise
      fun a b => (cmp b a).isLE = true := by
  induction xs generalizing placed with
  | nil => exact hdescending
  | cons x rest ih =>
    obtain ⟨hx, hrest⟩ := List.forall_mem_cons.mp hxs
    exact ih hrest (forall_mem_place hx hplaced) (pairwise_place h hx hplaced hdescending)

theorem filter_foldl_place (h : ConsistentOn cmp P) {a : α} (ha : P a) (hxs : ∀ x ∈ xs, P x)
    {placed : List α} (hplaced : ∀ y ∈ placed, P y) :
    (xs.foldl (fun placed x => place (fun a b => cmp a b == .lt) x placed) placed).filter
      (tied cmp a) = (xs.reverse ++ placed).filter (tied cmp a) := by
  induction xs generalizing placed with
  | nil => rfl
  | cons x rest ih =>
    obtain ⟨hx, hrest⟩ := List.forall_mem_cons.mp hxs
    rw [List.foldl_cons, ih hrest (forall_mem_place hx hplaced), List.filter_append,
      filter_place h ha hx hplaced, ← List.filter_append, List.reverse_cons, List.append_assoc,
      List.singleton_append]

end Place

theorem stablySorted_stable [Std.OrientedCmp cmp] (h : ConsistentOn cmp P) {xs : List α}
    (hxs : ∀ x ∈ xs, P x) : StablySorted cmp xs (stable (fun a b => cmp a b == .lt) xs) where
  perm := by
    have hperm := foldl_place_perm cmp xs []
    rw [List.append_nil] at hperm
    exact (List.reverse_perm _).trans hperm
  ordered := List.pairwise_reverse.mpr
    (pairwise_foldl_place h hxs (List.forall_mem_nil P) List.Pairwise.nil)
  kept a ha := by
    rw [stable, List.filter_reverse, filter_foldl_place h (hxs a ha) hxs (List.forall_mem_nil P),
      List.append_nil, List.filter_reverse, List.reverse_reverse]

/-- Nothing but the order and the ties decides how a list is sorted. -/
theorem StablySorted.unique [Std.OrientedCmp cmp] {xs ys zs : List α}
    (hys : StablySorted cmp xs ys) (hzs : StablySorted cmp xs zs) : ys = zs := by
  have hsame : ys.Perm zs := hys.perm.trans hzs.perm.symm
  have hkept : ∀ a ∈ ys, ys.filter (tied cmp a) = zs.filter (tied cmp a) := fun a ha =>
    (hys.kept a (hys.perm.subset ha)).trans (hzs.kept a (hys.perm.subset ha)).symm
  have hordered := hys.ordered
  have hordered' := hzs.ordered
  clear hys hzs
  induction ys generalizing zs with
  | nil => exact hsame.nil_eq
  | cons y ys ih =>
    cases zs with
    | nil => exact hsame.eq_nil
    | cons z zs =>
      obtain ⟨hy, hys⟩ := List.pairwise_cons.mp hordered
      obtain ⟨hz, hzs⟩ := List.pairwise_cons.mp hordered'
      have hyz : (cmp y z).isLE = true := by
        rcases List.mem_cons.mp (hsame.symm.subset List.mem_cons_self) with rfl | hmem
        · exact Std.ReflCmp.isLE_rfl
        · exact hy z hmem
      have hzy : (cmp z y).isLE = true := by
        rcases List.mem_cons.mp (hsame.subset List.mem_cons_self) with rfl | hmem
        · exact Std.ReflCmp.isLE_rfl
        · exact hz y hmem
      have hfirst := hkept y List.mem_cons_self
      rw [List.filter_cons_of_pos (tied_self y),
        List.filter_cons_of_pos (tied_iff.mpr (Std.OrientedCmp.isLE_antisymm hyz hzy))] at hfirst
      obtain rfl : y = z := (List.cons.inj hfirst).1
      have hrest : ys = zs := by
        apply ih (List.Perm.cons_inv hsame) ?_ hys hzs
        intro a ha
        have hmore := hkept a (List.mem_cons_of_mem y ha)
        by_cases hay : tied cmp a y = true
        · rw [List.filter_cons_of_pos hay, List.filter_cons_of_pos hay] at hmore
          exact (List.cons.inj hmore).2
        · rwa [List.filter_cons_of_neg hay, List.filter_cons_of_neg hay] at hmore
      rw [hrest]

section Twice

/-- What holds of any two that are tied, where these are taken out of a list. -/
theorem pairwise_of_pairwise_filter [Std.OrientedCmp cmp] {R : α → α → Prop}
    {xs : List α} (h : ∀ a ∈ xs, (xs.filter (tied cmp a)).Pairwise R) :
    xs.Pairwise fun a b => tied cmp a b = true → R a b := by
  induction xs with
  | nil => exact List.Pairwise.nil
  | cons x rest ih =>
    refine List.pairwise_cons.mpr ⟨?_, ih ?_⟩
    · intro b hb hxb
      have hfirst := h x List.mem_cons_self
      rw [List.filter_cons_of_pos (tied_self x)] at hfirst
      exact (List.pairwise_cons.mp hfirst).1 b (List.mem_filter.mpr ⟨hb, hxb⟩)
    · intro a ha
      have hmore := h a (List.mem_cons_of_mem x ha)
      exact hmore.sublist ((List.sublist_cons_self x rest).filter _)

theorem tied_then {first second : α → α → Ordering} (a : α) :
    tied (fun a b => (first a b).then (second a b)) a =
      fun b => tied first a b && tied second a b := by
  funext b
  rw [Bool.eq_iff_iff, Bool.and_eq_true]
  simp only [tied_iff, Ordering.then_eq_eq]

/-- The later sort decides first, and the earlier one where the later one does not. -/
theorem StablySorted.twice {first second : α → α → Ordering} {xs ys zs : List α}
    [Std.OrientedCmp first] (hys : StablySorted second xs ys)
    (hzs : StablySorted first ys zs) :
    StablySorted (fun a b => (first a b).then (second a b)) xs zs where
  perm := hzs.perm.trans hys.perm
  ordered := by
    have hties : zs.Pairwise fun a b => tied first a b = true → (second a b).isLE = true := by
      apply pairwise_of_pairwise_filter
      intro a ha
      rw [hzs.kept a (hzs.perm.subset ha)]
      exact hys.ordered.sublist List.filter_sublist
    refine (hzs.ordered.and hties).imp ?_
    intro a b hab
    cases hfirst : first a b with
    | lt => rfl
    | gt => rw [hfirst] at hab; cases hab.1
    | eq => exact hab.2 (tied_iff.mpr hfirst)
  kept a ha := by
    have hmem : a ∈ ys := hys.perm.symm.subset ha
    rw [tied_then]
    calc
      zs.filter (fun b => tied first a b && tied second a b)
        = (zs.filter (tied first a)).filter (tied second a) := by
          rw [List.filter_filter]
          exact List.filter_congr fun b _ => Bool.and_comm _ _
      _ = (ys.filter (tied second a)).filter (tied first a) := by
          rw [hzs.kept a hmem, List.filter_filter, List.filter_filter]
          exact List.filter_congr fun b _ => Bool.and_comm _ _
      _ = xs.filter (fun b => tied first a b && tied second a b) := by
          rw [hys.kept a ha, List.filter_filter]

end Twice

end QuerySets.Sorting
