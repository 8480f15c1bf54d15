/-!
Stable sorting by a test that tells which of two elements comes first.
-/

namespace QuerySets.Sorting

variable {α : Type}

/-- Puts `x` into a list that is kept from last to first, after all elements that
it does not have to come before. -/
def place (before : α → α → Bool) (x : α) : List α → List α
  | [] => [x]
  | y :: rest => if before x y then y :: place before x rest else x :: y :: rest

/-- Places the elements one after the other, so that equal ones keep their order. -/
def stable (before : α → α → Bool) (xs : List α) : List α :=
  (xs.foldl (fun placed x => place before x placed) []).reverse

theorem place_perm (before : α → α → Bool) (x : α) (xs : List α) :
    (place before x xs).Perm (x :: xs) := by
  induction xs with
  | nil => exact List.Perm.refl _
  | cons y rest ih =>
    simp only [place]
    split
    · exact (ih.cons y).trans (List.Perm.swap x y rest)
    · exact List.Perm.refl _

end QuerySets.Sorting
