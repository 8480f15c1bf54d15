import QuerySets.Proofs.Decimal.Dyadic
import QuerySets.Value.Order

/-!
When the order of values is one. Either way round, two values compare in opposite ways.
But whole numbers and floats compare as floats, and a whole number beyond the floats'
accuracy is rounded then, so that a float may be equal to whole numbers that differ. Where
no whole number is rounded, or where there are no floats, values are ordered up to equality.
-/

namespace QuerySets

/-- The results of comparing three things to each other, first to second, second to third
and first to third, as an order gives them. -/
structure Consistent (ab bc ac : Ordering) : Prop where
  left : ab = .eq → ac = bc
  right : bc = .eq → ac = ab
  lt : ab = .lt → bc = .lt → ac = .lt
  gt : ab = .gt → bc = .gt → ac = .gt

namespace Consistent

theorem of_compare {α : Type} [Ord α] [Std.TransOrd α] (a b c : α) :
    Consistent (compare a b) (compare b c) (compare a c) where
  left h := Std.TransCmp.congr_left h
  right h := (Std.TransCmp.congr_right h).symm
  lt h h' := Std.TransCmp.lt_trans h h'
  gt h h' := Std.TransCmp.gt_trans h h'

/-- What decides first, and what decides where that does not. -/
theorem andThen {ab bc ac ab' bc' ac' : Ordering} (h : Consistent ab bc ac)
    (h' : Consistent ab' bc' ac') :
    Consistent (ab.then ab') (bc.then bc') (ac.then ac') := by
  refine ⟨?_, ?_, ?_, ?_⟩
  · intro heq
    obtain ⟨hab, hab'⟩ := Ordering.then_eq_eq.mp heq
    rw [h.left hab, h'.left hab']
  · intro heq
    obtain ⟨hbc, hbc'⟩ := Ordering.then_eq_eq.mp heq
    rw [h.right hbc, h'.right hbc']
  · intro hab hbc
    rcases Ordering.then_eq_lt.mp hab with hab | ⟨hab, hab'⟩
    · rcases Ordering.then_eq_lt.mp hbc with hbc | ⟨hbc, _⟩
      · rw [h.lt hab hbc]
        rfl
      · rw [h.right hbc, hab]
        rfl
    · rw [h.left hab]
      rcases Ordering.then_eq_lt.mp hbc with hbc | ⟨hbc, hbc'⟩
      · rw [hbc]
        rfl
      · rw [hbc, h'.lt hab' hbc']
        rfl
  · intro hab hbc
    rcases Ordering.then_eq_gt.mp hab with hab | ⟨hab, hab'⟩
    · rcases Ordering.then_eq_gt.mp hbc with hbc | ⟨hbc, _⟩
      · rw [h.gt hab hbc]
        rfl
      · rw [h.right hbc, hab]
        rfl
    · rw [h.left hab]
      rcases Ordering.then_eq_gt.mp hbc with hbc | ⟨hbc, hbc'⟩
      · rw [hbc]
        rfl
      · rw [hbc, h'.gt hab' hbc']
        rfl

/-- Going from one thing to another and back says nothing about two of its kind. -/
theorem back {ab : Ordering} (h : ab ≠ .eq) (ac : Ordering) : Consistent ab ab.swap ac := by
  cases ab with
  | eq => exact absurd rfl h
  | lt | gt => exact ⟨nofun, nofun, nofun, nofun⟩

theorem isLE {ab bc ac : Ordering} (h : Consistent ab bc ac) (hab : ab.isLE = true)
    (hbc : bc.isLE = true) : ac.isLE = true := by
  cases ab with
  | gt => cases hab
  | eq => rw [h.left rfl]; exact hbc
  | lt =>
    cases bc with
    | gt => cases hbc
    | eq => rw [h.right rfl]; rfl
    | lt => rw [h.lt rfl rfl]; rfl

end Consistent

namespace Value

section Swap

/-- Of two floats at most one is less than the other. -/
theorem not_lt_of_lt {x y : Float} (h : x < y) : ¬ y < x := by
  rw [Decimal.lt_iff_compare] at h ⊢
  rw [Decimal.compare_swap, h]
  exact nofun

theorem floatOrder_swap (x y : Float) : floatOrder y x = (floatOrder x y).swap := by
  unfold floatOrder
  split
  next hyx => rw [if_neg (not_lt_of_lt hyx)]; rfl
  next => split <;> rfl

theorem intOrder_swap (m n : Int64) : intOrder n m = (intOrder m n).swap :=
  (Int.compare_swap m.toInt n.toInt).symm

theorem compare_swap {α : Type} [Ord α] [Std.OrientedOrd α] (a b : α) :
    compare b a = (compare a b).swap :=
  Std.OrientedCmp.eq_swap

theorem dateOrder_swap (s t : Time.Instant) : t.order s = (s.order t).swap := by
  rw [Time.Instant.order, Time.Instant.order, Ordering.swap_then, compare_swap s.seconds,
    compare_swap s.nanos]

theorem regexOrder_swap (p o q u : String) :
    (compare q p).then (compare u o) = ((compare p q).then (compare o u)).swap := by
  rw [Ordering.swap_then, compare_swap p q, compare_swap o u]

mutual
/-- Two values compare in opposite ways either way round, NaN included. -/
theorem order_swap : ∀ v w : Value, order w v = (order v w).swap
  | .null, w => by cases w <;> rfl
  | .bool a, w => by
    cases w with
    | bool b => exact compare_swap a b
    | _ => rfl
  | .int m, w => by
    cases w with
    | int n => exact intOrder_swap m n
    | float y => exact floatOrder_swap _ _
    | _ => rfl
  | .float x, w => by
    cases w with
    | int n => exact floatOrder_swap _ _
    | float y => exact floatOrder_swap x y
    | _ => rfl
  | .string s, w => by
    cases w with
    | string t => exact compare_swap s t
    | _ => rfl
  | .date s, w => by
    cases w with
    | date t => exact dateOrder_swap s t
    | _ => rfl
  | .objectId a, w => by
    cases w with
    | objectId b => exact compare_swap a.bytes.toList b.bytes.toList
    | _ => rfl
  | .regex p o, w => by
    cases w with
    | regex q u => exact regexOrder_swap p o q u
    | _ => rfl
  | .array xs, w => by
    cases w with
    | array ys => exact itemsOrder_swap xs ys
    | _ => rfl
  | .document ⟨xs⟩, w => by
    cases w with
    | document d => exact entriesOrder_swap xs d.entries
    | _ => rfl

theorem itemsOrder_swap : ∀ xs ys : List Value, itemsOrder ys xs = (itemsOrder xs ys).swap
  | [], [] => rfl
  | [], _ :: _ => rfl
  | _ :: _, [] => rfl
  | x :: xs, y :: ys => by
    simp only [itemsOrder, Ordering.swap_then, order_swap x y, itemsOrder_swap xs ys]

theorem entriesOrder_swap : ∀ xs ys : List (String × Value),
    entriesOrder ys xs = (entriesOrder xs ys).swap
  | [], [] => rfl
  | [], _ :: _ => rfl
  | _ :: _, [] => rfl
  | (k, x) :: xs, (l, y) :: ys => by
    simp only [entriesOrder, Ordering.swap_then, compare_swap k l, order_swap x y,
      entriesOrder_swap xs ys]
end

end Swap

section Numbers

mutual
/-- The numbers in a value, at any depth. -/
def numbers : Value → List Value
  | int n => [int n]
  | float x => [float x]
  | array items => itemsNumbers items
  | document ⟨entries⟩ => entriesNumbers entries
  | _ => []

def itemsNumbers : List Value → List Value
  | [] => []
  | v :: rest => v.numbers ++ itemsNumbers rest

def entriesNumbers : List (String × Value) → List Value
  | [] => []
  | (_, v) :: rest => v.numbers ++ entriesNumbers rest
end

/-- The exact value of a number as a multiple of the least positive float. -/
def size : Value → Int
  | int n => n.toInt * Decimal.Dyadic.stepsOfOne
  | float x => ((Decimal.Dyadic.ofFloat? x).map (·.value)).getD 0
  | _ => 0

/-- A float that is finite, or a whole number that is the value of a float. -/
def Exact : Value → Prop
  | int n => (Decimal.Dyadic.ofFloat? (Float.ofInt n.toInt)).bind (·.toInt?) = some n.toInt
  | float x => (Decimal.Dyadic.ofFloat? x).isSome
  | _ => True

instance : ∀ v : Value, Decidable v.Exact
  | int _ => inferInstanceAs (Decidable (_ = _))
  | float _ => inferInstanceAs (Decidable (_ = true))
  | null | bool _ | string _ | date _ | objectId _ | regex _ _ | array _ | document _ =>
    inferInstanceAs (Decidable True)

theorem stepsOfOne_pos : (0 : Int) < Decimal.Dyadic.stepsOfOne :=
  Int.ofNat_lt.mpr (Nat.two_pow_pos _)

theorem intOrder_eq (m n : Int64) : intOrder m n = compare (int m).size (int n).size := by
  have hless : ∀ a b : Int, a * Decimal.Dyadic.stepsOfOne < b * Decimal.Dyadic.stepsOfOne ↔ a < b :=
    fun a b => Int.mul_lt_mul_right stepsOfOne_pos
  rw [intOrder, size, size, Int.compare_eq_ite_lt, Int.compare_eq_ite_lt]
  simp only [hless]

theorem floatOrder_eq {x y : Float} {d d' : Decimal.Dyadic}
    (hx : Decimal.Dyadic.ofFloat? x = some d) (hy : Decimal.Dyadic.ofFloat? y = some d') :
    floatOrder x y = compare d.value d'.value := by
  rw [floatOrder, Int.compare_eq_ite_lt]
  simp only [Decimal.Dyadic.lt_iff hx hy, Decimal.Dyadic.lt_iff hy hx]

/-- A number that is exact counts as a float of its size. -/
theorem exists_dyadic {v : Value} (hnumber : v.isNumber = true) (h : v.Exact) :
    ∃ x d, v.float? = some x ∧ Decimal.Dyadic.ofFloat? x = some d ∧ d.value = v.size := by
  cases v with
  | int n =>
    obtain ⟨d, hd, hn⟩ := Option.bind_eq_some_iff.mp h
    have hleast := (Decimal.Dyadic.canonical_of_ofFloat? hd).least
    exact ⟨_, d, rfl, hd, Decimal.Dyadic.value_of_toInt? hleast hn⟩
  | float x =>
    obtain ⟨d, hd⟩ := Option.isSome_iff_exists.mp h
    exact ⟨x, d, rfl, hd, by rw [size, hd]; rfl⟩
  | _ => cases hnumber

/-- Numbers that are exact compare by their sizes. -/
theorem order_eq_of_exact {v w : Value} (hv : v.isNumber = true) (hw : w.isNumber = true)
    (hexact : v.Exact) (hexact' : w.Exact) : order v w = compare v.size w.size := by
  obtain ⟨x, d, hx, hd, hsize⟩ := exists_dyadic hv hexact
  obtain ⟨y, d', hy, hd', hsize'⟩ := exists_dyadic hw hexact'
  have hfloat := floatOrder_eq hd hd'
  rw [hsize, hsize'] at hfloat
  cases v with
  | int m =>
    cases hx
    cases w with
    | int n => exact intOrder_eq m n
    | float y => cases hy; exact hfloat
    | _ => cases hw
  | float x =>
    cases hx
    cases w with
    | int n => cases hy; exact hfloat
    | float y => cases hy; exact hfloat
    | _ => cases hw
  | _ => cases hv

/-- Numbers that can be compared by their sizes: none is rounded, or there are no floats
that they would be rounded for. -/
def Comparable (numbers : List Value) : Prop :=
  (∀ n ∈ numbers, n.Exact) ∨ ∀ n ∈ numbers, ∃ m, n = int m

theorem order_eq_of_comparable {numbers : List Value} (h : Comparable numbers) {v w : Value}
    (hv : v.isNumber = true) (hw : w.isNumber = true) (hmem : v ∈ numbers) (hmem' : w ∈ numbers) :
    order v w = compare v.size w.size := by
  rcases h with hexact | hwhole
  · exact order_eq_of_exact hv hw (hexact v hmem) (hexact w hmem')
  · obtain ⟨m, rfl⟩ := hwhole v hmem
    obtain ⟨n, rfl⟩ := hwhole w hmem'
    exact intOrder_eq m n

end Numbers

section Triples

variable {ns : List Value}

theorem order_of_rank_ne {v w : Value} (h : v.rank ≠ w.rank) :
    order v w = compare v.rank w.rank := by
  cases v <;> cases w <;> first | rfl | exact absurd rfl h

theorem compare_rank_ne_eq {v w : Value} (h : w.rank ≠ v.rank) : compare v.rank w.rank ≠ .eq :=
  fun heq => h (Nat.compare_eq_eq.mp heq).symm

/-- Values that are not all of one kind have the order of their kinds. -/
theorem consistent_of_ranks {a b c : Value}
    (h : b.rank = a.rank → c.rank = a.rank → Consistent (order a b) (order b c) (order a c)) :
    Consistent (order a b) (order b c) (order a c) := by
  by_cases hb : b.rank = a.rank
  · by_cases hc : c.rank = a.rank
    · exact h hb hc
    · have hne := compare_rank_ne_eq hc
      rw [order_of_rank_ne (v := a) (Ne.symm hc), order_of_rank_ne (v := b) (by omega), hb]
      exact ⟨fun _ => rfl, fun heq => absurd heq hne, fun _ hlt => hlt, fun _ hgt => hgt⟩
  · have hne := compare_rank_ne_eq hb
    have hab := order_of_rank_ne (Ne.symm hb)
    by_cases hbc : c.rank = b.rank
    · rw [hab, order_of_rank_ne (v := a) (w := c) (by omega), hbc]
      exact ⟨fun heq => absurd heq hne, fun _ => rfl, fun hlt _ => hlt, fun hgt _ => hgt⟩
    · have hbc' := order_of_rank_ne (Ne.symm hbc)
      by_cases hc : c.rank = a.rank
      · rw [hab, hbc', hc, ← Nat.compare_swap a.rank b.rank]
        exact .back hne _
      · rw [hab, hbc', order_of_rank_ne (Ne.symm hc)]
        exact .of_compare _ _ _

theorem isNumber_of_rank {v : Value} (h : v.rank = 2) : v.isNumber = true ∧ v.numbers = [v] := by
  cases v <;> first | exact ⟨rfl, rfl⟩ | cases h

theorem consistent_number (h : Comparable ns) {a b c : Value} (ha : a.rank = 2) (hb : b.rank = 2)
    (hc : c.rank = 2) (hna : a.numbers ⊆ ns) (hnb : b.numbers ⊆ ns) (hnc : c.numbers ⊆ ns) :
    Consistent (order a b) (order b c) (order a c) := by
  obtain ⟨ha, ha'⟩ := isNumber_of_rank ha
  obtain ⟨hb, hb'⟩ := isNumber_of_rank hb
  obtain ⟨hc, hc'⟩ := isNumber_of_rank hc
  rw [ha'] at hna
  rw [hb'] at hnb
  rw [hc'] at hnc
  have ha'' : a ∈ ns := hna List.mem_cons_self
  have hb'' : b ∈ ns := hnb List.mem_cons_self
  have hc'' : c ∈ ns := hnc List.mem_cons_self
  rw [order_eq_of_comparable h ha hb ha'' hb'', order_eq_of_comparable h hb hc hb'' hc'',
    order_eq_of_comparable h ha hc ha'' hc'']
  exact .of_compare _ _ _

-- By the recursion of the order itself: on the value, the items and the entries.
mutual
/-- Values are ordered as long as the numbers in them are. -/
theorem consistent_order (h : Comparable ns) : ∀ a b c : Value, a.numbers ⊆ ns → b.numbers ⊆ ns →
    c.numbers ⊆ ns → Consistent (order a b) (order b c) (order a c)
  | .null, b, c, _, _, _ => consistent_of_ranks fun hb hc => by
    cases b <;> cases hb
    cases c <;> cases hc
    exact .of_compare 0 0 0
  | .int _, _, _, hna, hnb, hnc => consistent_of_ranks fun hb hc =>
    consistent_number h rfl hb hc hna hnb hnc
  | .float _, _, _, hna, hnb, hnc => consistent_of_ranks fun hb hc =>
    consistent_number h rfl hb hc hna hnb hnc
  | .bool _, b, c, _, _, _ => consistent_of_ranks fun hb hc => by
    cases b <;> cases hb
    cases c <;> cases hc
    exact .of_compare _ _ _
  | .string _, b, c, _, _, _ => consistent_of_ranks fun hb hc => by
    cases b <;> cases hb
    cases c <;> cases hc
    exact .of_compare _ _ _
  | .date _, b, c, _, _, _ => consistent_of_ranks fun hb hc => by
    cases b <;> cases hb
    cases c <;> cases hc
    exact .andThen (.of_compare _ _ _) (.of_compare _ _ _)
  | .objectId _, b, c, _, _, _ => consistent_of_ranks fun hb hc => by
    cases b <;> cases hb
    cases c <;> cases hc
    exact .of_compare _ _ _
  | .regex _ _, b, c, _, _, _ => consistent_of_ranks fun hb hc => by
    cases b <;> cases hb
    cases c <;> cases hc
    exact .andThen (.of_compare _ _ _) (.of_compare _ _ _)
  | .array xs, b, c, hna, hnb, hnc => consistent_of_ranks fun hb hc => by
    cases b <;> cases hb
    cases c <;> cases hc
    exact consistent_itemsOrder h xs _ _ hna hnb hnc
  | .document ⟨xs⟩, b, c, hna, hnb, hnc => consistent_of_ranks fun hb hc => by
    cases b <;> cases hb
    cases c <;> cases hc
    exact consistent_entriesOrder h xs _ _ hna hnb hnc

theorem consistent_itemsOrder (h : Comparable ns) : ∀ xs ys zs : List Value,
    itemsNumbers xs ⊆ ns → itemsNumbers ys ⊆ ns → itemsNumbers zs ⊆ ns →
      Consistent (itemsOrder xs ys) (itemsOrder ys zs) (itemsOrder xs zs)
  | [], [], [], _, _, _ => .of_compare 0 0 0
  | [], [], _ :: _, _, _, _ => .of_compare 0 0 1
  | [], _ :: _, [], _, _, _ => .of_compare 0 1 0
  | [], _ :: _, _ :: _, _, _, _ => ⟨nofun, fun _ => rfl, fun _ _ => rfl, nofun⟩
  | _ :: _, [], [], _, _, _ => .of_compare 1 0 0
  | _ :: _, [], _ :: _, _, _, _ => .back (show Ordering.gt ≠ .eq from nofun) _
  | _ :: _, _ :: _, [], _, _, _ => ⟨fun _ => rfl, nofun, nofun, fun _ _ => rfl⟩
  | x :: xs, y :: ys, z :: zs, hnx, hny, hnz => by
    obtain ⟨hx, hxs⟩ := List.append_subset.mp hnx
    obtain ⟨hy, hys⟩ := List.append_subset.mp hny
    obtain ⟨hz, hzs⟩ := List.append_subset.mp hnz
    exact (consistent_order h x y z hx hy hz).andThen
      (consistent_itemsOrder h xs ys zs hxs hys hzs)

theorem consistent_entriesOrder (h : Comparable ns) : ∀ xs ys zs : List (String × Value),
    entriesNumbers xs ⊆ ns → entriesNumbers ys ⊆ ns → entriesNumbers zs ⊆ ns →
      Consistent (entriesOrder xs ys) (entriesOrder ys zs) (entriesOrder xs zs)
  | [], [], [], _, _, _ => .of_compare 0 0 0
  | [], [], _ :: _, _, _, _ => .of_compare 0 0 1
  | [], _ :: _, [], _, _, _ => .of_compare 0 1 0
  | [], _ :: _, _ :: _, _, _, _ => ⟨nofun, fun _ => rfl, fun _ _ => rfl, nofun⟩
  | _ :: _, [], [], _, _, _ => .of_compare 1 0 0
  | _ :: _, [], _ :: _, _, _, _ => .back (show Ordering.gt ≠ .eq from nofun) _
  | _ :: _, _ :: _, [], _, _, _ => ⟨fun _ => rfl, nofun, nofun, fun _ _ => rfl⟩
  | (k, x) :: xs, (l, y) :: ys, (m, z) :: zs, hnx, hny, hnz => by
    obtain ⟨hx, hxs⟩ := List.append_subset.mp hnx
    obtain ⟨hy, hys⟩ := List.append_subset.mp hny
    obtain ⟨hz, hzs⟩ := List.append_subset.mp hnz
    have hkey : Consistent (compare k l) (compare l m) (compare k m) := .of_compare k l m
    exact (hkey.andThen (consistent_order h x y z hx hy hz)).andThen
      (consistent_entriesOrder h xs ys zs hxs hys hzs)
end

/-- The order of values turns around with them, and it is one as long as whole numbers are
not compared as floats that they are not. -/
theorem order_preorder (a b c : Value) :
    order b a = (order a b).swap ∧ (Comparable (a.numbers ++ b.numbers ++ c.numbers) →
      ((order a b).isLE → (order b c).isLE → (order a c).isLE) ∧
      (order a b = .eq → order a c = order b c)) := by
  refine ⟨order_swap a b, fun h => ?_⟩
  have ha : a.numbers ⊆ a.numbers ++ b.numbers ++ c.numbers :=
    List.subset_append_of_subset_left _ (List.subset_append_left _ _)
  have hb : b.numbers ⊆ a.numbers ++ b.numbers ++ c.numbers :=
    List.subset_append_of_subset_left _ (List.subset_append_right _ _)
  have hc : c.numbers ⊆ a.numbers ++ b.numbers ++ c.numbers := List.subset_append_right _ _
  have hconsistent := consistent_order h a b c ha hb hc
  exact ⟨hconsistent.isLE, hconsistent.left⟩

def sampleReading (depth : Value) : Value :=
  .document ⟨[("_id", .int 7), ("depths", .array [depth, .float 0.5])]⟩

theorem order_preorder_sample :
    let a := sampleReading (.int 9007199254740992)
    let b := sampleReading (.float 9007199254740992)
    let c := sampleReading (.float 9007199254740994)
    Comparable (a.numbers ++ b.numbers ++ c.numbers) ∧
      order a b = .eq ∧ order b c = .lt ∧ order a c = .lt := by
  intro a b c
  have hexact : Comparable (a.numbers ++ b.numbers ++ c.numbers) := Or.inl (by decide +kernel)
  have hequal : order a b = .eq := by decide +kernel
  have hless : order b c = .lt := by decide +kernel
  have hlaws := (order_preorder a b c).2 hexact
  exact ⟨hexact, hequal, hless, (hlaws.2 hequal).trans hless⟩

/-- A float can be equal to two whole numbers, one of them by rounding. -/
theorem order_rounded :
    order (.int 9007199254740993) (.float 9007199254740992) = .eq ∧
      order (.float 9007199254740992) (.int 9007199254740992) = .eq ∧
      order (.int 9007199254740993) (.int 9007199254740992) = .gt := by
  decide +kernel

end Triples

end Value

end QuerySets
