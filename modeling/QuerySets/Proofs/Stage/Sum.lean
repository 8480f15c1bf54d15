import Mathlib.Algebra.Order.BigOperators.Group.List
import Mathlib.Algebra.Ring.Int.Defs
import QuerySets.Stage.Group

/-!
Sums of whole numbers. The running total is cut to 64 bits at every step, so it gives the sum,
cut once, as long as no partial sum lies beyond both the range and the whole sum. In any order
of the documents this is so exactly if the positive numbers and the negative ones each add up
to something that fits, or if all numbers go one way.
-/

namespace QuerySets

namespace Saturating

/-- The number of 64 bits that is nearest to a whole number. -/
def nearest (n : Int) : Int := max (-2 ^ 63) (min n (2 ^ 63 - 1))

def Fits (n : Int) : Prop := -2 ^ 63 ≤ n ∧ n < 2 ^ 63

instance (n : Int) : Decidable (Fits n) := inferInstanceAs (Decidable (_ ∧ _))

/-- A total to which numbers are added one after the other, and which is cut at each step. -/
def running (start : Int) (ns : List Int) : Int := ns.foldl (fun t n => nearest (t + n)) start

/-- The sum of the positive numbers. -/
def gains (ns : List Int) : Int := (ns.map (max 0 ·)).sum

/-- The sum of the negative numbers. -/
def losses (ns : List Int) : Int := (ns.map (min 0 ·)).sum

section Running

variable {start : Int} {ns : List Int}

theorem fits_nearest (n : Int) : Fits (nearest n) := by
  unfold Fits nearest
  omega

theorem nearest_of_fits {n : Int} (h : Fits n) : nearest n = n := by
  unfold Fits at h
  unfold nearest
  omega

theorem running_cons (start n : Int) (rest : List Int) :
    running start (n :: rest) = running (nearest (start + n)) rest := rfl

theorem running_append (start : Int) (ns more : List Int) :
    running start (ns ++ more) = running (running start ns) more := List.foldl_append

theorem fits_running (h : Fits start) : Fits (running start ns) := by
  induction ns generalizing start with
  | nil => exact h
  | cons n rest ih => exact ih (fits_nearest _)

/-- A property of all beginnings of a list holds of those that start with its head. -/
theorem forall_prefix_cons {P : List Int → Prop} {n : Int} {rest : List Int}
    (h : ∀ front, front <+: n :: rest → P front) :
    ∀ front, front <+: rest → P (n :: front) :=
  fun _ hfront => h _ (List.cons_prefix_cons.mpr ⟨rfl, hfront⟩)

theorem running_of_fits (h : ∀ front, front <+: ns → Fits (start + front.sum)) :
    running start ns = start + ns.sum := by
  induction ns generalizing start with
  | nil => exact (Int.add_zero start).symm
  | cons n rest ih =>
    have hrest := forall_prefix_cons h
    have hfirst : Fits (start + n) := by
      simpa using hrest [] List.nil_prefix
    rw [running_cons, nearest_of_fits hfirst, List.sum_cons, ← Int.add_assoc]
    apply ih
    intro front hfront
    rw [Int.add_assoc, ← List.sum_cons]
    exact hrest front hfront

/-- Where every partial sum is at most the whole one, cutting takes nothing off that would be
missing in the end. -/
theorem le_running (h : ∀ front, front <+: ns → front.sum ≤ ns.sum) :
    min (start + ns.sum) (2 ^ 63 - 1) ≤ running start ns := by
  induction ns generalizing start with
  | nil => exact Int.min_le_left _ _ |>.trans (Int.add_zero start).le
  | cons n rest ih =>
    have hrest : ∀ front, front <+: rest → front.sum ≤ rest.sum := by
      intro front hfront
      have hsum := forall_prefix_cons h front hfront
      rw [List.sum_cons, List.sum_cons] at hsum
      omega
    have hpos : 0 ≤ rest.sum := hrest [] List.nil_prefix
    have hnext : min (nearest (start + n) + rest.sum) (2 ^ 63 - 1) ≤
        running (nearest (start + n)) rest := ih hrest
    rw [running_cons, List.sum_cons]
    unfold nearest at hnext ⊢
    omega

theorem running_le (h : ∀ front, front <+: ns → ns.sum ≤ front.sum) :
    running start ns ≤ max (start + ns.sum) (-2 ^ 63) := by
  induction ns generalizing start with
  | nil => exact (Int.add_zero start).ge.trans (Int.le_max_left _ _)
  | cons n rest ih =>
    have hrest : ∀ front, front <+: rest → rest.sum ≤ front.sum := by
      intro front hfront
      have hsum := forall_prefix_cons h front hfront
      rw [List.sum_cons, List.sum_cons] at hsum
      omega
    have hneg : rest.sum ≤ 0 := hrest [] List.nil_prefix
    have hnext : running (nearest (start + n)) rest ≤
        max (nearest (start + n) + rest.sum) (-2 ^ 63) := ih hrest
    rw [running_cons, List.sum_cons]
    unfold nearest at hnext ⊢
    omega

/-- Every partial sum fits or lies between what fits and the whole sum. -/
def Direct (start : Int) (ns : List Int) : Prop :=
  ∀ front, front <+: ns →
    min (-2 ^ 63) (start + ns.sum) ≤ start + front.sum ∧
      start + front.sum ≤ max (2 ^ 63 - 1) (start + ns.sum)

theorem running_eq_nearest (hstart : Fits start) (h : Direct start ns) :
    running start ns = nearest (start + ns.sum) := by
  have hfits : Fits (running start ns) := fits_running hstart
  unfold Fits at hfits
  by_cases hover : 2 ^ 63 ≤ start + ns.sum
  · have hle : min (start + ns.sum) (2 ^ 63 - 1) ≤ running start ns := by
      apply le_running
      intro front hfront
      have hfront := (h front hfront).2
      omega
    unfold nearest
    omega
  by_cases hunder : start + ns.sum < -2 ^ 63
  · have hle : running start ns ≤ max (start + ns.sum) (-2 ^ 63) := by
      apply running_le
      intro front hfront
      have hfront := (h front hfront).1
      omega
    unfold nearest
    omega
  have hexact : running start ns = start + ns.sum := by
    apply running_of_fits
    intro front hfront
    have hfront := h front hfront
    unfold Fits
    omega
  rw [hexact, nearest_of_fits ⟨by omega, by omega⟩]

end Running

section Order

variable {ns : List Int}

theorem gains_append (ns more : List Int) : gains (ns ++ more) = gains ns + gains more := by
  rw [gains, List.map_append, List.sum_append]
  rfl

theorem losses_append (ns more : List Int) : losses (ns ++ more) = losses ns + losses more := by
  rw [losses, List.map_append, List.sum_append]
  rfl

theorem gains_nonneg (ns : List Int) : 0 ≤ gains ns := by
  apply List.sum_nonneg
  intro n hn
  obtain ⟨m, -, rfl⟩ := List.mem_map.mp hn
  exact Int.le_max_left 0 m

theorem losses_nonpos (ns : List Int) : losses ns ≤ 0 := by
  induction ns with
  | nil => exact Int.le_refl 0
  | cons n rest ih =>
    rw [losses, List.map_cons, List.sum_cons]
    unfold losses at ih
    omega

theorem losses_of_nonneg (h : ∀ n ∈ ns, 0 ≤ n) : losses ns = 0 := by
  apply List.sum_eq_zero
  intro n hn
  obtain ⟨m, hm, rfl⟩ := List.mem_map.mp hn
  exact Int.min_eq_left (h m hm)

theorem gains_of_nonpos (h : ∀ n ∈ ns, n ≤ 0) : gains ns = 0 := by
  apply List.sum_eq_zero
  intro n hn
  obtain ⟨m, hm, rfl⟩ := List.mem_map.mp hn
  exact Int.max_eq_left (h m hm)

theorem sum_eq (ns : List Int) : ns.sum = gains ns + losses ns := by
  induction ns with
  | nil => rfl
  | cons n rest ih =>
    rw [List.sum_cons, gains, losses, List.map_cons, List.map_cons, List.sum_cons, List.sum_cons,
      ih]
    unfold gains losses
    omega

theorem gains_perm {others : List Int} (h : others.Perm ns) : gains others = gains ns :=
  (h.map _).sum_eq

theorem losses_perm {others : List Int} (h : others.Perm ns) : losses others = losses ns :=
  (h.map _).sum_eq

/-- No partial sum is more than the positive numbers or less than the negative ones. -/
theorem sum_prefix_between {front : List Int} (h : front <+: ns) :
    losses ns ≤ front.sum ∧ front.sum ≤ gains ns := by
  obtain ⟨back, rfl⟩ := h
  have hsum := sum_eq front
  have hgains := gains_nonneg front
  have hlosses := losses_nonpos front
  have hgains' := gains_nonneg back
  have hlosses' := losses_nonpos back
  rw [gains_append, losses_append]
  omega

/-- The numbers fit by their signs, or all of them go one way. -/
def Orderless (ns : List Int) : Prop :=
  (Fits (gains ns) ∧ Fits (losses ns)) ∨ losses ns = 0 ∨ gains ns = 0

theorem Orderless.perm {others : List Int} (h : Orderless ns) (hperm : others.Perm ns) :
    Orderless others := by
  unfold Orderless
  rwa [gains_perm hperm, losses_perm hperm]

theorem Orderless.direct (h : Orderless ns) : Direct 0 ns := by
  intro front hfront
  have hbetween := sum_prefix_between hfront
  have hsum := sum_eq ns
  unfold Orderless Fits at h
  omega

theorem running_of_one_way {start : Int} (hstart : Fits start)
    (h : losses ns = 0 ∨ gains ns = 0) : running start ns = nearest (start + ns.sum) := by
  apply running_eq_nearest hstart
  intro front hfront
  have hbetween := sum_prefix_between hfront
  have hsum := sum_eq ns
  unfold Fits at hstart
  omega

/-- First all numbers of one sign, then all others. -/
theorem running_split {first second : List Int} (hfirst : losses first = 0 ∨ gains first = 0)
    (hsecond : losses second = 0 ∨ gains second = 0) :
    running 0 (first ++ second) = nearest (nearest first.sum + second.sum) := by
  have hzero : Fits 0 := by decide
  rw [running_append, running_of_one_way hzero hfirst, Int.zero_add,
    running_of_one_way (fits_nearest _) hsecond]

/-- Numbers of both signs that do not fit add up to something else if those of the other sign
come first. -/
theorem running_ne_of_not_orderless {ups downs : List Int} (hups : losses ups = 0)
    (hdowns : gains downs = 0) (h : ¬ Orderless (ups ++ downs)) :
    running 0 (ups ++ downs) ≠ running 0 (downs ++ ups) := by
  rw [running_split (Or.inl hups) (Or.inr hdowns), running_split (Or.inr hdowns) (Or.inl hups)]
  have hsum := sum_eq ups
  have hsum' := sum_eq downs
  have hgains := gains_nonneg ups
  have hlosses := losses_nonpos downs
  unfold Orderless Fits at h
  rw [gains_append, losses_append] at h
  unfold nearest
  omega

end Order

end Saturating

namespace Accumulator

open Saturating

/-- The whole numbers among the values. -/
def wholes (values : List Value) : List Int := (values.filterMap Expression.int64?).map (·.toInt)

/-- All numbers among the values are whole ones. -/
def Whole (values : List Value) : Prop := ∀ v ∈ values, v.isNumber = true → ∃ n, v = .int n

section Sum

variable {values others : List Value}

theorem wholes_cons_int (n : Int64) (rest : List Value) :
    wholes (.int n :: rest) = n.toInt :: wholes rest := rfl

theorem wholes_append (values more : List Value) :
    wholes (values ++ more) = wholes values ++ wholes more := by
  rw [wholes, List.filterMap_append, List.map_append]
  rfl

theorem wholes_perm (h : others.Perm values) : (wholes others).Perm (wholes values) :=
  (h.filterMap _).map _

theorem toInt_ofIntClamp (n : Int) : (Int64.ofIntClamp n).toInt = nearest n := by
  have hleast := Int64.toInt_minValue
  have hgreatest := Int64.toInt_maxValue
  unfold Int64.ofIntClamp nearest
  split
  · split
    · rw [Int64.toInt_ofIntLE]
      omega
    · omega
  · omega

/-- Values that are no numbers leave a total as it is, and whole numbers are added to it. -/
theorem exists_total (h : Whole values) (t : Total) :
    ∃ n : Int64, values.foldl Total.add t = { t with whole := n } ∧
      n.toInt = running t.whole.toInt (wholes values) := by
  induction values generalizing t with
  | nil => exact ⟨t.whole, rfl, rfl⟩
  | cons v rest ih =>
    obtain ⟨hv, hrest⟩ := List.forall_mem_cons.mp h
    cases v with
    | int n =>
      obtain ⟨total, hfold, htotal⟩ := ih hrest (t.add (.int n))
      refine ⟨total, hfold, ?_⟩
      rw [htotal, wholes_cons_int, running_cons, ← toInt_ofIntClamp]
      rfl
    | float x =>
      obtain ⟨n, hn⟩ := hv rfl
      cases hn
    | _ => exact ih hrest t

theorem exists_sum (h : Whole values) :
    ∃ n : Int64, accumulate .sum values = .int n ∧ n.toInt = running 0 (wholes values) := by
  obtain ⟨n, hfold, hn⟩ := exists_total h .zero
  refine ⟨n, ?_, hn⟩
  rw [accumulate, total, hfold]
  rfl

theorem Whole.perm (h : Whole values) (hperm : others.Perm values) : Whole others :=
  fun v hv => h v (hperm.subset hv)

theorem sum_eq_sum_iff (h : Whole values) (h' : Whole others) :
    accumulate .sum others = accumulate .sum values ↔
      running 0 (wholes others) = running 0 (wholes values) := by
  obtain ⟨n, hsum, hn⟩ := exists_sum h
  obtain ⟨m, hsum', hm⟩ := exists_sum h'
  rw [hsum, hsum', ← hn, ← hm, Value.int.injEq, Int64.toInt_inj]

def isGain : Value → Bool
  | .int n => decide (0 < n.toInt)
  | _ => false

theorem exists_int_of_mem_wholes {n : Int} (h : n ∈ wholes values) :
    ∃ m : Int64, .int m ∈ values ∧ m.toInt = n := by
  obtain ⟨m, hm, hn⟩ := List.mem_map.mp h
  obtain ⟨v, hv, hint⟩ := List.mem_filterMap.mp hm
  cases v with
  | int k =>
    cases hint
    exact ⟨m, hv, hn⟩
  | _ => cases hint

theorem losses_wholes_ups (values : List Value) : losses (wholes (values.filter isGain)) = 0 := by
  apply losses_of_nonneg
  intro n hn
  obtain ⟨m, hm, rfl⟩ := exists_int_of_mem_wholes hn
  have hgain : decide (0 < m.toInt) = true := (List.mem_filter.mp hm).2
  exact Int.le_of_lt (of_decide_eq_true hgain)

theorem gains_wholes_downs (values : List Value) :
    gains (wholes (values.filter (!isGain ·))) = 0 := by
  apply gains_of_nonpos
  intro n hn
  obtain ⟨m, hm, rfl⟩ := exists_int_of_mem_wholes hn
  have hgain : (!decide (0 < m.toInt)) = true := (List.mem_filter.mp hm).2
  simpa using hgain

theorem running_of_orderless (h : Orderless (wholes values)) :
    running 0 (wholes values) = nearest (wholes values).sum := by
  rw [running_eq_nearest (by decide) h.direct, Int.zero_add]

/-- The order of the values does not count exactly if the numbers fit by their signs, or all go
one way. -/
theorem forall_perm_iff (h : Whole values) :
    (∀ others, others.Perm values → accumulate .sum others = accumulate .sum values) ↔
      Orderless (wholes values) := by
  constructor
  · intro hall
    by_contra hmixed
    have hups : (values.filter isGain ++ values.filter (!isGain ·)).Perm values :=
      List.filter_append_perm isGain values
    have hdowns : (values.filter (!isGain ·) ++ values.filter isGain).Perm values :=
      List.perm_append_comm.trans hups
    have hsame := (sum_eq_sum_iff h (h.perm hups)).mp (hall _ hups)
    have hsame' := (sum_eq_sum_iff h (h.perm hdowns)).mp (hall _ hdowns)
    have hsplit : ¬ Orderless
        (wholes (values.filter isGain) ++ wholes (values.filter (!isGain ·))) := by
      rw [← wholes_append]
      exact fun horderless => hmixed (horderless.perm (wholes_perm hups.symm))
    apply running_ne_of_not_orderless (losses_wholes_ups values) (gains_wholes_downs values) hsplit
    rw [← wholes_append, ← wholes_append, hsame, hsame']
  · intro horderless others hperm
    have hnumbers := wholes_perm hperm
    rw [sum_eq_sum_iff h (h.perm hperm), running_of_orderless horderless,
      running_of_orderless (horderless.perm hnumbers), hnumbers.sum_eq]

end Sum

/-- Over whole numbers the sum is that of a total which is cut to 64 bits at each step. It is
the sum of the numbers, cut once, if no partial sum lies beyond both the range and the sum. In
any order of the values, and of the documents that they come from, this is so if the numbers
fit by their signs or all go one way, and only then does their order not count. -/
theorem sum_saturating (values : List Value) (h : Whole values) :
    ∃ n : Int64, accumulate .sum values = .int n ∧ n.toInt = running 0 (wholes values) ∧
      (Direct 0 (wholes values) → n.toInt = nearest (wholes values).sum) ∧
      (Orderless (wholes values) → n.toInt = nearest (wholes values).sum) ∧
      ((∀ others, others.Perm values → accumulate .sum others = .int n) ↔
        Orderless (wholes values)) ∧
      ∀ name x, ∀ members others : List Document,
        members.map (Expression.evaluate · x) = values → others.Perm members →
          Group.Field.value ⟨name, .sum, x⟩ members = .int n ∧
            (Orderless (wholes values) → Group.Field.value ⟨name, .sum, x⟩ others = .int n) := by
  obtain ⟨n, hsum, hn⟩ := exists_sum h
  have hanyOrder := forall_perm_iff h
  rw [hsum] at hanyOrder
  refine ⟨n, hsum, hn, ?_, ?_, hanyOrder, ?_⟩
  · intro hdirect
    rw [hn, running_eq_nearest (by decide) hdirect, Int.zero_add]
  · intro horderless
    rw [hn, running_of_orderless horderless]
  · rintro name x members others rfl hperm
    exact ⟨hsum, fun horderless => hanyOrder.mpr horderless _ (hperm.map _)⟩

/-- Gains and losses of a station, one of them in words. -/
def drift : List Value := [.int 9223372036854775807, .string "calm", .int (-9223372036854775807)]

theorem sum_saturating_drift :
    Whole drift ∧ Orderless (wholes drift) ∧ accumulate .sum drift.reverse = .int 0 := by
  have hwhole : Whole drift := by
    intro v hv hnumber
    simp only [drift, List.mem_cons, List.not_mem_nil, or_false] at hv
    rcases hv with rfl | rfl | rfl
    · exact ⟨_, rfl⟩
    · cases hnumber
    · exact ⟨_, rfl⟩
  have horderless : Orderless (wholes drift) := Or.inl (by decide)
  obtain ⟨n, hsum, -, -, hexact, hanyOrder, -⟩ := sum_saturating drift hwhole
  have hzero : n = 0 := Int64.toInt_inj.mp (hexact horderless)
  refine ⟨hwhole, horderless, ?_⟩
  rw [hanyOrder.mpr horderless _ (List.reverse_perm drift), hzero]

/-- A total that has been cut does not come back: the greatest number, one more and one less
are not the greatest number, though that is their sum, and what they give in another order. -/
theorem sum_cut_before_the_end :
    let values : List Value := [.int 9223372036854775807, .int 1, .int (-1)]
    (∀ v ∈ values, v.isNumber = true → ∃ n, v = .int n) ∧
      (wholes values).sum = 9223372036854775807 ∧
      accumulate .sum values = .int 9223372036854775806 ∧
      accumulate .sum values.reverse = .int 9223372036854775807 := by
  refine ⟨?_, rfl, rfl, rfl⟩
  intro v hv _
  simp only [List.mem_cons, List.not_mem_nil, or_false] at hv
  rcases hv with rfl | rfl | rfl <;> exact ⟨_, rfl⟩

end Accumulator

end QuerySets
