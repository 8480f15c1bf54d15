import Mathlib.Algebra.Group.Nat.Defs
import QuerySets.Text.Numeral

/-!
Decimal numerals read back. The digits written for a number stand for that number, with
zeros in front or without, so a count is read back from its own numeral exactly when it
fits in a word. The texts that are read as counts are digits, after a plus sign or alone.
-/

namespace QuerySets.Text.Numeral

theorem digitValue_digitChar {d : Nat} (h : d < 10) : digitValue d.digitChar = d := by
  unfold digitValue
  rw [Nat.toNat_digitChar_of_lt_ten h]
  have hzero : '0'.toNat = 48 := rfl
  omega

theorem valueFrom_append (acc : Nat) (left right : List Char) :
    valueFrom acc (left ++ right) = valueFrom (valueFrom acc left) right :=
  List.foldl_append

theorem valueFrom_ofNat (n : Nat) : valueFrom 0 (ofNat n) = n := by
  induction n using Nat.strongRecOn with
  | ind n ih =>
    unfold ofNat at *
    by_cases hn : n < 10
    · rw [Nat.toDigits_of_lt_base hn]
      simp [valueFrom, digitValue_digitChar hn]
    · rw [Nat.toDigits_of_base_le (by decide) (by omega), valueFrom_append,
        ih (n / 10) (by omega)]
      have hd : digitValue (n % 10).digitChar = n % 10 :=
        digitValue_digitChar (Nat.mod_lt n (by decide))
      change 10 * (n / 10) + digitValue (n % 10).digitChar = n
      omega

theorem isDigit_of_mem_ofNat {n : Nat} {c : Char} (h : c ∈ ofNat n) : c.isDigit :=
  Nat.isDigit_of_mem_toDigits (by decide) (by decide) h

theorem ofNat_ne_nil (n : Nat) : ofNat n ≠ [] := Nat.toDigits_ne_nil

theorem digits?_ofNat (n : Nat) : digits? (ofNat n) = some n := by
  have hall : (ofNat n).all Char.isDigit = true :=
    List.all_eq_true.mpr fun _ h => isDigit_of_mem_ofNat h
  simp [digits?, ofNat_ne_nil, hall, valueFrom_ofNat]

/-- No numeral starts with a sign. -/
theorem head_ofNat_ne {n : Nat} {c : Char} {rest : List Char} (h : ofNat n = c :: rest)
    (sign : Char) (hsign : sign.isDigit = false) : c ≠ sign := by
  intro heq
  have hc : c.isDigit = true := isDigit_of_mem_ofNat (n := n) (by simp [h])
  simp [heq, hsign] at hc

theorem natBelow?_ofNat (bound n : Nat) :
    natBelow? bound (ofNat n) = if n < bound then some n else none := by
  unfold natBelow?
  split
  next h => exact absurd rfl (head_ofNat_ne h '+' rfl)
  next =>
    simp only [digits?_ofNat, Option.filter_some, decide_eq_true_eq]

/-- The texts that stand for a count: digits, at least one, and a plus sign before them or not. -/
inductive Counts : List Char → Nat → Prop
  | digits {ds : List Char} (hne : ds ≠ []) (h : ∀ d ∈ ds, d.isDigit = true) :
    Counts ds (Nat.ofDigitChars 10 ds 0)
  | signed {ds : List Char} (hne : ds ≠ []) (h : ∀ d ∈ ds, d.isDigit = true) :
    Counts ('+' :: ds) (Nat.ofDigitChars 10 ds 0)

theorem digits?_eq_some_iff {cs : List Char} {n : Nat} :
    digits? cs = some n ↔
      cs ≠ [] ∧ (∀ c ∈ cs, c.isDigit = true) ∧ Nat.ofDigitChars 10 cs 0 = n := by
  have hvalue : valueFrom 0 cs = Nat.ofDigitChars 10 cs 0 := rfl
  cases cs with
  | nil => simp [digits?]
  | cons c rest => simp [digits?, hvalue, and_assoc]

theorem Counts.ne_nil {cs : List Char} {n : Nat} (h : Counts cs n) : cs ≠ [] := by
  cases h with
  | digits hne _ => exact hne
  | signed _ _ => exact List.cons_ne_nil _ _

theorem Counts.cases_mem {cs : List Char} {n : Nat} (h : Counts cs n) {c : Char} (hc : c ∈ cs) :
    c = '+' ∨ c.isDigit = true := by
  cases h with
  | digits _ hdigits => exact Or.inr (hdigits c hc)
  | signed _ hdigits => exact (List.mem_cons.mp hc).imp_right (hdigits c)

theorem natBelow?_eq_some_iff {bound n : Nat} {cs : List Char} :
    natBelow? bound cs = some n ↔ Counts cs n ∧ n < bound := by
  constructor
  · intro h
    simp only [natBelow?, Option.filter_eq_some_iff, decide_eq_true_eq] at h
    obtain ⟨hdigits, hn⟩ := h
    split at hdigits
    next ds =>
      obtain ⟨hne, hall, rfl⟩ := digits?_eq_some_iff.mp hdigits
      exact ⟨.signed hne hall, hn⟩
    next =>
      obtain ⟨hne, hall, rfl⟩ := digits?_eq_some_iff.mp hdigits
      exact ⟨.digits hne hall, hn⟩
  · rintro ⟨hcounts, hn⟩
    simp only [natBelow?, Option.filter_eq_some_iff, decide_eq_true_eq]
    refine ⟨?_, hn⟩
    cases hcounts with
    | signed hne hall => exact digits?_eq_some_iff.mpr ⟨hne, hall, rfl⟩
    | digits hne hall =>
      split
      next =>
        -- a sign is no digit
        exact absurd (hall '+' List.mem_cons_self) (by decide)
      next => exact digits?_eq_some_iff.mpr ⟨hne, hall, rfl⟩

theorem word?_eq_some_iff {cs : List Char} {n : Nat} :
    word? cs = some n ↔ Counts cs n ∧ n < UInt64.size := natBelow?_eq_some_iff

theorem word?_ofNat (n : Nat) : word? (ofNat n) = if n < UInt64.size then some n else none :=
  natBelow?_ofNat UInt64.size n

theorem valueFrom_replicate_zero (k : Nat) : valueFrom 0 (List.replicate k '0') = 0 := by
  induction k with
  | zero => rfl
  | succ k ih =>
    rw [List.replicate_succ']
    rw [valueFrom_append, ih]
    rfl

theorem length_padded {width n : Nat} (h : n < 10 ^ width) (hwidth : 0 < width) :
    (padded width n).length = width := by
  have hle : (ofNat n).length ≤ width := (Nat.length_toDigits_le_iff (by decide) hwidth).mpr h
  simp only [padded, List.length_append, List.length_replicate]
  omega

theorem isDigit_of_mem_padded {width n : Nat} {c : Char} (h : c ∈ padded width n) :
    c.isDigit = true := by
  rcases List.mem_append.mp h with hzero | hdigit
  · rw [List.eq_of_mem_replicate hzero]
    rfl
  · exact isDigit_of_mem_ofNat hdigit

/-- Zeros in front do not count. -/
theorem digits?_padded (width n : Nat) : digits? (padded width n) = some n := by
  have hall : (padded width n).all Char.isDigit = true :=
    List.all_eq_true.mpr fun _ h => isDigit_of_mem_padded h
  have hvalue : valueFrom 0 (padded width n) = n := by
    simp only [padded]
    rw [valueFrom_append, valueFrom_replicate_zero, valueFrom_ofNat]
  have hne : padded width n ≠ [] := by simp [padded, ofNat_ne_nil]
  simp [digits?, hne, hall, hvalue]

end QuerySets.Text.Numeral
