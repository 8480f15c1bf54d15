import Mathlib.Data.List.Basic
import Mathlib.Tactic.Positivity

/-!
The bytes of a text. Longer codes of characters start with greater bytes, and codes of one
length have the greater bits first, so that texts stand in the same order by their characters
and by their bytes.
-/

namespace QuerySets.Text

/-- The bytes of a text, as they are stored. -/
def bytes (s : String) : List UInt8 := s.toUTF8.data.toList

theorem bytes_eq_flatMap (s : String) : bytes s = s.toList.flatMap String.utf8EncodeChar := by
  have hencoded : s.toUTF8 = s.toList.utf8Encode := by
    conv_lhs => rw [← s.ofList_toList]
    exact String.toByteArray_ofList
  rw [bytes, hencoded, List.utf8Encode, List.toList_data_toByteArray]

theorem ofNat_cons_lt {m n : Nat} {cs ds : List UInt8} (hn : n < 256) (hle : m ≤ n)
    (h : m = n → cs < ds) : UInt8.ofNat m :: cs < UInt8.ofNat n :: ds := by
  rcases Nat.lt_or_eq_of_le hle with hlt | rfl
  · refine List.cons_lt_cons_iff.mpr (Or.inl ?_)
    rw [UInt8.lt_iff_toNat_lt, UInt8.toNat_ofNat', UInt8.toNat_ofNat']
    omega
  · exact List.cons_lt_cons_iff.mpr (Or.inr ⟨rfl, h rfl⟩)

/-- The bytes of a code after its first one, each with six of the bits. -/
def following : Nat → Nat → List UInt8
  | 0, _ => []
  | width + 1, n => UInt8.ofNat (n / 64 ^ width % 64 + 128) :: following width n

/-- The code of a number: the first byte has a mark that tells how many bytes follow. -/
def code (mark width n : Nat) : List UInt8 :=
  UInt8.ofNat (n / 64 ^ width + mark) :: following width n

theorem following_append_lt {width m n : Nat} (h : m % 64 ^ width < n % 64 ^ width)
    (a b : List UInt8) : following width m ++ a < following width n ++ b := by
  induction width with
  | zero => simp [Nat.mod_one] at h
  | succ width ih =>
    rw [Nat.mod_pow_succ, Nat.mod_pow_succ] at h
    have hn : n % 64 ^ width < 64 ^ width := Nat.mod_lt _ (by positivity)
    have hle : m / 64 ^ width % 64 ≤ n / 64 ^ width % 64 := by
      by_contra hgt
      have hstep : 64 ^ width * (n / 64 ^ width % 64 + 1) ≤ 64 ^ width * (m / 64 ^ width % 64) :=
        Nat.mul_le_mul_left _ (Nat.not_le.mp hgt)
      rw [Nat.mul_add] at hstep
      omega
    refine ofNat_cons_lt (by omega) (by omega) fun heq => ih ?_
    rw [Nat.add_right_cancel heq] at h
    omega

/-- Of two codes with the same mark the greater one stands for the greater number. -/
theorem code_append_lt {mark width m n : Nat} (h : m < n) (hn : n / 64 ^ width + mark < 256)
    (a b : List UInt8) : code mark width m ++ a < code mark width n ++ b := by
  have hle : m / 64 ^ width ≤ n / 64 ^ width := Nat.div_le_div_right h.le
  refine ofNat_cons_lt hn (by omega) fun heq => following_append_lt ?_ a b
  have hm := Nat.div_add_mod m (64 ^ width)
  have hn := Nat.div_add_mod n (64 ^ width)
  rw [Nat.add_right_cancel heq] at hm
  omega

theorem code_append_lt_of_first {mark mark' width width' m n : Nat}
    (h : m / 64 ^ width + mark < n / 64 ^ width' + mark') (hn : n / 64 ^ width' + mark' < 256)
    (a b : List UInt8) : code mark width m ++ a < code mark' width' n ++ b :=
  ofNat_cons_lt hn h.le fun heq => absurd heq h.ne

/-- The numbers of characters in four ranges, of which each has its own mark. -/
theorem utf8EncodeChar_cases (c : Char) :
    (c.val.toNat < 128 ∧ String.utf8EncodeChar c = code 0 0 c.val.toNat) ∨
    (128 ≤ c.val.toNat ∧ c.val.toNat < 2048 ∧
      String.utf8EncodeChar c = code 192 1 c.val.toNat) ∨
    (2048 ≤ c.val.toNat ∧ c.val.toNat < 65536 ∧
      String.utf8EncodeChar c = code 224 2 c.val.toNat) ∨
    (65536 ≤ c.val.toNat ∧ c.val.toNat < 1114112 ∧
      String.utf8EncodeChar c = code 240 3 c.val.toNat) := by
  have hvalid : c.val.toNat < 1114112 := by
    rcases c.valid with hlow | hhigh
    · exact Nat.lt_trans hlow (by decide)
    · exact hhigh.2
  unfold String.utf8EncodeChar
  generalize c.val.toNat = n at hvalid
  simp only [code, following, Nat.reducePow, Nat.div_one, Nat.add_zero]
  split
  · exact Or.inl ⟨by omega, rfl⟩
  split
  · refine Or.inr (Or.inl ⟨by omega, by omega, ?_⟩)
    rw [Nat.mod_eq_of_lt (a := n / 64) (by omega)]
  split
  · refine Or.inr (Or.inr (Or.inl ⟨by omega, by omega, ?_⟩))
    rw [Nat.mod_eq_of_lt (a := n / 4096) (by omega)]
  · refine Or.inr (Or.inr (Or.inr ⟨by omega, hvalid, ?_⟩))
    rw [Nat.mod_eq_of_lt (a := n / 262144) (by omega)]

/-- The code of a lesser character is less, whatever follows. -/
theorem utf8EncodeChar_append_lt {c d : Char} (h : c < d) (a b : List UInt8) :
    String.utf8EncodeChar c ++ a < String.utf8EncodeChar d ++ b := by
  have hlt : c.val.toNat < d.val.toNat := UInt32.lt_iff_toNat_lt.mp h
  rcases utf8EncodeChar_cases c with ⟨hc, hcode⟩ | ⟨hlow, hc, hcode⟩ | ⟨hlow, hc, hcode⟩ |
      ⟨hlow, hc, hcode⟩ <;>
    rcases utf8EncodeChar_cases d with ⟨hd, hcode'⟩ | ⟨hlow', hd, hcode'⟩ | ⟨hlow', hd, hcode'⟩ |
      ⟨hlow', hd, hcode'⟩ <;>
    rw [hcode, hcode'] <;>
    first
      | exact code_append_lt hlt (by omega) a b
      | exact code_append_lt_of_first (by omega) (by omega) a b

/-- Texts in the order of their characters are in the order of their bytes. -/
theorem bytes_lt {s t : String} (h : s.toList < t.toList) : bytes s < bytes t := by
  rw [bytes_eq_flatMap, bytes_eq_flatMap]
  generalize s.toList = cs at h
  generalize t.toList = ds at h
  induction h with
  | nil =>
    rw [List.flatMap_nil, List.flatMap_cons]
    obtain ⟨first, rest, hcode⟩ := List.exists_cons_of_ne_nil String.utf8EncodeChar_ne_nil
    rw [hcode]
    exact List.nil_lt_cons _ _
  | rel hlt =>
    rw [List.flatMap_cons, List.flatMap_cons]
    exact utf8EncodeChar_append_lt hlt _ _
  | cons _ ih =>
    rw [List.flatMap_cons, List.flatMap_cons]
    exact List.append_left_lt ih

end QuerySets.Text
