import Mathlib.Tactic.Positivity
import QuerySets.Association
import QuerySets.Store.Tree

/-!
Trees as maps. A lookup sees the last record put under its key, whatever the tree
looks like. In a tree whose keys ascend each key stands once, so that the entries are
exactly the lookups that find something; every operation keeps the keys ascending. A
record under a new key is one more among those with its start, and keys made of growing
counts go to the end.
-/

namespace QuerySets.Tree

open Association

variable {α : Type}

theorem lookup_put (key other : List Char) (record : α) (entries : List (List Char × α)) :
    (put key record entries).lookup other =
      if key = other then some record else entries.lookup other := by
  induction entries with
  | nil => exact lookup_cons other key record []
  | cons entry rest ih =>
    obtain ⟨k, old⟩ := entry
    by_cases hk : k = key
    · subst hk
      by_cases h : k = other <;> simp [put, lookup_cons, h]
    · by_cases hlt : k < key
      · by_cases h : k = other
        · subst h
          simp [put, hk, hlt, Ne.symm hk]
        · simp [put, hk, hlt, lookup_cons, h, ih]
      · simp [put, hk, hlt, lookup_cons]

theorem get?_insert (t : Tree α) (key other : List Char) (record : α) :
    (t.insert key record).get? other = if key = other then some record else t.get? other :=
  lookup_put key other record t.entries

theorem get?_erase (t : Tree α) (key other : List Char) :
    (t.erase key).get? other = if key = other then none else t.get? other := by
  rw [get?, erase, lookup_filter (fun k => decide (k ≠ key))]
  by_cases h : key = other
  · simp [h]
  · simp [h, Ne.symm h, get?]

/-- The keys ascend. -/
def Sorted (t : Tree α) : Prop := t.entries.Pairwise fun a b => a.1 < b.1

theorem sorted_empty : (empty : Tree α).Sorted := List.Pairwise.nil

theorem lt_of_ne_of_not_lt {k key : List Char} (hne : k ≠ key) (hlt : ¬ k < key) : key < k := by
  rcases List.le_iff_lt_or_eq.mp (List.not_lt.mp hlt) with h | h
  · exact h
  · exact absurd h.symm hne

theorem mem_put {key : List Char} {record : α} {entries : List (List Char × α)}
    {entry : List Char × α} (h : entry ∈ put key record entries) :
    entry = (key, record) ∨ entry ∈ entries := by
  induction entries with
  | nil => exact Or.inl (List.mem_singleton.mp h)
  | cons head rest ih =>
    obtain ⟨k, old⟩ := head
    simp only [put] at h
    split at h
    · rcases List.mem_cons.mp h with heq | hmem
      · exact Or.inl heq
      · exact Or.inr (List.mem_cons_of_mem _ hmem)
    · split at h
      · rcases List.mem_cons.mp h with heq | hmem
        · exact Or.inr (heq ▸ List.mem_cons_self)
        · exact (ih hmem).imp_right (List.mem_cons_of_mem _)
      · exact List.mem_cons.mp h

theorem pairwise_put {key : List Char} (record : α) {entries : List (List Char × α)}
    (h : entries.Pairwise fun a b => a.1 < b.1) :
    (put key record entries).Pairwise fun a b => a.1 < b.1 := by
  induction entries with
  | nil => exact List.pairwise_singleton _ _
  | cons head rest ih =>
    obtain ⟨k, old⟩ := head
    obtain ⟨hhead, hrest⟩ := List.pairwise_cons.mp h
    simp only [put]
    split
    next hk =>
      subst hk
      exact List.pairwise_cons.mpr ⟨hhead, hrest⟩
    split
    next hlt =>
      refine List.pairwise_cons.mpr ⟨?_, ih hrest⟩
      intro entry hentry
      rcases mem_put hentry with rfl | hmem
      · exact hlt
      · exact hhead entry hmem
    next hne hnlt =>
      have hkey : key < k := lt_of_ne_of_not_lt hne hnlt
      refine List.pairwise_cons.mpr ⟨?_, h⟩
      intro entry hentry
      rcases List.mem_cons.mp hentry with rfl | hmem
      · exact hkey
      · exact List.lt_trans hkey (hhead entry hmem)

theorem Sorted.insert {t : Tree α} (h : t.Sorted) (key : List Char) (record : α) :
    (t.insert key record).Sorted :=
  pairwise_put record h

theorem Sorted.erase {t : Tree α} (h : t.Sorted) (key : List Char) : (t.erase key).Sorted :=
  List.Pairwise.filter _ h

theorem Sorted.nodup_keys {t : Tree α} (h : t.Sorted) : (t.entries.map (·.1)).Nodup := by
  refine List.pairwise_map.mpr (h.imp ?_)
  intro a b hlt heq
  exact List.lt_irrefl a.1 (heq ▸ hlt)

/-- In a sorted tree the entries are what the lookups find. -/
theorem Sorted.mem_iff {t : Tree α} (h : t.Sorted) {key : List Char} {record : α} :
    (key, record) ∈ t.entries ↔ t.get? key = some record :=
  mem_iff_lookup h.nodup_keys

theorem Sorted.mem_values {t : Tree α} (h : t.Sorted) {record : α} :
    record ∈ t.values ↔ ∃ key, t.get? key = some record := by
  simp only [values, List.mem_map]
  constructor
  · rintro ⟨⟨key, found⟩, hmem, rfl⟩
    exact ⟨key, h.mem_iff.mp hmem⟩
  · rintro ⟨key, hkey⟩
    exact ⟨(key, record), h.mem_iff.mpr hkey, rfl⟩

section Scan

theorem get?_eraseAll (t : Tree α) (start key : List Char) :
    (t.eraseAll start).get? key = if start.isPrefixOf key then none else t.get? key := by
  rw [get?, eraseAll, lookup_filter (fun k => !start.isPrefixOf k)]
  cases start.isPrefixOf key <;> simp [get?]

/-- A record under a new key is one more entry. -/
theorem perm_put {key : List Char} (record : α) {entries : List (List Char × α)}
    (h : entries.lookup key = none) : (put key record entries).Perm ((key, record) :: entries) := by
  induction entries with
  | nil => exact List.Perm.refl _
  | cons entry rest ih =>
    obtain ⟨k, old⟩ := entry
    have hk : k ≠ key := by
      intro heq
      simp [heq] at h
    have hrest : rest.lookup key = none := by simpa [lookup_cons, hk] using h
    simp only [put, if_neg hk]
    split
    · exact ((ih hrest).cons (k, old)).trans (List.Perm.swap _ _ _)
    · exact List.Perm.refl _

theorem scan_insert_perm {t : Tree α} {key : List Char} (h : t.get? key = none) (record : α)
    (start : List Char) : ((t.insert key record).scan start).Perm
      (if start.isPrefixOf key then record :: t.scan start else t.scan start) := by
  have hperm := ((perm_put record h).filter fun e => start.isPrefixOf e.1).map (·.2)
  refine hperm.trans ?_
  rw [List.filter_cons]
  split <;> exact List.Perm.refl _

/-- A record whose key starts otherwise is not found by a scan. -/
theorem scan_insert_of_not_prefix {start key : List Char} (h : ¬ start <+: key) (t : Tree α)
    (record : α) : (t.insert key record).scan start = t.scan start := by
  have hkey : start.isPrefixOf key = false := by
    rw [Bool.eq_false_iff, ne_eq, List.isPrefixOf_iff_prefix]
    exact h
  simp only [scan, insert]
  congr 1
  induction t.entries with
  | nil => simp [put, hkey]
  | cons entry rest ih =>
    obtain ⟨k, old⟩ := entry
    simp only [put]
    split
    next hk => simp [hk, hkey]
    split
    · rw [List.filter_cons, List.filter_cons, ih]
    · rw [List.filter_cons, if_neg (by simp [hkey])]

/-- A record whose key comes after all others with its start is found last. -/
theorem scan_insert_of_forall_lt {t : Tree α} (hsorted : t.Sorted) {start key : List Char}
    (hstart : start <+: key) (hlast : ∀ entry ∈ t.entries, start <+: entry.1 → entry.1 < key)
    (record : α) : (t.insert key record).scan start = t.scan start ++ [record] := by
  have hkey : start.isPrefixOf key = true := List.isPrefixOf_iff_prefix.mpr hstart
  rw [scan, scan, insert, ← List.map_singleton (f := Prod.snd) (a := (key, record)),
    ← List.map_append]
  congr 1
  revert hsorted hlast
  unfold Sorted
  dsimp only
  induction t.entries with
  | nil => intro _ _; simp [put, hkey]
  | cons entry rest ih =>
    intro hsorted hlast
    obtain ⟨k, old⟩ := entry
    obtain ⟨hhead, hrest⟩ := List.pairwise_cons.mp hsorted
    simp only [put]
    split
    next hk =>
      have hlt : k < key := hlast (k, old) List.mem_cons_self (hk ▸ hstart)
      exact absurd hlt (hk ▸ List.lt_irrefl k)
    split
    next hlt =>
      rw [List.filter_cons, List.filter_cons,
        ih hrest fun e he => hlast e (List.mem_cons_of_mem _ he)]
      split <;> rfl
    next hne hnlt =>
      -- all that is left comes after the key, so that nothing of it has the start
      have hbeyond : key < k := lt_of_ne_of_not_lt hne hnlt
      have hnone : ((k, old) :: rest).filter (fun e => start.isPrefixOf e.1) = [] := by
        refine List.filter_eq_nil_iff.mpr fun e he hprefix => ?_
        have hbefore := hlast e he (List.isPrefixOf_iff_prefix.mp hprefix)
        rcases List.mem_cons.mp he with rfl | he
        · exact List.lt_irrefl _ (List.lt_trans hbefore hbeyond)
        · exact List.lt_irrefl _ (List.lt_trans hbefore (List.lt_trans hbeyond (hhead e he)))
      rw [List.filter_cons, if_pos hkey, hnone, List.nil_append]

theorem scan_eraseAll_self (t : Tree α) (start : List Char) :
    (t.eraseAll start).scan start = [] := by
  simp [scan, eraseAll]

/-- Where no key starts both ways, what starts the other way is not touched. -/
theorem scan_eraseAll_of_apart (t : Tree α) {start other : List Char}
    (h : ∀ key : List Char, other <+: key → ¬ start <+: key) :
    (t.eraseAll start).scan other = t.scan other := by
  unfold scan eraseAll
  rw [List.filter_filter]
  congr 1
  refine List.filter_congr ?_
  intro entry _
  cases hother : other.isPrefixOf entry.1 with
  | false => rfl
  | true =>
    have hstart : start.isPrefixOf entry.1 = false := by
      rw [Bool.eq_false_iff, ne_eq, List.isPrefixOf_iff_prefix]
      exact h entry.1 (List.isPrefixOf_iff_prefix.mp hother)
    simp [hstart]

end Scan

section Counts

theorem toNat_ofNat {n : Nat} (h : n < 256) : (Char.ofNat n).toNat = n := by
  have hvalid : n.isValidChar := Or.inl (by omega)
  rw [Char.ofNat, dif_pos hvalid]
  rfl

theorem ofNat_lt_ofNat {m n : Nat} (h : m < n) (hn : n < 256) : Char.ofNat m < Char.ofNat n := by
  have hlt : (Char.ofNat m).toNat < (Char.ofNat n).toNat := by
    rw [toNat_ofNat (by omega), toNat_ofNat hn]
    exact h
  exact UInt32.lt_iff_toNat_lt.mpr hlt

theorem digits_succ (width n : Nat) :
    digits (width + 1) n = Char.ofNat (n / 256 ^ width % 256) :: digits width n := by
  have hshift : n >>> (8 * width) = n / 256 ^ width := by
    rw [Nat.shiftRight_eq_div_pow, Nat.pow_mul]
  rw [digits, hshift]

/-- The numbers that the digits keep stand in the order of the digits. -/
theorem digits_lt {width m n : Nat} (h : m % 256 ^ width < n % 256 ^ width) :
    digits width m < digits width n := by
  induction width with
  | zero => simp [Nat.mod_one] at h
  | succ width ih =>
    rw [Nat.mod_pow_succ, Nat.mod_pow_succ] at h
    have hm : m % 256 ^ width < 256 ^ width := Nat.mod_lt _ (by positivity)
    have hn : n % 256 ^ width < 256 ^ width := Nat.mod_lt _ (by positivity)
    have hlast : n / 256 ^ width % 256 < 256 := Nat.mod_lt _ (by decide)
    rw [digits_succ, digits_succ, List.cons_lt_cons_iff]
    rcases Nat.lt_trichotomy (m / 256 ^ width % 256) (n / 256 ^ width % 256) with hlt | heq | hgt
    · exact Or.inl (ofNat_lt_ofNat hlt hlast)
    · rw [heq] at h ⊢
      exact Or.inr ⟨rfl, ih (by omega)⟩
    · have hstep : 256 ^ width * (n / 256 ^ width % 256 + 1) ≤
          256 ^ width * (m / 256 ^ width % 256) := Nat.mul_le_mul_left _ hgt
      rw [Nat.mul_add] at hstep
      omega

/-- Counts of 64 bits have keys in their own order. -/
theorem countKey_lt {m n : Nat} (h : m < n) (hn : n < 2 ^ 64) : countKey m < countKey n := by
  refine digits_lt ?_
  rw [Nat.mod_eq_of_lt (by omega), Nat.mod_eq_of_lt (by omega)]
  exact h

/-- A key beyond all others goes to the end. -/
theorem entries_insert_of_forall_lt {t : Tree α} {key : List Char}
    (h : ∀ entry ∈ t.entries, entry.1 < key) (record : α) :
    (t.insert key record).entries = t.entries ++ [(key, record)] := by
  unfold insert
  dsimp only
  revert h
  induction t.entries with
  | nil => intro _; rfl
  | cons entry rest ih =>
    intro h
    obtain ⟨k, old⟩ := entry
    have hlt : k < key := h _ List.mem_cons_self
    have hne : k ≠ key := fun heq => List.lt_irrefl _ (heq ▸ hlt)
    rw [put, if_neg hne, if_pos hlt, ih fun e he => h e (List.mem_cons_of_mem _ he)]
    rfl

/-- All keys are counts below a bound. -/
def CountedBelow (t : Tree α) (bound : Nat) : Prop :=
  ∀ entry ∈ t.entries, ∃ n < bound, entry.1 = countKey n

theorem countedBelow_empty (bound : Nat) : (empty : Tree α).CountedBelow bound := by
  intro entry h
  simp [empty] at h

theorem CountedBelow.mono {t : Tree α} {bound bound' : Nat} (h : t.CountedBelow bound)
    (hle : bound ≤ bound') : t.CountedBelow bound' := by
  intro entry hentry
  obtain ⟨n, hn, hkey⟩ := h entry hentry
  exact ⟨n, by omega, hkey⟩

theorem CountedBelow.entries_insert {t : Tree α} {count : Nat} (h : t.CountedBelow count)
    (hcount : count < 2 ^ 64) (record : α) :
    (t.insert (countKey count) record).entries = t.entries ++ [(countKey count, record)] := by
  refine entries_insert_of_forall_lt ?_ record
  intro entry hentry
  obtain ⟨n, hn, hkey⟩ := h entry hentry
  rw [hkey]
  exact countKey_lt hn hcount

theorem CountedBelow.insert {t : Tree α} {count : Nat} (h : t.CountedBelow count)
    (hcount : count < 2 ^ 64) (record : α) :
    (t.insert (countKey count) record).CountedBelow (count + 1) := by
  intro entry hentry
  rw [h.entries_insert hcount, List.mem_append, List.mem_singleton] at hentry
  rcases hentry with hold | rfl
  · exact h.mono (Nat.le_succ count) entry hold
  · exact ⟨count, Nat.lt_succ_self count, rfl⟩

theorem CountedBelow.values_insert {t : Tree α} {count : Nat} (h : t.CountedBelow count)
    (hcount : count < 2 ^ 64) (record : α) :
    (t.insert (countKey count) record).values = t.values ++ [record] := by
  simp [values, h.entries_insert hcount]

end Counts

end QuerySets.Tree
