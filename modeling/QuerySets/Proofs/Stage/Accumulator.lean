import Mathlib.Data.List.Find
import Mathlib.Data.List.Induction
import Mathlib.Data.List.Nodup
import Mathlib.Data.List.Perm.Basic
import QuerySets.Proofs.Value.Equality
import QuerySets.Stage.Group

/-!
Accumulators that pay no regard to the order of documents. Null counts for none of them.
Without floats two values that are equal by size are the same value, so that there is one
least and one greatest value, and a set has the same members whatever comes first.
-/

namespace QuerySets.Accumulator

open Value (AtMost firstSeen)

/-- Null if there are only nulls, and otherwise one of the other values, which stands to
all of them as required. -/
def IsExtreme (R : Value → Value → Prop) (values : List Value) (v : Value) : Prop :=
  (v = .null ↔ ∀ w ∈ values, w = .null) ∧
    (v ≠ .null → v ∈ values ∧ ∀ w ∈ values, w ≠ .null → R v w)

theorem mem_present_iff {values : List Value} {v : Value} :
    v ∈ present values ↔ v ∈ values ∧ v ≠ .null := by
  have hnull : v.isNull = false ↔ v ≠ .null := by
    cases v <;> simp [Value.isNull]
  simp [present, hnull]

theorem floatFree_present {values : List Value} (h : ∀ v ∈ values, v.FloatFree) :
    ∀ v ∈ present values, v.FloatFree :=
  fun v hv => h v (mem_present_iff.mp hv).1

section Extremes

variable {replaces : Value → Value → Bool}

/-- The best of the first values and each further one, which replaces it or does not. -/
def best (replaces : Value → Value → Bool) (v : Value) (rest : List Value) : Value :=
  rest.foldl (fun v w => if replaces v w then w else v) v

theorem least_eq_best (v : Value) (rest : List Value) :
    least v rest = best (fun v w => v.order w == .gt) v rest := by
  induction rest generalizing v with
  | nil => rfl
  | cons w rest ih => exact ih _

theorem greatest_eq_best (v : Value) (rest : List Value) :
    greatest v rest = best (fun v w => !(v.order w == .gt)) v rest := by
  induction rest generalizing v with
  | nil => rfl
  | cons w rest ih =>
    rw [greatest, ih, best, best, List.foldl_cons]
    congr 1
    cases v.order w == .gt <;> rfl

theorem best_mem (v : Value) (rest : List Value) : best replaces v rest ∈ v :: rest := by
  induction rest generalizing v with
  | nil => exact List.mem_cons_self
  | cons w rest ih =>
    rw [best, List.foldl_cons]
    split
    · exact List.mem_cons_of_mem v (ih w)
    · rcases List.mem_cons.mp (ih v) with heq | hmem
      · exact List.mem_cons.mpr (Or.inl heq)
      · exact List.mem_cons_of_mem v (List.mem_cons_of_mem w hmem)

/-- What replaces only what it is better than, and is better than all that it did not have to
give place to, is better than all of them. -/
theorem best_of {R : Value → Value → Prop} {S : Value → Prop} (self : ∀ v, R v v)
    (trans : ∀ {a b c}, S a → S b → S c → R a b → R b c → R a c)
    (yes : ∀ {v w}, replaces v w = true → R w v) (no : ∀ {v w}, replaces v w = false → R v w)
    {v : Value} {rest : List Value} (hall : ∀ w ∈ v :: rest, S w) :
    ∀ w ∈ v :: rest, R (best replaces v rest) w := by
  induction rest generalizing v with
  | nil =>
    intro w hw
    rw [List.mem_singleton.mp hw]
    exact self v
  | cons next rest ih =>
    obtain ⟨hv, hmore⟩ := List.forall_mem_cons.mp hall
    obtain ⟨hnext, hrest⟩ := List.forall_mem_cons.mp hmore
    obtain ⟨winner, hwinner, hbeats, hbeats', hbest⟩ : ∃ winner, S winner ∧ R winner v ∧
        R winner next ∧ best replaces v (next :: rest) = best replaces winner rest := by
      rw [best, List.foldl_cons]
      cases hreplaces : replaces v next with
      | true => exact ⟨next, hnext, yes hreplaces, self next, rfl⟩
      | false => exact ⟨v, hv, self v, no hreplaces, rfl⟩
    have hall' : ∀ w ∈ winner :: rest, S w := List.forall_mem_cons.mpr ⟨hwinner, hrest⟩
    have hleads := ih hall'
    have hlead : R (best replaces winner rest) winner := hleads winner List.mem_cons_self
    have hS : S (best replaces winner rest) := hall' _ (best_mem winner rest)
    rw [hbest]
    intro w hw
    rcases List.mem_cons.mp hw with rfl | hw
    · exact trans hS hwinner hv hlead hbeats
    · rcases List.mem_cons.mp hw with rfl | hw
      · exact trans hS hwinner hnext hlead hbeats'
      · exact hleads w (List.mem_cons_of_mem winner hw)

theorem least_atMost {v : Value} {rest : List Value} (h : ∀ w ∈ v :: rest, w.FloatFree) :
    ∀ w ∈ v :: rest, AtMost (least v rest) w := by
  rw [least_eq_best]
  apply best_of Value.atMost_self Value.atMost_trans ?_ ?_ h
  · intro v w hgt
    exact Value.atMost_of_gt (beq_iff_eq.mp hgt)
  · intro v w hnot
    exact Value.atMost_of_not_gt (beq_eq_false_iff_ne.mp hnot)

theorem atMost_greatest {v : Value} {rest : List Value} (h : ∀ w ∈ v :: rest, w.FloatFree) :
    ∀ w ∈ v :: rest, AtMost w (greatest v rest) := by
  rw [greatest_eq_best]
  apply best_of (R := fun v w => AtMost w v) Value.atMost_self ?_ ?_ ?_ h
  · intro a b c ha hb hc hab hbc
    exact Value.atMost_trans hc hb ha hbc hab
  · intro v w hnot
    exact Value.atMost_of_not_gt (by simpa using hnot)
  · intro v w hgt
    exact Value.atMost_of_gt (by simpa using hgt)

theorem isExtreme_of_pick {R : Value → Value → Prop} {pick : Value → List Value → Value}
    {values : List Value} (hmem : ∀ v rest, pick v rest ∈ v :: rest)
    (hbest : ∀ v rest, (∀ w ∈ v :: rest, w ∈ present values) →
      ∀ w ∈ v :: rest, R (pick v rest) w) :
    IsExtreme R values
      (match present values with
        | [] => .null
        | v :: rest => pick v rest) := by
  cases hpresent : present values with
  | nil =>
    have hnulls : ∀ w ∈ values, w = .null := by
      intro w hw
      by_contra hne
      have hmem : w ∈ present values := mem_present_iff.mpr ⟨hw, hne⟩
      rw [hpresent] at hmem
      cases hmem
    exact ⟨iff_of_true rfl hnulls, fun hne => absurd rfl hne⟩
  | cons v rest =>
    have hpick : pick v rest ∈ present values := hpresent ▸ hmem v rest
    obtain ⟨hvalue, hne⟩ := mem_present_iff.mp hpick
    refine ⟨iff_of_false hne fun hnulls => hne (hnulls _ hvalue), fun _ => ⟨hvalue, ?_⟩⟩
    intro w hw hnull
    have hw : w ∈ v :: rest := hpresent ▸ mem_present_iff.mpr ⟨hw, hnull⟩
    exact hbest v rest (fun u hu => hpresent ▸ hu) w hw

theorem isExtreme_min {values : List Value} (h : ∀ v ∈ values, v.FloatFree) :
    IsExtreme AtMost values (accumulate .min values) := by
  apply isExtreme_of_pick
  · intro v rest
    rw [least_eq_best]
    exact best_mem v rest
  · intro v rest hpresent
    exact least_atMost fun w hw => floatFree_present h w (hpresent w hw)

theorem isExtreme_max {values : List Value} (h : ∀ v ∈ values, v.FloatFree) :
    IsExtreme (fun v w => AtMost w v) values (accumulate .max values) := by
  apply isExtreme_of_pick
  · intro v rest
    rw [greatest_eq_best]
    exact best_mem v rest
  · intro v rest hpresent
    exact atMost_greatest fun w hw => floatFree_present h w (hpresent w hw)

/-- There is one extreme value, whatever the order of the values. -/
theorem IsExtreme.unique {R : Value → Value → Prop} {values others : List Value} {v w : Value}
    (antisymm : ∀ a ∈ values, ∀ b ∈ values, R a b → R b a → a = b) (hperm : others.Perm values)
    (hv : IsExtreme R values v) (hw : IsExtreme R others w) : w = v := by
  have hnull : w = .null ↔ v = .null := by
    rw [hv.1, hw.1]
    exact ⟨fun h u hu => h u (hperm.symm.subset hu), fun h u hu => h u (hperm.subset hu)⟩
  by_cases hne : v = .null
  · rw [hne, hnull.mpr hne]
  · have hne' : w ≠ .null := fun heq => hne (hnull.mp heq)
    obtain ⟨hmem, hbest⟩ := hv.2 hne
    obtain ⟨hmem', hbest'⟩ := hw.2 hne'
    have hmem'' : w ∈ values := hperm.subset hmem'
    apply antisymm w hmem'' v hmem
    · exact hbest' v (hperm.symm.subset hmem) hne
    · exact hbest w hmem'' hne'

end Extremes

section Distinct

variable {values : List Value}

theorem distinct_concat (values : List Value) (v : Value) :
    distinct (values ++ [v]) =
      if (distinct values).any (·.looseEq v) then distinct values else distinct values ++ [v] := by
  rw [distinct, List.foldl_append]
  rfl

/-- Of two distinct values the earlier one is not equal to the later one. -/
theorem pairwise_distinct_apart (values : List Value) :
    (distinct values).Pairwise fun v w => v.looseEq w = false := by
  induction values using List.reverseRecOn with
  | nil => exact List.Pairwise.nil
  | append_singleton values last ih =>
    rw [distinct_concat]
    split
    next => exact ih
    next hnew =>
      refine List.pairwise_append.mpr ⟨ih, List.pairwise_singleton _ _, ?_⟩
      intro v hv w hw
      rw [List.mem_singleton.mp hw, Bool.eq_false_iff]
      exact fun hequal => hnew (List.any_eq_true.mpr ⟨v, hv, hequal⟩)

/-- Among the distinct values there is one for each value, and later values leave it where it
is. -/
theorem firstSeen_distinct_lt {v : Value} (h : v ∈ values) :
    firstSeen (distinct values) v < (distinct values).length := by
  induction values using List.reverseRecOn with
  | nil => cases h
  | append_singleton values last ih =>
    rw [distinct_concat]
    rcases List.mem_append.mp h with hmem | hlast
    · split
      next => exact ih hmem
      next =>
        rw [Value.firstSeen_append (ih hmem), List.length_append]
        exact Nat.lt_add_right _ (ih hmem)
    · rw [List.mem_singleton.mp hlast]
      split
      next hseen => exact Value.firstSeen_lt_iff.mpr hseen
      next => exact Value.firstSeen_lt (List.mem_append_right _ List.mem_cons_self)

theorem firstSeen_distinct_concat (last : Value) {v : Value} (h : v ∈ values) :
    firstSeen (distinct (values ++ [last])) v = firstSeen (distinct values) v := by
  rw [distinct_concat]
  split
  next => rfl
  next => exact Value.firstSeen_append (firstSeen_distinct_lt h)

theorem firstSeen_distinct_last (values : List Value) (last : Value) :
    firstSeen (distinct (values ++ [last])) last = firstSeen (distinct values) last := by
  rw [distinct_concat]
  split
  next => rfl
  next hnew =>
    have hunseen : (distinct values).any (·.looseEq last) = false := Bool.eq_false_iff.mpr hnew
    rw [Value.firstSeen_concat hunseen, Value.firstSeen_of_unseen hunseen]

theorem find?_firstSeen_concat (values : List Value) (last : Value) (n : Nat) :
    (values ++ [last]).find? (fun v => firstSeen (distinct (values ++ [last])) v == n) =
      (values.find? fun v => firstSeen (distinct values) v == n).or
        (if firstSeen (distinct values) last == n then some last else none) := by
  have hsame : values.find? (fun v => firstSeen (distinct (values ++ [last])) v == n) =
      values.find? (fun v => firstSeen (distinct values) v == n) := by
    apply List.find?_congr
    intro v hv
    rw [firstSeen_distinct_concat last hv]
  rw [List.find?_append, hsame, List.find?_singleton, firstSeen_distinct_last]

/-- A distinct value is the first one of those that it stands for. -/
theorem find?_distinct {n : Nat} {k : Value} (h : (distinct values)[n]? = some k) :
    values.find? (fun v => firstSeen (distinct values) v == n) = some k := by
  induction values using List.reverseRecOn with
  | nil => cases h
  | append_singleton values last ih =>
    rw [find?_firstSeen_concat]
    rw [distinct_concat] at h
    split at h
    next =>
      rw [ih h]
      rfl
    next hnew =>
      rcases Nat.lt_or_ge n (distinct values).length with hlt | hge
      · rw [List.getElem?_append_left hlt] at h
        rw [ih h]
        rfl
      · obtain ⟨rfl, rfl⟩ : n = (distinct values).length ∧ last = k := by
          rw [List.getElem?_append_right hge, List.getElem?_singleton] at h
          split at h
          next heq => exact ⟨by omega, Option.some.inj h⟩
          next => cases h
        have hnone : values.find? (fun v => firstSeen (distinct values) v ==
            (distinct values).length) = none := by
          apply List.find?_eq_none.mpr
          intro v hv heq
          exact absurd (beq_iff_eq.mp heq) (Nat.ne_of_lt (firstSeen_distinct_lt hv))
        have hplace : firstSeen (distinct values) last = (distinct values).length :=
          Value.firstSeen_of_unseen (Bool.eq_false_iff.mpr hnew)
        rw [hnone, Option.none_or, hplace, if_pos (beq_self_eq_true _)]

theorem findIdx_firstSeen_concat (values : List Value) (last : Value) (n : Nat) :
    values.findIdx (fun v => firstSeen (distinct (values ++ [last])) v == n) =
      values.findIdx (fun v => firstSeen (distinct values) v == n) := by
  apply Nat.le_antisymm
  all_goals
    apply List.findIdx_le_findIdx
    intro v hv
    rw [firstSeen_distinct_concat last hv]
    exact id

/-- Each distinct value stands for one of the values, as it is one of them. -/
theorem findIdx_firstSeen_lt {n : Nat} (hn : n < (distinct values).length) :
    values.findIdx (fun v => firstSeen (distinct values) v == n) < values.length := by
  have hfirst := find?_distinct (List.getElem?_eq_getElem hn)
  have hplace := List.find?_some (p := fun v => firstSeen (distinct values) v == n) hfirst
  exact List.findIdx_lt_length.mpr ⟨_, List.mem_of_find?_eq_some hfirst, hplace⟩

/-- What distinct values stand for comes first in the order in which they stand. -/
theorem findIdx_distinct_lt {m n : Nat} (hmn : m < n) (hn : n < (distinct values).length) :
    values.findIdx (fun v => firstSeen (distinct values) v == m) <
      values.findIdx (fun v => firstSeen (distinct values) v == n) := by
  induction values using List.reverseRecOn with
  | nil => cases hn
  | append_singleton values last ih =>
    have hbelow : m < (distinct values).length := by
      rw [distinct_concat] at hn
      split at hn
      · omega
      · rw [List.length_append, List.length_singleton] at hn
        omega
    have hm := findIdx_firstSeen_lt hbelow
    rw [List.findIdx_append, List.findIdx_append, findIdx_firstSeen_concat,
      findIdx_firstSeen_concat, if_pos hm]
    -- Only the last value can be the first one of a new distinct value.
    by_cases hlt : n < (distinct values).length
    · rw [if_pos (findIdx_firstSeen_lt hlt)]
      exact ih hlt
    · split
      next hfound =>
        obtain ⟨v, hv, hplace⟩ := List.findIdx_lt_length.mp hfound
        have hlt' := firstSeen_distinct_lt hv
        rw [beq_iff_eq.mp hplace] at hlt'
        omega
      next => omega

/-- Equality by size finds exactly the members of a list without floats. -/
theorem any_looseEq_iff {values : List Value} {v : Value} (h : ∀ w ∈ values, w.FloatFree)
    (hv : v.FloatFree) : values.any (·.looseEq v) = true ↔ v ∈ values := by
  rw [List.any_eq_true]
  constructor
  · rintro ⟨w, hw, hequal⟩
    rwa [← (Value.looseEq_iff_eq (h w hw) hv).mp hequal]
  · intro hmem
    exact ⟨v, hmem, (Value.looseEq_iff_eq hv hv).mpr rfl⟩

theorem mem_distinct_iff {values : List Value} (h : ∀ v ∈ values, v.FloatFree) {v : Value} :
    v ∈ distinct values ↔ v ∈ values := by
  induction values using List.reverseRecOn generalizing v with
  | nil => exact Iff.rfl
  | append_singleton values last ih =>
    obtain ⟨hvalues, hlast⟩ := List.forall_mem_append.mp h
    have hsame : ∀ w, w ∈ distinct values ↔ w ∈ values := fun w => ih hvalues
    have hseen : (distinct values).any (·.looseEq last) = true ↔ last ∈ values := by
      rw [any_looseEq_iff (fun w hw => hvalues w ((hsame w).mp hw))
        (hlast last List.mem_cons_self), hsame]
    rw [distinct_concat, List.mem_append, List.mem_singleton]
    split
    next hmem =>
      rw [hsame]
      refine ⟨Or.inl, ?_⟩
      rintro (hv | rfl)
      · exact hv
      · exact hseen.mp hmem
    next => rw [List.mem_append, List.mem_singleton, hsame]

/-- Distinct values stand in the order in which they were first seen. -/
theorem pairwise_distinct {values : List Value} (h : ∀ v ∈ values, v.FloatFree) :
    (distinct values).Pairwise fun v w => firstSeen values v < firstSeen values w := by
  induction values using List.reverseRecOn with
  | nil => exact List.Pairwise.nil
  | append_singleton values last ih =>
    obtain ⟨hvalues, hlast⟩ := List.forall_mem_append.mp h
    have hlast : last.FloatFree := hlast last List.mem_cons_self
    have hsame : ∀ {w}, w ∈ distinct values ↔ w ∈ values := mem_distinct_iff hvalues
    have hfree : ∀ w ∈ distinct values, w.FloatFree := fun w hw => hvalues w (hsame.mp hw)
    have hkept : (distinct values).Pairwise fun v w =>
        firstSeen (values ++ [last]) v < firstSeen (values ++ [last]) w := by
      apply (ih hvalues).imp_of_mem
      intro v w hv hw hlt
      rwa [Value.firstSeen_append (Value.firstSeen_lt (hsame.mp hv)),
        Value.firstSeen_append (Value.firstSeen_lt (hsame.mp hw))]
    rw [distinct_concat]
    split
    next => exact hkept
    next hnew =>
      have hunseen : values.any (·.looseEq last) = false := by
        rw [Bool.eq_false_iff]
        intro hseen
        rw [any_looseEq_iff hvalues hlast] at hseen
        exact hnew ((any_looseEq_iff hfree hlast).mpr (hsame.mpr hseen))
      refine List.pairwise_append.mpr ⟨hkept, List.pairwise_singleton _ _, ?_⟩
      intro v hv w hw
      have hplace : firstSeen values v < values.length := Value.firstSeen_lt (hsame.mp hv)
      rw [List.mem_singleton.mp hw, Value.firstSeen_concat hunseen, Value.firstSeen_append hplace]
      exact hplace

theorem nodup_distinct {values : List Value} (h : ∀ v ∈ values, v.FloatFree) :
    (distinct values).Nodup := by
  refine (pairwise_distinct h).imp ?_
  rintro v w hlt rfl
  exact absurd hlt (Nat.lt_irrefl _)

theorem filter_looseEq_of_nodup {values : List Value} (h : ∀ v ∈ values, v.FloatFree)
    (hnodup : values.Nodup) {v : Value} (hv : v ∈ values) : values.filter (·.looseEq v) = [v] := by
  have hfree : v.FloatFree := h v hv
  induction values with
  | nil => cases hv
  | cons w rest ih =>
    obtain ⟨hw, hrest⟩ := List.forall_mem_cons.mp h
    obtain ⟨hnot, hothers⟩ := List.nodup_cons.mp hnodup
    rcases List.mem_cons.mp hv with rfl | hmem
    · have hothers : rest.filter (·.looseEq v) = [] := by
        apply List.filter_eq_nil_iff.mpr
        intro u hu hequal
        rw [(Value.looseEq_iff_eq (hrest u hu) hfree).mp hequal] at hu
        exact hnot hu
      rw [List.filter_cons, if_pos (Value.looseEq_self v), hothers]
    · have hne : ¬ w.looseEq v = true := by
        intro hequal
        rw [(Value.looseEq_iff_eq hw hfree).mp hequal] at hnot
        exact hnot hmem
      rw [List.filter_cons, if_neg hne]
      exact ih hrest hothers hmem

/-- A list with exactly one of the values of each size, in the order in which they were first
seen. -/
structure IsSet (values set : List Value) : Prop where
  sound : ∀ v ∈ set, v ∈ values
  once : ∀ v ∈ values, set.filter (·.looseEq v) = [v]
  inOrder : set.Pairwise fun v w => firstSeen values v < firstSeen values w

theorem isSet_distinct {values : List Value} (h : ∀ v ∈ values, v.FloatFree) :
    IsSet values (distinct values) where
  sound v hv := (mem_distinct_iff h).mp hv
  once v hv := by
    have hfree : ∀ w ∈ distinct values, w.FloatFree := fun w hw => h w ((mem_distinct_iff h).mp hw)
    exact filter_looseEq_of_nodup hfree (nodup_distinct h) ((mem_distinct_iff h).mpr hv)
  inOrder := pairwise_distinct h

theorem distinct_perm {values others : List Value} (h : ∀ v ∈ values, v.FloatFree)
    (hperm : others.Perm values) : (distinct others).Perm (distinct values) := by
  have h' : ∀ v ∈ others, v.FloatFree := fun v hv => h v (hperm.subset hv)
  rw [List.perm_ext_iff_of_nodup (nodup_distinct h') (nodup_distinct h)]
  intro v
  rw [mem_distinct_iff h', mem_distinct_iff h, hperm.mem_iff]

end Distinct

/-- Over values without floats the least and the greatest of those that are not null are
accumulated, or null if there are none, and the set of them in the order in which they were
first seen. In any other order of the documents these are the same values and a set of the
same members. -/
theorem order_insensitive (name : String) (x : Value) (members : List Document)
    (h : ∀ d ∈ members, (Expression.evaluate d x).FloatFree) :
    let values := members.map fun d => Expression.evaluate d x
    let accumulated (a : Accumulator) (docs : List Document) : Value :=
      Group.Field.value ⟨name, a, x⟩ docs
    IsExtreme AtMost values (accumulated .min members) ∧
      IsExtreme (fun v w => AtMost w v) values (accumulated .max members) ∧
      (∃ set, accumulated .addToSet members = .array set ∧
        IsSet (values.filter (!·.isNull)) set) ∧
      ∀ others : List Document, others.Perm members →
        accumulated .min others = accumulated .min members ∧
          accumulated .max others = accumulated .max members ∧
          ∃ set set', accumulated .addToSet members = .array set ∧
            accumulated .addToSet others = .array set' ∧ set'.Perm set := by
  intro values accumulated
  have hfree : ∀ v ∈ values, v.FloatFree := List.forall_mem_map.mpr h
  refine ⟨isExtreme_min hfree, isExtreme_max hfree,
    ⟨_, rfl, isSet_distinct (floatFree_present hfree)⟩, ?_⟩
  intro others hperm
  have hvalues : (others.map fun d => Expression.evaluate d x).Perm values := hperm.map _
  have hfree' : ∀ v ∈ others.map fun d => Expression.evaluate d x, v.FloatFree :=
    fun v hv => hfree v (hvalues.subset hv)
  refine ⟨?_, ?_, _, _, rfl, rfl, ?_⟩
  · apply (isExtreme_min hfree).unique ?_ hvalues (isExtreme_min hfree')
    intro a ha b hb hab hba
    exact Value.eq_of_atMost (hfree a ha) (hfree b hb) hab hba
  · apply (isExtreme_max hfree).unique ?_ hvalues (isExtreme_max hfree')
    intro a ha b hb hab hba
    exact Value.eq_of_atMost (hfree a ha) (hfree b hb) hba hab
  · exact distinct_perm (floatFree_present hfree) (hvalues.filter _)

/-- Winds of one state, the same value twice, one in words, and a station without one. -/
def gusts : List Document :=
  [⟨[("wind", .int 5)]⟩, ⟨[]⟩, ⟨[("wind", .string "calm")]⟩, ⟨[("wind", .int 5)]⟩,
    ⟨[("wind", .int 2)]⟩]

theorem order_insensitive_gusts :
    let values := gusts.map fun d => Expression.evaluate d (.string "$wind")
    let accumulated (a : Accumulator) (docs : List Document) : Value :=
      Group.Field.value ⟨"wind", a, .string "$wind"⟩ docs
    (∀ v ∈ values, v.FloatFree) ∧ IsExtreme AtMost values (.int 2) ∧
      accumulated .min gusts.reverse = .int 2 ∧
      accumulated .max gusts.reverse = .string "calm" ∧
      IsSet (values.filter (!·.isNull)) [.int 5, .string "calm", .int 2] := by
  intro values accumulated
  have hfree : ∀ d ∈ gusts, (Expression.evaluate d (.string "$wind")).FloatFree := by
    decide +kernel
  have hgusts := order_insensitive "wind" (.string "$wind") gusts hfree
  have hreverse := hgusts.2.2.2 gusts.reverse (List.reverse_perm gusts)
  obtain ⟨set, haccumulated, hset⟩ := hgusts.2.2.1
  have hmembers : set = [.int 5, .string "calm", .int 2] := by
    cases haccumulated
    rfl
  refine ⟨List.forall_mem_map.mpr hfree, hgusts.1, hreverse.1, hreverse.2.1, ?_⟩
  rw [← hmembers]
  exact hset

end QuerySets.Accumulator
