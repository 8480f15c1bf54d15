import Mathlib.Data.List.TakeWhile
import QuerySets.Execution.Masking
import QuerySets.Proofs.Value.Nodes

/-!
What masking does to texts and to other scalars. Each kind of mask is described by what it
leaves at which place of a text; numbers become zero, and no other kind can be masked.
-/

namespace QuerySets

namespace FieldMasks

/-- What becomes of a text under a mask. The last two kinds go through it place by place. -/
def Obscures : MaskType → List Char → List Char → Prop
  | .all, _, out | .remove, _, out => out = List.replicate 6 '*'
  | .email, cs, out => ∃ name address, '@' ∉ name ∧ cs = name ++ '@' :: address ∧
      out = List.replicate 6 '*' ++ '@' :: address
  | .left n, cs, out => out = cs.mapIdx fun i c => if i < n then '*' else c
  | .right n, cs, out => out = cs.mapIdx fun i c => if i + n < cs.length then c else '*'

/-- What stands after the first sign, which is there if anything is. -/
theorem dropWhile_eq_cons_iff {cs address : List Char} {c : Char} :
    cs.dropWhile (· ≠ '@') = c :: address ↔
      ∃ name, '@' ∉ name ∧ cs = name ++ '@' :: address ∧ c = '@' := by
  induction cs with
  | nil => simp
  | cons d rest ih =>
    by_cases hd : d = '@'
    · subst hd
      simp only [ne_eq, not_true_eq_false, decide_false, List.dropWhile_cons, Bool.false_eq_true,
        if_false, List.cons.injEq]
      constructor
      · rintro ⟨rfl, rfl⟩
        exact ⟨[], by simp, rfl, rfl⟩
      · rintro ⟨name, hname, heq, rfl⟩
        cases name with
        | nil =>
          cases heq
          exact ⟨rfl, rfl⟩
        | cons first others =>
          cases heq
          simp at hname
    · rw [List.dropWhile_cons_of_pos (by simpa using hd), ih]
      constructor
      · rintro ⟨name, hname, rfl, rfl⟩
        exact ⟨d :: name, by simp [hname, Ne.symm hd], rfl, rfl⟩
      · rintro ⟨name, hname, heq, rfl⟩
        cases name with
        | nil =>
          cases heq
          exact absurd rfl hd
        | cons first others =>
          cases heq
          exact ⟨others, fun hmem => hname (List.mem_cons_of_mem _ hmem), rfl, rfl⟩

theorem stars_append_drop (n : Nat) (cs : List Char) :
    stars (min n cs.length) ++ cs.drop n = cs.mapIdx fun i c => if i < n then '*' else c := by
  apply List.ext_getElem
  · simp [stars]
    omega
  · intro i hi hi'
    rw [List.length_mapIdx] at hi'
    rw [List.getElem_mapIdx]
    by_cases hn : i < n
    · have hstars : i < (stars (min n cs.length)).length := by
        simp [stars]
        omega
      rw [List.getElem_append_left hstars, if_pos hn]
      exact List.getElem_replicate _
    · have hstars : (stars (min n cs.length)).length ≤ i := by
        simp [stars]
        omega
      have hlength : (stars (min n cs.length)).length = n := by
        simp [stars]
        omega
      have hindex : n + (i - n) = i := by omega
      simp only [List.getElem_append_right hstars, List.getElem_drop, hlength, hindex, if_neg hn]

theorem take_append_stars (n : Nat) (cs : List Char) :
    cs.take (cs.length - n) ++ stars (min n cs.length) =
      cs.mapIdx fun i c => if i + n < cs.length then c else '*' := by
  apply List.ext_getElem
  · simp [stars]
    omega
  · intro i hi hi'
    rw [List.length_mapIdx] at hi'
    rw [List.getElem_mapIdx]
    by_cases hn : i + n < cs.length
    · have htaken : i < (cs.take (cs.length - n)).length := by
        rw [List.length_take]
        omega
      rw [List.getElem_append_left htaken, List.getElem_take, if_pos hn]
    · have htaken : (cs.take (cs.length - n)).length ≤ i := by
        rw [List.length_take]
        omega
      rw [List.getElem_append_right htaken, if_neg hn]
      exact List.getElem_replicate _

theorem obscure?_eq_some_iff {type : MaskType} {cs out : List Char} :
    obscure? type cs = some out ↔ Obscures type cs out := by
  cases type with
  | all => exact Option.some_inj.trans eq_comm
  | remove => exact Option.some_inj.trans eq_comm
  | email =>
    simp only [obscure?, Obscures]
    constructor
    · intro h
      cases haddress : cs.dropWhile (· ≠ '@') with
      | nil =>
        rw [haddress] at h
        cases h
      | cons c address =>
        rw [haddress] at h
        cases h
        obtain ⟨name, hname, hcs, rfl⟩ := dropWhile_eq_cons_iff.mp haddress
        exact ⟨name, address, hname, hcs, rfl⟩
    · rintro ⟨name, address, hname, hcs, rfl⟩
      rw [dropWhile_eq_cons_iff.mpr ⟨name, hname, hcs, rfl⟩]
      rfl
  | left n => rw [obscure?, stars_append_drop, Obscures, Option.some_inj, eq_comm]
  | right n => rw [obscure?, take_append_stars, Obscures, Option.some_inj, eq_comm]

/-- Every kind of mask leaves a text that it would leave as it is. -/
theorem Obscures.again {type : MaskType} {cs out : List Char} (h : Obscures type cs out) :
    Obscures type out out := by
  cases type with
  | all => exact h
  | remove => exact h
  | email =>
    obtain ⟨name, address, -, -, rfl⟩ := h
    exact ⟨List.replicate 6 '*', address, by decide, rfl, rfl⟩
  | left n =>
    subst h
    rw [Obscures, List.mapIdx_mapIdx]
    apply congrArg (List.mapIdx · cs)
    funext i c
    by_cases hn : i < n <;> simp [hn]
  | right n =>
    subst h
    rw [Obscures, List.mapIdx_mapIdx, List.length_mapIdx]
    apply congrArg (List.mapIdx · cs)
    funext i c
    by_cases hn : i + n < cs.length <;> simp [hn]

/-- Only a text without the sign cannot be obscured, and only as an address. -/
theorem exists_obscures_iff {type : MaskType} {cs : List Char} :
    (∃ out, Obscures type cs out) ↔ (type = .email → '@' ∈ cs) := by
  cases type with
  | email =>
    constructor
    · rintro ⟨out, name, address, -, rfl, -⟩ -
      simp
    · intro h
      cases haddress : cs.dropWhile (· ≠ '@') with
      | nil => simpa using List.dropWhile_eq_nil_iff.mp haddress '@' (h rfl)
      | cons c address =>
        obtain ⟨name, hname, hcs, -⟩ := dropWhile_eq_cons_iff.mp haddress
        exact ⟨_, name, address, hname, hcs, rfl⟩
  | _ => simp [Obscures]

/-- A scalar that a mask knows how to obscure. -/
def Maskable (type : MaskType) : Value → Prop
  | .int _ | .float _ => True
  | .string s => type = .email → '@' ∈ s.toList
  | _ => False

/-- A scalar may stand in a field if the field has no mask, or one that it can be obscured
by. -/
def Accepts (masks : FieldMasks) (field : String) (x : Value) : Prop :=
  ∀ type, masks.get? field = some type → Maskable type x

/-- What becomes of a scalar of a field. -/
inductive Covers (masks : FieldMasks) (field : String) : Value → Value → Prop
  | unmasked (v : Value) (h : masks.get? field = none) : Covers masks field v v
  | int {type : MaskType} (h : masks.get? field = some type) (n : Int64) :
      Covers masks field (.int n) (.int 0)
  | float {type : MaskType} (h : masks.get? field = some type) (x : Float) :
      Covers masks field (.float x) (.float 0)
  | string {type : MaskType} (h : masks.get? field = some type) {s t : String}
      (ht : Obscures type s.toList t.toList) : Covers masks field (.string s) (.string t)

theorem Covers.isScalar {masks : FieldMasks} {field : String} {v w : Value}
    (h : masks.Covers field v w) (hv : v.IsScalar) : w.IsScalar := by
  cases h with
  | unmasked => exact hv
  | int | float | string => trivial

theorem Covers.again {masks : FieldMasks} {field : String} {v w : Value}
    (h : masks.Covers field v w) : masks.Covers field w w := by
  cases h with
  | unmasked v h => exact .unmasked v h
  | int h => exact .int h 0
  | float h => exact .float h 0
  | string h ht => exact .string h ht.again

/-- What masking comes to: the masked content, or the fault that it stopped at. -/
def outcome {α : Type} : α × Option MaskingFault → Except MaskingFault α
  | (masked, none) => .ok masked
  | (_, some fault) => .error fault

theorem outcome_eq_ok_iff {α : Type} {result : α × Option MaskingFault} {a : α} :
    outcome result = .ok a ↔ result = (a, none) := by
  obtain ⟨masked, fault⟩ := result
  cases fault <;> simp [outcome]

variable {masks : FieldMasks} {field : String} {type : MaskType}

theorem outcome_maskScalar_of_unmasked (h : masks.get? field = none) (v : Value) :
    outcome (masks.maskScalar field v) = .ok v := by
  simp only [maskScalar, h]
  rfl

theorem outcome_maskScalar_of_masked (h : masks.get? field = some type) (v : Value) :
    outcome (masks.maskScalar field v) = obscureScalar field type v := by
  simp only [maskScalar, h]
  cases obscureScalar field type v <;> rfl

theorem obscureScalar_string {s : String} {w : Value} :
    obscureScalar field type (.string s) = .ok w ↔
      ∃ t : String, Obscures type s.toList t.toList ∧ .string t = w := by
  simp only [obscureScalar, ← obscure?_eq_some_iff]
  cases hcover : obscure? type s.toList with
  | none => simp
  | some out =>
    constructor
    · intro h
      cases h
      exact ⟨String.ofList out, by rw [String.toList_ofList], rfl⟩
    · rintro ⟨t, ht, rfl⟩
      cases ht
      simp only [String.ofList_toList]

/-- The masked form of a scalar is what its mask makes of it. -/
theorem outcome_maskScalar_eq_ok_iff {v w : Value} :
    outcome (masks.maskScalar field v) = .ok w ↔ masks.Covers field v w := by
  cases hmask : masks.get? field with
  | none =>
    rw [outcome_maskScalar_of_unmasked hmask]
    constructor
    · intro h
      cases h
      exact .unmasked v hmask
    · intro h
      cases h with
      | unmasked => rfl
      | int h | float h | string h => simp [hmask] at h
  | some type =>
    rw [outcome_maskScalar_of_masked hmask]
    constructor
    · intro h
      cases v with
      | int n =>
        cases h
        exact .int hmask n
      | float x =>
        cases h
        exact .float hmask x
      | string s =>
        obtain ⟨t, ht, rfl⟩ := obscureScalar_string.mp h
        exact .string hmask ht
      | _ => cases h
    · intro h
      cases h with
      | unmasked _ h => simp [hmask] at h
      | int | float => rfl
      | string h ht =>
        rw [hmask] at h
        cases h
        exact obscureScalar_string.mpr ⟨_, ht, rfl⟩

/-- A scalar can be masked exactly if its field accepts it. -/
theorem exists_covers_iff {v : Value} :
    (∃ w, masks.Covers field v w) ↔ masks.Accepts field v := by
  constructor
  · rintro ⟨w, hw⟩ type hmask
    cases hw with
    | unmasked _ h => simp [hmask] at h
    | int | float => trivial
    | string h ht =>
      rw [hmask] at h
      cases h
      exact exists_obscures_iff.mp ⟨_, ht⟩
  · intro h
    cases hmask : masks.get? field with
    | none => exact ⟨v, .unmasked v hmask⟩
    | some type =>
      have hv := h type hmask
      cases v with
      | int n => exact ⟨_, .int hmask n⟩
      | float x => exact ⟨_, .float hmask x⟩
      | string s =>
        obtain ⟨out, hout⟩ := exists_obscures_iff.mpr hv
        exact ⟨_, .string hmask (t := String.ofList out) (by rwa [String.toList_ofList])⟩
      | _ => exact hv.elim

end FieldMasks

end QuerySets
