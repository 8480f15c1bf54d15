import QuerySets.Proofs.Document.Path

/-!
Paths through documents alone. A value is taken away only where a path leads to it in this way,
while reading goes on through arrays as well. The two lead to the same values as long as there is
no array on the way.
-/

namespace QuerySets.Value

/-- The value that a path leads to through documents alone. -/
def within? : Path → Value → Option Value
  | [], v => some v
  | key :: rest, .document d => (d.get? key).bind (within? rest)
  | _ :: _, _ => none

/-- Before its end the path comes to an array, through documents alone. -/
def MeetsArray (p : Path) (v : Value) : Prop :=
  ∃ r items, r <+: p ∧ r ≠ p ∧ v.within? r = some (.array items)

theorem meetsArray_iff_inits {p : Path} {v : Value} :
    MeetsArray p v ↔ ∃ r ∈ p.inits, r ≠ p ∧ (v.within? r).any (·.array?.isSome) = true := by
  simp only [MeetsArray, List.mem_inits, Option.any_eq_true, Option.isSome_iff_exists]
  constructor
  · rintro ⟨r, items, hr, hne, harray⟩
    exact ⟨r, hr, hne, _, harray, items, rfl⟩
  · rintro ⟨r, hr, hne, w, hw, items, hitems⟩
    refine ⟨r, items, hr, hne, ?_⟩
    cases w <;> cases hitems
    exact hw

instance (p : Path) (v : Value) : Decidable (MeetsArray p v) :=
  decidable_of_iff _ meetsArray_iff_inits.symm

theorem meetsArray_array (key : String) (rest : Path) (items : List Value) :
    MeetsArray (key :: rest) (.array items) :=
  ⟨[], items, List.nil_prefix, (List.cons_ne_nil key rest).symm, rfl⟩

/-- An array that is met below a field is met from above it. -/
theorem meetsArray_of_field {d : Document} {key : String} {rest : Path} {w : Value}
    (hfield : d.get? key = some w) (h : MeetsArray rest w) :
    MeetsArray (key :: rest) (.document d) := by
  obtain ⟨r, items, hr, hne, harray⟩ := h
  refine ⟨key :: r, items, List.cons_prefix_cons.mpr ⟨rfl, hr⟩, ?_, ?_⟩
  · exact fun heq => hne (List.cons.inj heq).2
  · rw [within?, hfield]
    exact harray

theorem at?_of_within? {p : Path} {v w : Value} (h : v.within? p = some w) :
    v.at? p = some w := by
  induction p generalizing v with
  | nil => exact h
  | cons key rest ih =>
    cases v with
    | document d =>
      obtain ⟨u, hfield, hrest⟩ := Option.bind_eq_some_iff.mp h
      rw [at?, step?, hfield]
      exact ih hrest
    | _ => cases h

/-- Without an array on the way a path leads only through documents. -/
theorem at?_eq_within? {p : Path} {v : Value} (h : ¬ MeetsArray p v) :
    v.at? p = v.within? p := by
  induction p generalizing v with
  | nil => rfl
  | cons key rest ih =>
    cases v with
    | document d =>
      rw [at?, step?, within?]
      cases hfield : d.get? key with
      | none => rfl
      | some w => exact ih fun hmeets => h (meetsArray_of_field hfield hmeets)
    | array items => exact absurd (meetsArray_array key rest items) h
    | _ => rfl

end QuerySets.Value
