/-!
Steps that can be refused. What is told of such a step goes with the state after it, which
is the old one if the step was refused.
-/

namespace QuerySets

variable {ε σ τ : Type}

/-- What is told of a step, and the state after it. -/
def settle (old : σ) (granted : τ) (result : Except ε σ) : Except ε τ × σ :=
  match result with
  | .ok new => (.ok granted, new)
  | .error e => (.error e, old)

/-- A step is refused and changes nothing, or it is granted and leaves its result. -/
theorem settle_cases {old new : σ} {granted : τ} {result : Except ε σ} {told : Except ε τ}
    (h : settle old granted result = (told, new)) :
    (∃ e, result = .error e ∧ told = .error e ∧ new = old) ∨
      result = .ok new ∧ told = .ok granted := by
  cases result with
  | error e =>
    cases h
    exact Or.inl ⟨e, rfl, rfl, rfl⟩
  | ok after =>
    cases h
    exact Or.inr ⟨rfl, rfl⟩

end QuerySets
