import QuerySets.Expression

/-!
What an expression depends on: the paths that it reads. Documents in which these lead to the
same values give it the same value.
-/

namespace QuerySets

theorem Text.unmark?_mark (name : String) : Text.unmark? ("$" ++ name) = some name := by
  have hchars : ("$" ++ name).toList = '$' :: name.toList := by
    rw [String.toList_append]
    rfl
  rw [Text.unmark?, hchars]
  exact congrArg some String.ofList_toList

namespace Expression

/-- A path with a dollar sign in front reads what the path leads to, or null. -/
theorem evaluate_reference {path : String} (h : Text.isMarked path = false) (d : Document) :
    evaluate d (.string ("$" ++ path)) = (d.getPath? path).getD .null := by
  have href : reference? ("$" ++ path) = some path := by
    rw [reference?, Text.unmark?_mark]
    simp [h]
  rw [evaluate, href]

mutual
/-- The paths that an expression reads. -/
def references : Value → List String
  | .string s => (reference? s).toList
  | .array items => itemsReferences items
  | .document ⟨[(key, argument)]⟩ => if key = "$literal" then [] else references argument
  | .document ⟨entries⟩ => entriesReferences entries
  | _ => []

def itemsReferences : List Value → List String
  | [] => []
  | v :: rest => references v ++ itemsReferences rest

def entriesReferences : List (String × Value) → List String
  | [] => []
  | (_, v) :: rest => references v ++ entriesReferences rest
end

/-- What the expression reads is the same in both documents. -/
def ReadsAlike (d e : Document) (paths : List String) : Prop :=
  ∀ path ∈ paths, d.getPath? path = e.getPath? path

section ReadsAlike

variable {d e : Document}

/-- An operator on one argument, or an object with one field. -/
theorem evaluate_single {key : String} {argument : Value} (hliteral : key ≠ "$literal")
    (hsingle : argument.array? = none) :
    evaluate d (.document ⟨[(key, argument)]⟩) =
      if !Text.isMarked key then .document ⟨[(key, evaluate d argument)]⟩
      else apply key [evaluate d argument] := by
  rw [evaluate, if_neg hliteral]
  rintro items rfl
  cases hsingle

-- By the recursion of the evaluation itself: on the value, the items and the entries.
mutual
/-- An expression depends on what it reads alone. -/
theorem evaluate_eq_of_readsAlike : ∀ x : Value, ReadsAlike d e (references x) →
    evaluate d x = evaluate e x
  | .string s, h => by
    rw [evaluate, evaluate]
    cases href : reference? s with
    | none => rfl
    | some path =>
      have hread : path ∈ references (.string s) := by
        rw [references, href]
        exact List.mem_singleton_self path
      exact congrArg (Option.getD · Value.null) (h path hread)
  | .array items, h => by
    rw [evaluate, evaluate, evaluateItems_eq_of_readsAlike items h]
  | .document ⟨[]⟩, _ => rfl
  | .document ⟨[(key, argument)]⟩, h => by
    by_cases hliteral : key = "$literal"
    · subst hliteral
      cases argument <;> rfl
    · rw [references, if_neg hliteral] at h
      have hargument := evaluate_eq_of_readsAlike argument h
      cases argument with
      | array items =>
        have hitems : evaluateItems d items = evaluateItems e items := by
          rw [evaluate, evaluate] at hargument
          exact Value.array.inj hargument
        simp only [evaluate, hitems]
      | _ => rw [evaluate_single hliteral, evaluate_single hliteral, hargument] <;> rfl
  | .document ⟨first :: second :: rest⟩, h => by
    have hentries := evaluateEntries_eq_of_readsAlike (first :: second :: rest) h
    exact congrArg (fun entries => Value.document ⟨entries⟩) hentries
  | .null, _ => rfl
  | .bool _, _ => rfl
  | .int _, _ => rfl
  | .float _, _ => rfl
  | .date _, _ => rfl
  | .objectId _, _ => rfl
  | .regex _ _, _ => rfl

theorem evaluateItems_eq_of_readsAlike : ∀ items : List Value,
    ReadsAlike d e (itemsReferences items) → evaluateItems d items = evaluateItems e items
  | [], _ => rfl
  | v :: rest, h => by
    obtain ⟨hv, hrest⟩ := List.forall_mem_append.mp h
    rw [evaluateItems, evaluateItems, evaluate_eq_of_readsAlike v hv,
      evaluateItems_eq_of_readsAlike rest hrest]

theorem evaluateEntries_eq_of_readsAlike : ∀ entries : List (String × Value),
    ReadsAlike d e (entriesReferences entries) →
      evaluateEntries d entries = evaluateEntries e entries
  | [], _ => rfl
  | (key, v) :: rest, h => by
    obtain ⟨hv, hrest⟩ := List.forall_mem_append.mp h
    rw [evaluateEntries, evaluateEntries, evaluate_eq_of_readsAlike v hv,
      evaluateEntries_eq_of_readsAlike rest hrest]
end

end ReadsAlike

end Expression

end QuerySets
