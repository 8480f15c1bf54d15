import QuerySets.Proofs.Document.Within
import QuerySets.Proofs.Filter.Composition
import QuerySets.Proofs.Value.Equality

/-!
What a filter finds at a path beside what reading finds there. Reading takes one way through
documents and arrays, a filter all of them, so it always finds what reading does. Without an
array on the way there is only one way, and then they find the same.
-/

namespace QuerySets.Filter

open Value (MeetsArray)

section Collect

theorem collectField_eq (key : String) (rest : Path) (entries : List (String × Value)) :
    collectField key rest entries =
      ((entries.lookup key).map (collect · rest)).getD [] := by
  induction entries with
  | nil => rfl
  | cons entry others ih =>
    obtain ⟨k, v⟩ := entry
    rw [collectField, Association.lookup_cons]
    split
    · rfl
    · exact ih

theorem collectNumbered_eq (n : Nat) (rest : Path) (items : List Value) :
    collectNumbered n rest items = ((items[n]?).map (collect · rest)).getD [] := by
  induction items generalizing n with
  | nil => rfl
  | cons v others ih =>
    cases n with
    | zero => rfl
    | succ n => exact ih n

theorem collect_nil (v : Value) : collect v [] = v :: v.array?.getD [] := by
  cases v <;> rfl

theorem collect_document (d : Document) (key : String) (rest : Path) :
    collect (.document d) (key :: rest) = ((d.get? key).map (collect · rest)).getD [] :=
  collectField_eq key rest d.entries

theorem candidates_eq (d : Document) (path : String) :
    candidates d path = collect (.document d) (Path.ofString path) := by
  obtain ⟨key, rest, hpath⟩ := List.exists_cons_of_ne_nil (Path.ofString_ne_nil path)
  rw [candidates, hpath, collect_document]
  dsimp only
  cases d.get? key <;> rfl

/-- What reading finds is among what is collected. -/
theorem mem_collect {p : Path} {v w : Value} (h : v.at? p = some w) : w ∈ collect v p := by
  induction p generalizing v with
  | nil =>
    obtain rfl : v = w := Option.some.inj h
    rw [collect_nil]
    exact List.mem_cons_self
  | cons segment rest ih =>
    obtain ⟨u, hstep, hrest⟩ := Option.bind_eq_some_iff.mp h
    cases v with
    | document d =>
      have hfield : d.get? segment = some u := hstep
      rw [collect_document, hfield]
      exact ih hrest
    | array items =>
      obtain ⟨n, hnumber, hitem⟩ := Option.bind_eq_some_iff.mp hstep
      rw [collect, hnumber]
      refine List.mem_append_left _ ?_
      change w ∈ collectNumbered n rest items
      rw [collectNumbered_eq, hitem]
      exact ih hrest
    | _ => cases hstep

theorem mem_candidates {d : Document} {path : String} {v : Value} (h : d.getPath? path = some v) :
    v ∈ candidates d path := by
  rw [candidates_eq]
  exact mem_collect h

/-- Without an array on the way the value that is read is collected, with its items. -/
theorem collect_of_not_meetsArray {p : Path} {v : Value} (h : ¬ MeetsArray p v) :
    collect v p = ((v.at? p).map fun w => w :: w.array?.getD []).getD [] := by
  induction p generalizing v with
  | nil => exact collect_nil v
  | cons key rest ih =>
    cases v with
    | document d =>
      rw [collect_document, Value.at?, Value.step?]
      cases hfield : d.get? key with
      | none => rfl
      | some w => exact ih fun hmeets => h (Value.meetsArray_of_field hfield hmeets)
    | array items => exact absurd (Value.meetsArray_array key rest items) h
    | _ => rfl

/-- From where a path has led through documents alone, the rest of it is collected. -/
theorem collect_append {front : Path} {v w : Value} (h : v.within? front = some w)
    (back : Path) : collect v (front ++ back) = collect w back := by
  induction front generalizing v with
  | nil =>
    obtain rfl : v = w := Option.some.inj h
    rfl
  | cons key rest ih =>
    cases v with
    | document d =>
      obtain ⟨u, hfield, hrest⟩ := Option.bind_eq_some_iff.mp h
      rw [List.cons_append, collect_document, hfield]
      exact ih hrest
    | _ => cases h

end Collect

section Field

variable {path : String} (hpath : Text.isMarked path = false) (d : Document)

include hpath

/-- A field is there for a filter if there is anything at its path. -/
theorem selects_exists :
    Selects (onField path "$exists" (.bool true)) d ↔ candidates d path ≠ [] := by
  have hcompile : Condition.compile (.document (clause "$exists" (.bool true))) =
      .ok (.present true) := compile_operator rfl (by decide) _
  rw [onField, selects_field hpath, hcompile, gives_ok, Condition.holds]
  cases candidates d path <;> simp

theorem selects_eq (v : Value) :
    Selects (onField path "$eq" v) d ↔ equals (candidates d path) v = true := by
  have hcompile : Condition.compile (.document (clause "$eq" v)) = .ok (.eq v) :=
    compile_operator rfl (by decide) _
  rw [onField, selects_field hpath, hcompile, gives_ok, Condition.holds]

end Field

theorem equals_of_mem {values : List Value} {v : Value} (h : v ∈ values) :
    equals values v = true := by
  have hany : values.any (·.looseEq v) = true :=
    List.any_eq_true.mpr ⟨v, h, Value.looseEq_self v⟩
  cases values with
  | nil => cases h
  | cons first others => exact hany

/-- The value that is read at a path is one of those that a filter finds there, so the filters
that ask for the field or for this value accept the document. If the path leads to its end
through documents alone, then a filter finds nothing where nothing is read, and otherwise the
value with its items in their order, if it has any. -/
theorem readers_agree (d : Document) (path : String) (hpath : Text.isMarked path = false) :
    (∀ v, d.getPath? path = some v → v ∈ candidates d path ∧
      Selects (onField path "$exists" (.bool true)) d ∧ Selects (onField path "$eq" v) d) ∧
    (¬ MeetsArray (Path.ofString path) (.document d) →
      (candidates d path = [] ↔ d.getPath? path = none) ∧
      ∀ v, d.getPath? path = some v → candidates d path = v :: v.array?.getD []) := by
  constructor
  · intro v hread
    have hmem : v ∈ candidates d path := mem_candidates hread
    refine ⟨hmem, (selects_exists hpath d).mpr (List.ne_nil_of_mem hmem), ?_⟩
    exact (selects_eq hpath d v).mpr (equals_of_mem hmem)
  · intro hmeets
    have hsame : candidates d path =
        ((d.getPath? path).map fun v => v :: v.array?.getD []).getD [] := by
      rw [candidates_eq]
      exact collect_of_not_meetsArray hmeets
    rw [hsame]
    cases d.getPath? path with
    | none => exact ⟨Iff.intro (fun _ => rfl) (fun _ => rfl), nofun⟩
    | some v => exact ⟨by simp, fun w hw => by cases hw; rfl⟩

/-- A station with a list of readings. -/
def readingLog : Document :=
  ⟨[("at", .document ⟨[("winds", .array [.int 3, .int 7])]⟩),
    ("readings", .array [.document ⟨[("v", .int 1)]⟩, .document ⟨[("v", .int 5)]⟩])]⟩

theorem readers_agree_readingLog :
    Text.isMarked "readings.1.v" = false ∧
      Selects (onField "readings.1.v" "$eq" (.int 5)) readingLog ∧
      ¬ MeetsArray (Path.ofString "at.winds") (.document readingLog) ∧
      candidates readingLog "at.winds" = [.array [.int 3, .int 7], .int 3, .int 7] := by
  have hreading : Text.isMarked "readings.1.v" = false := by decide
  have hmeets : ¬ MeetsArray (Path.ofString "at.winds") (.document readingLog) := by decide
  obtain ⟨hfound, -⟩ := readers_agree readingLog "readings.1.v" hreading
  obtain ⟨-, hway⟩ := readers_agree readingLog "at.winds" (by decide)
  exact ⟨hreading, (hfound (.int 5) rfl).2.2, hmeets, (hway hmeets).2 _ rfl⟩

end QuerySets.Filter
