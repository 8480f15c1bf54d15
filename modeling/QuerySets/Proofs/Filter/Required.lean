import QuerySets.Proofs.Filter.Composition
import QuerySets.Proofs.Value.Nodes

/-!
The paths that a filter document tests whatever else is in it: those of its own entries, and those
that a branch of a conjunction in it tests. Of a disjunction only some branch needs to hold, and of
its negation none, so their branches require nothing. A compiled filter tells just these paths,
although clauses that stand alone and the levels of conjunctions cannot be seen in it any more.
-/

namespace QuerySets.Filter

open Text (isMarked)

/-- A document can only be accepted if it meets a condition on the path. -/
inductive Requires (path : String) : Document → Prop
  | field {d : Document} {v : Value} (entry : (path, v) ∈ d.entries)
      (unmarked : isMarked path = false) : Requires path d
  | branch {d written : Document} {items : List Value}
      (entry : ("$and", .array items) ∈ d.entries) (item : .document written ∈ items)
      (within : Requires path written) : Requires path d

/-- The filter document is compiled to a filter that tests the path. -/
def Tests (path : String) (written : Document) : Prop :=
  Gives (path ∈ ·.fields) (compile written)

variable {path key : String}

theorem mem_fieldsOfAll (filters : List Filter) :
    path ∈ fieldsOfAll filters ↔ ∃ f ∈ filters, path ∈ f.fields := by
  induction filters with
  | nil => simp [fieldsOfAll]
  | cons f rest ih => simp [fieldsOfAll, ih]

theorem mem_fields_conjunction (clauses : List Filter) :
    path ∈ (conjunction clauses).fields ↔ ∃ f ∈ clauses, path ∈ f.fields := by
  unfold conjunction
  split
  · simp
  · rw [fields, mem_fieldsOfAll]

/-- A filter document tests what one of its entries by itself tests. -/
theorem tests_iff_clause {written : Document} (h : Compiles written) :
    Tests path written ↔ ∃ e ∈ written.entries, Tests path (clause e.1 e.2) := by
  obtain ⟨f, hf⟩ := h
  rw [compile, compileEntries_eq_mapM, map_eq_ok_iff] at hf
  obtain ⟨clauses, hclauses, rfl⟩ := hf
  simp only [Tests, compile_clause]
  rw [← exists_mem_mapM hclauses, ← mem_fields_conjunction, compile, compileEntries_eq_mapM,
    hclauses, gives_map, gives_ok]

/-- An entry tests its own path, if it is no operator. -/
theorem tests_field (hkey : logical? key = none) {v : Value} (h : Compiles (clause key v)) :
    Tests path (clause key v) ↔ key = path ∧ isMarked key = false := by
  obtain ⟨f, hf⟩ := h
  rw [Tests, hf, gives_ok]
  simp only [compile_clause, compileClause, hkey, fieldClause] at hf
  split at hf
  · cases hf
  next hmarked =>
    obtain ⟨c, -, rfl⟩ := map_eq_ok_iff.mp hf
    simp [fields, hmarked, eq_comm]

/-- A conjunction tests what one of its branches tests, and no other operator tests anything. -/
theorem tests_branches {join : List Filter → Filter} (hkey : logical? key = some join)
    {branches : List Document} (hne : branches ≠ [])
    (hcompiles : ∀ written ∈ branches, Compiles written) :
    Tests path (clause key (.array (branches.map .document))) ↔
      key = "$and" ∧ ∃ written ∈ branches, Tests path written := by
  obtain ⟨filters, hread⟩ := exists_mapM_eq_ok_iff.mpr hcompiles
  rw [Tests, gives_branches hkey hne hread]
  unfold logical? at hkey
  split at hkey
  · cases hkey
    rw [fields, mem_fieldsOfAll, exists_mem_mapM hread]
    simp [Tests]
  · cases hkey
    simp [fields]
  · cases hkey
    simp [fields]
  · cases hkey

theorem compiles_entry {written : Document} (h : Compiles written) {e : String × Value}
    (he : e ∈ written.entries) : Compiles (clause e.1 e.2) := by
  rw [compiles_iff, gives_compile (by simp)] at h
  exact compiles_iff.mpr (h e he)

/-- What a filter document is compiled to tests the paths that the document requires. -/
theorem tests_iff_requires {written : Document} (h : Compiles written) :
    Tests path written ↔ Requires path written := by
  induction written using Value.documentInduction with
  | step written ih =>
    -- A branch of an entry that can be compiled is one of the documents inside.
    have hbranch : ∀ e ∈ written.entries, ∀ branches : List Document,
        e.2 = .array (branches.map .document) → (∀ branch ∈ branches, Compiles branch) →
          ∀ branch ∈ branches, Tests path branch ↔ Requires path branch := by
      intro e he branches hitems hcompiles branch hmem
      refine ih e he branch ?_ (hcompiles branch hmem)
      rw [hitems]
      exact .item (List.mem_map_of_mem hmem) (.here branch)
    rw [tests_iff_clause h]
    constructor
    · rintro ⟨e, he, htests⟩
      have hentry := compiles_entry h he
      cases hkey : logical? e.1 with
      | none =>
        obtain ⟨hpath, hmarked⟩ := (tests_field hkey hentry).mp htests
        rw [hpath] at hmarked
        exact .field (v := e.2) (hpath ▸ he) hmarked
      | some join =>
        obtain ⟨branches, hne, hitems, hcompiles⟩ := (compiles_logical hkey e.2).mp hentry
        rw [hitems, tests_branches hkey hne hcompiles] at htests
        obtain ⟨hand, branch, hmem, hwithin⟩ := htests
        have hrequires := (hbranch e he branches hitems hcompiles branch hmem).mp hwithin
        exact .branch (hand ▸ hitems ▸ he) (List.mem_map_of_mem hmem) hrequires
    · intro hrequires
      cases hrequires with
      | field he hmarked =>
        have hkey : logical? path = none := logical?_of_not_isMarked hmarked
        exact ⟨_, he, (tests_field hkey (compiles_entry h he)).mpr ⟨rfl, hmarked⟩⟩
      | @branch _ branch items he hitem hwithin =>
        obtain ⟨branches, hne, hitems, hcompiles⟩ :=
          (compiles_logical rfl _).mp (compiles_entry h he)
        have hmem : branch ∈ branches := by
          rw [Value.array.inj hitems] at hitem
          obtain ⟨other, hother, hsame⟩ := List.mem_map.mp hitem
          exact Value.document.inj hsame ▸ hother
        refine ⟨_, he, ?_⟩
        rw [hitems, tests_branches rfl hne hcompiles]
        exact ⟨rfl, branch, hmem, (hbranch _ he branches hitems hcompiles branch hmem).mpr hwithin⟩

end QuerySets.Filter
