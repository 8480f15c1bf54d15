import QuerySets.Proofs.Document.Removal
import QuerySets.Proofs.Filter.Candidates
import QuerySets.Proofs.Stage.Inclusion

/-!
Projections that name what they leave out. What is left out is taken away where its path leads
through documents alone, and then a filter finds nothing there either. A path that comes to an
array first takes nothing away: with the array all that a filter finds through it stays, unless
another path leaves out the array itself or a document around it.
-/

namespace QuerySets.Projection

open QuerySets.Filter (Selects onField candidates)
open Value (MeetsArray within?)

/-- The paths of a projection that leaves out, with the identifier if that is excluded. -/
def leftOut (withoutId : Bool) (paths : List String) : List String :=
  if withoutId then paths ++ ["_id"] else paths

/-- Takes away what is at each of the paths. -/
def without (d : Document) (paths : List String) : Document :=
  paths.foldl (fun out path => (out.removePath path).2) d

/-- On its way a path comes to an array that none of the paths leaves out. -/
def Sheltered (d : Document) (paths : List String) (p : Path) : Prop :=
  ∃ r items, r <+: p ∧ r ≠ p ∧ within? r (.document d) = some (.array items) ∧
    ∀ path ∈ paths, ¬ Path.ofString path <+: r

section Without

variable {d : Document} {paths : List String} {path : String} {p q : Path} {items : List Value}

theorem within?_remove_eq_array (hproper : d.Proper) (hp : p ≠ []) :
    within? q (.document (d.remove p).2) = some (.array items) ↔
      ¬ p <+: q ∧ within? q (.document d) = some (.array items) := by
  by_cases hthrough : p <+: q
  · rw [Document.within?_remove_of_prefix hp hthrough hproper]
    exact ⟨nofun, fun h => absurd hthrough h.1⟩
  · rcases Document.within?_remove hthrough d with hsame | ⟨old, new, hold, hnew⟩
    · rw [hsame]
      exact ⟨fun h => ⟨hthrough, h⟩, fun h => h.2⟩
    · rw [hold, hnew]
      exact ⟨nofun, nofun⟩

/-- The arrays that are left are those that were there, of which no beginning is taken away. -/
theorem within?_without_eq_array (hproper : d.Proper) :
    within? q (.document (without d paths)) = some (.array items) ↔
      (∀ path ∈ paths, ¬ Path.ofString path <+: q) ∧
        within? q (.document d) = some (.array items) := by
  induction paths generalizing d with
  | nil => exact ⟨fun h => ⟨nofun, h⟩, fun h => h.2⟩
  | cons path rest ih =>
    have hstep : within? q (.document (d.removePath path).2) = some (.array items) ↔
        ¬ Path.ofString path <+: q ∧ within? q (.document d) = some (.array items) :=
      within?_remove_eq_array hproper (Path.ofString_ne_nil path)
    have hremoved : Document.Proper (d.removePath path).2 := hproper.remove _
    rw [without, List.foldl_cons, ← without, ih hremoved, hstep, List.forall_mem_cons]
    exact and_left_comm.trans and_assoc.symm

/-- Below what is taken away there is nothing, and nothing comes to where there was nothing. -/
theorem within?_without_eq_none (hproper : d.Proper)
    (h : within? q (.document d) = none ∨ ∃ path ∈ paths, Path.ofString path <+: q) :
    within? q (.document (without d paths)) = none := by
  induction paths generalizing d with
  | nil =>
    rcases h with hnone | ⟨path, hpath, -⟩
    · exact hnone
    · cases hpath
  | cons path rest ih =>
    rw [without, List.foldl_cons, ← without]
    refine ih (hproper.remove _) ?_
    -- The removal takes away what is at q or leaves it, and the others do not bring it back.
    by_cases hthrough : Path.ofString path <+: q
    · exact Or.inl (Document.within?_remove_of_prefix (Path.ofString_ne_nil path) hthrough hproper)
    · rcases h with hnone | ⟨other, hother, hbelow⟩
      · rcases Document.within?_remove hthrough d with hsame | ⟨old, new, hold, -⟩
        · exact Or.inl (hsame.trans hnone)
        · rw [hold] at hnone
          cases hnone
      · rcases List.mem_cons.mp hother with rfl | hrest
        · exact absurd hbelow hthrough
        · exact Or.inr ⟨other, hrest, hbelow⟩

theorem meetsArray_without (hproper : d.Proper) :
    MeetsArray p (.document (without d paths)) ↔ Sheltered d paths p := by
  simp only [MeetsArray, Sheltered, within?_without_eq_array hproper]
  constructor
  · rintro ⟨r, items, hr, hne, hkept, hbefore⟩
    exact ⟨r, items, hr, hne, hbefore, hkept⟩
  · rintro ⟨r, items, hr, hne, hbefore, hkept⟩
    exact ⟨r, items, hr, hne, hkept, hbefore⟩

/-- A filter finds at a path that has been left out what it found there before, if there is an
array on the way that is left, and nothing otherwise. -/
theorem candidates_without (hproper : d.Proper) (hpath : path ∈ paths) :
    (Sheltered d paths (Path.ofString path) →
      candidates (without d paths) path = candidates d path) ∧
    (¬ Sheltered d paths (Path.ofString path) → candidates (without d paths) path = []) := by
  constructor
  · rintro ⟨r, items, ⟨back, hback⟩, -, hbefore, hkept⟩
    -- The array is the same before and after, so what is collected from it is the same.
    have hafter := (within?_without_eq_array hproper).mpr ⟨hkept, hbefore⟩
    rw [Filter.candidates_eq, Filter.candidates_eq, ← hback, Filter.collect_append hafter,
      Filter.collect_append hbefore]
  · intro hnot
    have hmeets := (meetsArray_without hproper).not.mpr hnot
    have hnone := within?_without_eq_none hproper (Or.inr ⟨path, hpath, List.prefix_rfl⟩)
    rw [Filter.candidates_eq, Filter.collect_of_not_meetsArray hmeets,
      Value.at?_eq_within? hmeets, hnone]
    rfl

end Without

section LeftOut

variable {p : Projection} {paths : List String} {path : String} {specification : Document}

theorem apply_leftOut (hmode : p.mode = .leaveOut paths) (d : Document) :
    p.apply d = without d (leftOut p.withoutId paths) := by
  have herase : ∀ out : Document, (out.removePath "_id").2 = out.erase "_id" := fun out => by
    rw [Document.removePath, Path.ofString_of_not_mem (by decide), Document.remove]
  rw [apply, hmode, leftOut]
  cases p.withoutId with
  | true => simp [without, herase]
  | false => rfl

/-- In a specification of what to leave out all paths are switched off. -/
theorem switch?_of_kept_nil {entries : List (String × Value)} (h : entries.filterMap kept? = [])
    {e : String × Value} (he : e ∈ entries) : switch? e.2 = some false := by
  have hnone : kept? e = none := List.filterMap_eq_nil_iff.mp h e he
  unfold kept? at hnone
  split at hnone
  next => cases hnone
  next hswitch => exact hswitch
  next => cases hnone

/-- All paths that such a specification spells are left out. -/
theorem mem_leftOut_iff (hcompile : compile specification = .ok p)
    (hmode : p.mode = .leaveOut paths) :
    path ∈ leftOut p.withoutId paths ↔ path ∈ (spelled specification).map (·.1) := by
  obtain ⟨hid, hkeep | ⟨hleave, hkept⟩⟩ := compile_cases hcompile
  · rw [hkeep] at hmode
    cases hmode
  · obtain rfl := Mode.leaveOut.inj (hmode.symm.trans hleave)
    have hmem : path ∈ leftOut p.withoutId ((spelled specification).filterMap leftOut?) ↔
        path ∈ (spelled specification).filterMap leftOut? ∨ p.withoutId = true ∧ path = "_id" := by
      cases p.withoutId <;> simp [leftOut]
    rw [hmem, hid, List.mem_filterMap, List.any_eq_true, List.mem_map]
    constructor
    · rintro (⟨e, he, hleft⟩ | ⟨⟨e, he, hexcluded⟩, rfl⟩)
      · unfold leftOut? at hleft
        split at hleft
        · exact ⟨e, he, Option.some.inj hleft⟩
        · cases hleft
      · exact ⟨e, he, by simpa using (Bool.and_eq_true_iff.mp hexcluded).1⟩
    · rintro ⟨e, he, rfl⟩
      have hswitch := switch?_of_kept_nil hkept he
      by_cases hexcluded : isIdExclusion e = true
      · refine Or.inr ⟨⟨e, he, hexcluded⟩, ?_⟩
        simpa using (Bool.and_eq_true_iff.mp hexcluded).1
      · refine Or.inl ⟨e, he, ?_⟩
        simp [leftOut?, hswitch, hexcluded]

end LeftOut

/-- A specification that says what to leave out: a filter finds a path that it spells in the
result exactly if it found it before and the path comes to an array on its way, through documents
alone, that no path of the specification leaves out with what is around it. -/
theorem left_out (specification : Document) (p : Projection) (paths : List String)
    (hcompile : compile specification = .ok p) (hmode : p.mode = .leaveOut paths) (d : Document)
    (hproper : d.Proper) (path : String) (hspelled : path ∈ (spelled specification).map (·.1))
    (hpath : Text.isMarked path = false) :
    Selects (onField path "$exists" (.bool true)) (p.apply d) ↔
      Selects (onField path "$exists" (.bool true)) d ∧
        Sheltered d ((spelled specification).map (·.1)) (Path.ofString path) := by
  have hsame : Sheltered d ((spelled specification).map (·.1)) (Path.ofString path) ↔
      Sheltered d (leftOut p.withoutId paths) (Path.ofString path) := by
    simp only [Sheltered, mem_leftOut_iff hcompile hmode]
  have hcandidates := candidates_without hproper ((mem_leftOut_iff hcompile hmode).mpr hspelled)
  rw [hsame, Filter.selects_exists hpath, Filter.selects_exists hpath, apply_leftOut hmode]
  by_cases hsheltered : Sheltered d (leftOut p.withoutId paths) (Path.ofString path)
  · rw [hcandidates.1 hsheltered]
    exact ⟨fun h => ⟨h, hsheltered⟩, fun h => h.1⟩
  · rw [hcandidates.2 hsheltered]
    exact ⟨fun h => absurd rfl h, fun h => absurd h.2 hsheltered⟩

/-- A station with what it measured last and with a list of readings. -/
def mooring : Document :=
  ⟨[("_id", .int 7), ("last", .document ⟨[("wind", .int 3), ("state", .string "FL")]⟩),
    ("readings", .array [.document ⟨[("wind", .int 5), ("gust", .int 9)]⟩])]⟩

def withoutWinds : Document :=
  ⟨[("last", .document ⟨[("wind", .int 0)]⟩), ("readings.0.wind", .bool false)]⟩

theorem left_out_mooring :
    ∃ p paths, compile withoutWinds = .ok p ∧ p.mode = .leaveOut paths ∧
      ¬ Selects (onField "last.wind" "$exists" (.bool true)) (p.apply mooring) ∧
      Selects (onField "readings.0.wind" "$exists" (.bool true)) (p.apply mooring) := by
  obtain ⟨p, paths, hcompile, hmode⟩ : ∃ p paths, compile withoutWinds = .ok p ∧
      p.mode = .leaveOut paths := ⟨_, _, rfl, rfl⟩
  have hproper : mooring.Proper := by decide
  have hpaths : (spelled withoutWinds).map (·.1) = ["last.wind", "readings.0.wind"] := rfl
  have hlast := left_out withoutWinds p paths hcompile hmode mooring hproper "last.wind"
    (by simp [hpaths]) (by decide)
  have hreading := left_out withoutWinds p paths hcompile hmode mooring hproper "readings.0.wind"
    (by simp [hpaths]) (by decide)
  refine ⟨p, paths, hcompile, hmode, fun h => ?_, hreading.mpr ⟨?_, ?_⟩⟩
  · obtain ⟨r, items, hr, hne, harray, -⟩ := (hlast.mp h).2
    have hnone : ¬ MeetsArray (Path.ofString "last.wind") (.document mooring) := by decide
    exact hnone ⟨r, items, hr, hne, harray⟩
  · have hread : mooring.getPath? "readings.0.wind" = some (.int 5) := rfl
    exact (Filter.selects_exists (by decide) mooring).mpr
      (List.ne_nil_of_mem (Filter.mem_candidates hread))
  · refine ⟨["readings"], _, by decide, by decide, rfl, ?_⟩
    rw [hpaths]
    decide

/-- What is inside of an array is not left out, though a filter goes there. -/
theorem value_left_in_array :
    mooring.Proper ∧ Text.isMarked "readings.0.wind" = false ∧
      ∃ p paths, compile ⟨[("readings.0.wind", .int 0)]⟩ = .ok p ∧ p.mode = .leaveOut paths ∧
        "readings.0.wind" ∈ paths ∧
        Selects (onField "readings.0.wind" "$exists" (.bool true)) (p.apply mooring) := by
  have hmarked : Text.isMarked "readings.0.wind" = false := by decide
  have hread : (mooring.removePath "readings.0.wind").2.getPath? "readings.0.wind" =
      some (.int 5) := rfl
  refine ⟨by decide, hmarked, ⟨false, .leaveOut ["readings.0.wind"]⟩, ["readings.0.wind"], rfl,
    rfl, List.mem_singleton_self _, ?_⟩
  exact (Filter.selects_exists hmarked _).mpr (List.ne_nil_of_mem (Filter.mem_candidates hread))

end QuerySets.Projection
