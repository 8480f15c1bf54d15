import QuerySets.Pipeline
import QuerySets.Proofs.Document.Path
import QuerySets.Proofs.Filter.Required

/-!
Plans of pipelines. A pipeline scans an index if it starts with a filter and the first path of
the index, without its signs, is one that this filter requires; of several such indexes it takes
the first one. Otherwise it scans the collection. What the filter requires is told by the document
that the pipeline is written with, not by what this is compiled to.
-/

namespace QuerySets

namespace Stage

variable {f : Filter} {α : Type} {result : Except StoreError α}

theorem map_ne_select {g : α → Stage} (hg : ∀ a, g a ≠ select f) :
    result.map g ≠ .ok (select f) := by
  intro h
  obtain ⟨a, -, ha⟩ := map_eq_ok_iff.mp h
  exact hg a ha

theorem bind_ne_select {g : α → Except StoreError Stage} (hg : ∀ a, g a ≠ .ok (select f)) :
    result.bind g ≠ .ok (select f) := by
  cases result with
  | error e => nofun
  | ok a => exact hg a

theorem compileSort_ne_select (specification : Document) :
    compileSort specification ≠ .ok (select f) := by
  unfold compileSort
  split
  · nofun
  · exact map_ne_select nofun

theorem compileUnwind_ne_select (v : Value) : compileUnwind v ≠ .ok (select f) := by
  unfold compileUnwind
  split
  · exact map_ne_select nofun
  · exact map_ne_select nofun
  · nofun

theorem compileCount_ne_select (v : Value) : compileCount v ≠ .ok (select f) := by
  unfold compileCount
  split
  · split <;> nofun
  · nofun

/-- Only a filter document under its name is compiled to a filter. -/
theorem ofSpecification_eq_select_iff {name : String} {v : Value} :
    ofSpecification name v = .ok (select f) ↔
      ∃ filter : Document, name = "$match" ∧ v = .document filter ∧
        Filter.compile filter = .ok f := by
  constructor
  · intro h
    unfold ofSpecification at h
    split at h
    · cases v with
      | document filter =>
        simp only [object, Bind.bind, Except.bind] at h
        cases hf : Filter.compile filter with
        | error e => rw [hf] at h; cases h
        | ok g => rw [hf] at h; cases h; exact ⟨filter, rfl, rfl, hf⟩
      | _ => cases h
    · exact absurd h (bind_ne_select fun _ => bind_ne_select nofun)
    · exact absurd h (map_ne_select nofun)
    · exact absurd h (map_ne_select nofun)
    · exact absurd h (bind_ne_select compileSort_ne_select)
    · exact absurd h (compileUnwind_ne_select v)
    · exact absurd h (bind_ne_select fun _ => bind_ne_select nofun)
    · exact absurd h (compileCount_ne_select v)
    · exact absurd h (map_ne_select nofun)
    · exact absurd h (map_ne_select nofun)
    · cases h
  · rintro ⟨filter, rfl, rfl, hf⟩
    simp only [ofSpecification, object, Bind.bind, Except.bind, hf]
    rfl

theorem compile_eq_select_iff {d : Document} :
    compile d = .ok (select f) ↔
      ∃ filter : Document, d = ⟨[("$match", .document filter)]⟩ ∧
        Filter.compile filter = .ok f := by
  obtain ⟨entries⟩ := d
  cases entries with
  | nil => simp [compile, Fields.single?]
  | cons entry rest =>
    cases rest with
    | nil =>
      obtain ⟨name, v⟩ := entry
      rw [compile, Fields.single?, ofSpecification_eq_select_iff]
      simp [and_assoc]
    | cons other others => simp [compile, Fields.single?]

end Stage

namespace Pipeline

/-- The pipeline starts with a filter that requires the first path of the index. -/
def Uses (written : List Document) (i : Index) : Prop :=
  ∃ (filter : Document) (rest : List Document) (path : String),
    written = ⟨[("$match", .document filter)]⟩ :: rest ∧ i.fields.head? = some path ∧
      Filter.Requires path filter

variable {written : List Document} {p : Pipeline}

theorem firstFilter?_eq_some_iff (h : compile written = .ok p) {f : Filter} :
    p.firstFilter? = some f ↔
      ∃ (filter : Document) (rest : List Document),
        written = ⟨[("$match", .document filter)]⟩ :: rest ∧ Filter.compile filter = .ok f := by
  obtain ⟨stages, hstages, rfl⟩ := map_eq_ok_iff.mp h
  have hread := mapM_eq_ok_iff.mp hstages
  cases hread with
  | nil => simp [firstFilter?]
  | @cons d stage rest others hfirst hrest =>
    have hselect : (mk (stage :: others)).firstFilter? = some f ↔ stage = .select f := by
      cases stage <;> simp [firstFilter?]
    rw [hselect]
    constructor
    · rintro rfl
      obtain ⟨filter, rfl, hf⟩ := Stage.compile_eq_select_iff.mp hfirst
      exact ⟨filter, rest, rfl, hf⟩
    · rintro ⟨filter, _, hwritten, hf⟩
      cases hwritten
      rw [Stage.compile_eq_select_iff.mpr ⟨filter, rfl, hf⟩] at hfirst
      exact (Except.ok.inj hfirst).symm

theorem serves_iff {f : Filter} {i : Index} :
    serves f i = true ↔ ∃ path, i.fields.head? = some path ∧ path ∈ f.fields := by
  unfold serves
  cases i.fields with
  | nil => simp
  | cons path rest => simp

/-- A pipeline that starts with a filter document starts with a filter. -/
theorem exists_compile_of_match {filter : Document} {rest : List Document}
    (h : compile (⟨[("$match", .document filter)]⟩ :: rest) = .ok p) :
    ∃ f, Filter.compile filter = .ok f := by
  obtain ⟨stages, hstages, rfl⟩ := map_eq_ok_iff.mp h
  obtain ⟨stage, -, hstage⟩ := exists_related (mapM_eq_ok_iff.mp hstages) List.mem_cons_self
  cases hf : Filter.compile filter with
  | ok f => exact ⟨f, rfl⟩
  | error e =>
    simp only [Stage.compile, Fields.single?, Stage.ofSpecification, Stage.object, Bind.bind,
      Except.bind, hf] at hstage
    cases hstage

theorem uses_iff (h : compile written = .ok p) {i : Index} :
    Uses written i ↔ ∃ f, p.firstFilter? = some f ∧ serves f i = true := by
  have hrequires : ∀ {filter : Document} {f : Filter} {path : String},
      Filter.compile filter = .ok f → (Filter.Requires path filter ↔ path ∈ f.fields) := by
    intro filter f path hf
    rw [← Filter.tests_iff_requires ⟨f, hf⟩, Filter.Tests, hf, gives_ok]
  constructor
  · rintro ⟨filter, rest, path, rfl, hpath, hwithin⟩
    obtain ⟨f, hf⟩ := exists_compile_of_match h
    exact ⟨f, (firstFilter?_eq_some_iff h).mpr ⟨filter, rest, rfl, hf⟩,
      serves_iff.mpr ⟨path, hpath, (hrequires hf).mp hwithin⟩⟩
  · rintro ⟨f, hfirst, hserves⟩
    obtain ⟨filter, rest, hwritten, hf⟩ := (firstFilter?_eq_some_iff h).mp hfirst
    obtain ⟨path, hpath, hmem⟩ := serves_iff.mp hserves
    exact ⟨filter, rest, path, hwritten, hpath, (hrequires hf).mpr hmem⟩

/-- The index that is used is the first one that the pipeline can use. -/
theorem usedIndex?_eq_some_iff (h : compile written = .ok p) {indexes : List Index} {i : Index} :
    p.usedIndex? indexes = some i ↔
      Uses written i ∧ ∃ before after, indexes = before ++ i :: after ∧
        ∀ j ∈ before, ¬ Uses written j := by
  simp only [usedIndex?, uses_iff h]
  cases p.firstFilter? with
  | none => simp
  | some f => simp [List.find?_eq_some_iff_append]

theorem usedIndex?_eq_none_iff (h : compile written = .ok p) {indexes : List Index} :
    p.usedIndex? indexes = none ↔ ∀ i ∈ indexes, ¬ Uses written i := by
  simp only [usedIndex?, uses_iff h]
  cases p.firstFilter? with
  | none => simp
  | some f => simp [List.find?_eq_none]

theorem explain_parsedPipeline (collection : String) (indexes : List Index) :
    (p.explain collection written indexes).getPath? "queryPlanner.parsedPipeline" =
      some (.array (written.map .document)) := by
  have hpath : Path.ofString "queryPlanner.parsedPipeline" =
      ["queryPlanner", "parsedPipeline"] := by decide
  rw [Document.getPath?, hpath]
  rfl

/-- The winning plan tells of the scan and of the filter. -/
theorem explain_winningPlan (collection : String) (indexes : List Index) (key : String)
    {path : String} (hpath : Path.ofString path = ["queryPlanner", "winningPlan", key]) :
    (p.explain collection written indexes).getPath? path =
      Fields.get? ⟨p.scan indexes ++ p.filterEntry written⟩ key := by
  rw [Document.getPath?, hpath, Document.at?_cons_document rfl, Document.at?_cons_document rfl]
  exact Option.bind_fun_some _

theorem explain_stage (collection : String) (indexes : List Index) :
    (p.explain collection written indexes).getPath? "queryPlanner.winningPlan.stage" =
      some (.string (if (p.usedIndex? indexes).isSome then "IXSCAN" else "COLLSCAN")) := by
  rw [explain_winningPlan _ _ "stage" (by decide), scan]
  cases p.usedIndex? indexes <;> rfl

theorem explain_index {indexes : List Index} {i : Index} (h : p.usedIndex? indexes = some i)
    (collection : String) :
    let told := (p.explain collection written indexes).getPath?
    told "queryPlanner.winningPlan.indexName" = some (.string i.name) ∧
      told "queryPlanner.winningPlan.keyPattern" = some (.array (i.key.map .string)) := by
  constructor
  · refine (explain_winningPlan _ _ "indexName" (by decide)).trans ?_
    rw [scan, h]
    rfl
  · refine (explain_winningPlan _ _ "keyPattern" (by decide)).trans ?_
    rw [scan, h]
    rfl

/-- The plan of a pipeline names the first of the indexes whose first path its filter requires,
and it is a scan of the collection if there is none. The pipeline is told as it was written. -/
theorem plan_explained (h : compile written = .ok p) (collection : String)
    (indexes : List Index) :
    let told := (p.explain collection written indexes).getPath?
    (told "queryPlanner.winningPlan.stage" = some (.string "IXSCAN") ↔
        ∃ i ∈ indexes, Uses written i) ∧
      (∀ before i after, indexes = before ++ i :: after → Uses written i →
        (∀ j ∈ before, ¬ Uses written j) →
        told "queryPlanner.winningPlan.indexName" = some (.string i.name) ∧
          told "queryPlanner.winningPlan.keyPattern" = some (.array (i.key.map .string))) ∧
      ((∀ i ∈ indexes, ¬ Uses written i) →
        told "queryPlanner.winningPlan.stage" = some (.string "COLLSCAN")) ∧
      told "queryPlanner.parsedPipeline" = some (.array (written.map .document)) := by
  refine ⟨?scanned, fun before i after happend huses hbefore => ?named, fun hnone => ?unused,
    explain_parsedPipeline collection indexes⟩
  case scanned =>
    rw [explain_stage]
    cases hused : p.usedIndex? indexes with
    | none =>
      have hnone := (usedIndex?_eq_none_iff h).mp hused
      simpa using hnone
    | some i =>
      obtain ⟨huses, before, after, rfl, -⟩ := (usedIndex?_eq_some_iff h).mp hused
      simpa using ⟨i, by simp, huses⟩
  case named =>
    have hused := (usedIndex?_eq_some_iff h).mpr ⟨huses, before, after, happend, hbefore⟩
    exact explain_index hused collection
  case unused =>
    rw [explain_stage, (usedIndex?_eq_none_iff h).mpr hnone]
    rfl

/-- Strong wind, and the state within a second conjunction; the place is only one of the choices. -/
def storms : List Document :=
  let wind : Document := ⟨[("wind", .document ⟨[("$gt", .int 3)]⟩)]⟩
  let state : Document := ⟨[("$and", .array [.document ⟨[("state", .string "FL")]⟩])]⟩
  let place : Document := ⟨[("place", .string "Tampa")]⟩
  let filter : Document :=
    ⟨[("$and", .array [.document wind, .document state]), ("$or", .array [.document place])]⟩
  [⟨[("$match", .document filter)]⟩, ⟨[("$limit", .int 1)]⟩]

theorem plan_explained_storms :
    ∃ p, compile storms = .ok p ∧
      let told := (p.explain "events" storms
        [⟨["place"], false⟩, ⟨["-state", "wind"], false⟩, ⟨["wind"], true⟩]).getPath?
      told "queryPlanner.winningPlan.stage" = some (.string "IXSCAN") ∧
        told "queryPlanner.winningPlan.indexName" = some (.string "state_-1_wind_1") ∧
        told "queryPlanner.winningPlan.keyPattern" =
          some (.array [.string "-state", .string "wind"]) := by
  obtain ⟨p, hp⟩ : ∃ p, compile storms = .ok p := ⟨_, rfl⟩
  have hstate : Uses storms ⟨["-state", "wind"], false⟩ := by
    refine ⟨_, _, "state", rfl, by decide, ?_⟩
    refine .branch List.mem_cons_self (List.mem_cons_of_mem _ List.mem_cons_self) ?_
    exact .branch List.mem_cons_self List.mem_cons_self (.field List.mem_cons_self (by decide))
  have hplace : ¬ Uses storms ⟨["place"], false⟩ := by
    rw [uses_iff hp]
    cases hp
    decide
  obtain ⟨hscanned, hnamed, -, -⟩ := plan_explained hp "events"
    [⟨["place"], false⟩, ⟨["-state", "wind"], false⟩, ⟨["wind"], true⟩]
  exact ⟨p, hp, hscanned.mpr ⟨_, by simp, hstate⟩,
    hnamed [_] _ [_] rfl hstate (by simpa using hplace)⟩

end Pipeline

end QuerySets
