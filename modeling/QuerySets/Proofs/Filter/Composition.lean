import Mathlib.Data.Set.List
import QuerySets.Filter.Compile
import QuerySets.Proofs.Fields
import QuerySets.Proofs.Traversal

/-!
Filters are put together from parts that can be read by themselves: a filter document from its
entries, a logical operator from its branches, a document of operators from each of them, and
a list of wanted values from its members. The lemmas on this are about any property that a
whole has exactly if its parts have it. That a filter can be compiled at all is one of them,
that it accepts a given document another. Of patterns nothing is used but that they may be read.
-/

namespace QuerySets.Filter

open Text (isMarked)

/-- A filter document that can be compiled. -/
def Compiles (written : Document) : Prop := ∃ f, compile written = .ok f

/-- A filter document that can be compiled to a filter that accepts a document. -/
def Selects (written d : Document) : Prop := ∃ f, compile written = .ok f ∧ f.accepts d = true

/-- The document with one entry. -/
def clause (key : String) (v : Value) : Document := ⟨[(key, v)]⟩

/-- A field under one operator. -/
def onField (path operator : String) (v : Value) : Document :=
  clause path (.document (clause operator v))

def isPatternPart (operator : String) : Bool := operator = "$regex" || operator = "$options"

/-- One of the operators of a document by itself, but a pattern together with its options. -/
def alone (operators : Document) (operator : String) (v : Value) : Document :=
  if isPatternPart operator then ⟨operators.entries.filter (isPatternPart ·.1)⟩
  else clause operator v

/-- What a member of a list of wanted values states by itself. -/
def stated : Value → Value
  | .regex pattern options => .regex pattern options
  | v => .document (clause "$eq" v)

/-- Where the one filter can be compiled so can the other, and it accepts what that one does not. -/
structure Negates (written other : Document) : Prop where
  compiles : Compiles written → Compiles other
  selects : Compiles written → ∀ d, Selects written d ↔ ¬ Selects other d

theorem compiles_iff {written : Document} :
    Compiles written ↔ Gives (fun _ => True) (compile written) := by
  simp only [Compiles, Gives, and_true]

section Clauses

theorem acceptAll_iff (filters : List Filter) (d : Document) :
    acceptAll d filters = true ↔ ∀ f ∈ filters, f.accepts d = true := by
  have hall : acceptAll d filters = filters.all (·.accepts d) := by
    induction filters with
    | nil => rfl
    | cons f rest ih => rw [acceptAll, ih, List.all_cons]
  rw [hall, List.all_eq_true]

theorem acceptAny_iff (filters : List Filter) (d : Document) :
    acceptAny d filters = true ↔ ∃ f ∈ filters, f.accepts d = true := by
  have hany : acceptAny d filters = filters.any (·.accepts d) := by
    induction filters with
    | nil => rfl
    | cons f rest ih => rw [acceptAny, ih, List.any_cons]
  rw [hany, List.any_eq_true]

theorem accepts_conjunction (clauses : List Filter) (d : Document) :
    (conjunction clauses).accepts d = true ↔ ∀ f ∈ clauses, f.accepts d = true := by
  unfold conjunction
  split
  · simp
  · rw [accepts, acceptAll_iff]

theorem compileEntries_eq_mapM (entries : List (String × Value)) :
    compileEntries entries = entries.mapM fun e => compileClause e.1 e.2 := by
  induction entries with
  | nil => rfl
  | cons e rest ih => rw [compileEntries, ih, List.mapM_cons]

theorem compile_clause (key : String) (v : Value) :
    compile (clause key v) = compileClause key v := by
  rw [compile, clause, compileEntries, compileEntries]
  cases compileClause key v <;> rfl

/-- A whole filter has a property of conjunctions exactly if the filter of each entry has it. -/
theorem gives_compile {P : Filter → Prop}
    (hP : ∀ clauses, P (conjunction clauses) ↔ ∀ f ∈ clauses, P f) (written : Document) :
    Gives P (compile written) ↔ ∀ e ∈ written.entries, Gives P (compile (clause e.1 e.2)) := by
  simp only [compile_clause]
  rw [compile, gives_map, compileEntries_eq_mapM, ← gives_mapM]
  simp only [hP]

end Clauses

section Branches

/-- The filter of one branch of a logical operator. -/
def branch (operator : String) : Value → Except StoreError Filter
  | .document written => compile written
  | v => .error (.invalidOperand operator (.entryNotObject v.kind))

theorem compileBranches_eq_mapM (operator : String) (items : List Value) :
    compileBranches operator items = items.mapM (branch operator) := by
  induction items with
  | nil => rfl
  | cons v rest ih =>
    rw [List.mapM_cons, ← ih]
    cases v with
    | document written =>
      rw [compileBranches, branch, compile]
      cases compileEntries written.entries <;> rfl
    | _ => rfl

theorem gives_branch {P : Filter → Prop} {operator : String} {v : Value} :
    Gives P (branch operator v) ↔ ∃ written, v = .document written ∧ Gives P (compile written) := by
  cases v with
  | document written => simp [branch]
  | _ => simp [branch, not_gives_error]

/-- A logical operator can be compiled over a list of branches, and nothing else. -/
theorem gives_logical {P : Filter → Prop} {key : String} {join : List Filter → Filter}
    (hkey : logical? key = some join) {v : Value} :
    Gives P (compile (clause key v)) ↔ ∃ items, items ≠ [] ∧ v = .array items ∧
      Gives (fun filters => P (join filters)) (items.mapM (branch key)) := by
  rw [compile_clause, compileClause, hkey]
  cases v with
  | array items =>
    cases items with
    | nil => simp [not_gives_error]
    | cons first others => simp [gives_map, compileBranches_eq_mapM]
  | _ => simp [not_gives_error]

theorem mapM_branch (operator : String) (branches : List Document) :
    (branches.map .document).mapM (branch operator) = branches.mapM compile := by
  rw [List.mapM_map]
  rfl

/-- A logical operator can be compiled over a list of branches that can, and nothing else. -/
theorem compiles_logical {key : String} {join : List Filter → Filter}
    (hkey : logical? key = some join) (v : Value) :
    Compiles (clause key v) ↔ ∃ branches : List Document, branches ≠ [] ∧
      v = .array (branches.map .document) ∧ ∀ written ∈ branches, Compiles written := by
  rw [compiles_iff, gives_logical hkey]
  constructor
  · rintro ⟨items, hitems, rfl, filters, hread, -⟩
    have hbranch : ∀ item ∈ items, ∃ written : Document,
        item = .document written ∧ Gives (fun _ => True) (compile written) := by
      intro item hitem
      obtain ⟨f, -, hf⟩ := exists_related (mapM_eq_ok_iff.mp hread) hitem
      exact gives_branch.mp ⟨f, hf, trivial⟩
    have hdocuments : items ∈ Set.range (List.map Value.document) := by
      rw [Set.range_list_map]
      intro item hitem
      obtain ⟨written, hwritten, -⟩ := hbranch item hitem
      exact ⟨written, hwritten.symm⟩
    obtain ⟨branches, rfl⟩ := hdocuments
    refine ⟨branches, fun hnil => hitems (List.map_eq_nil_iff.mpr hnil), rfl, ?_⟩
    intro written hwritten
    obtain ⟨_, hsame, hcompiles⟩ := hbranch _ (List.mem_map_of_mem hwritten)
    cases hsame
    exact compiles_iff.mpr hcompiles
  · rintro ⟨branches, hbranches, rfl, hcompiles⟩
    obtain ⟨filters, hfilters⟩ := exists_mapM_eq_ok_iff.mpr hcompiles
    refine ⟨_, fun hnil => hbranches (List.map_eq_nil_iff.mp hnil), rfl, filters, ?_, trivial⟩
    rw [mapM_branch, hfilters]

/-- A logical operator over branches is compiled to what it joins their filters to. -/
theorem gives_branches {P : Filter → Prop} {key : String} {join : List Filter → Filter}
    (hkey : logical? key = some join) {branches : List Document} {filters : List Filter}
    (hne : branches ≠ []) (hread : branches.mapM compile = .ok filters) :
    Gives P (compile (clause key (.array (branches.map .document)))) ↔ P (join filters) := by
  rw [gives_logical hkey]
  constructor
  · rintro ⟨_, -, hitems, hgives⟩
    cases hitems
    rwa [mapM_branch, hread, gives_ok] at hgives
  · intro hjoin
    refine ⟨_, fun hnil => hne (List.map_eq_nil_iff.mp hnil), rfl, ?_⟩
    rwa [mapM_branch, hread, gives_ok]

/-- What a logical operator over branches accepts is what it joins their filters to. -/
theorem selects_logical {key : String} {join : List Filter → Filter}
    (hkey : logical? key = some join) {branches : List Document} {filters : List Filter}
    (hne : branches ≠ []) (hread : branches.mapM compile = .ok filters) (d : Document) :
    Selects (clause key (.array (branches.map .document))) d ↔
      (join filters).accepts d = true :=
  gives_branches hkey hne hread

/-- All, some or none of the branches accept what the logical operators over them do. -/
theorem selects_branches {branches : List Document} (hne : branches ≠ [])
    (hcompiles : ∀ written ∈ branches, Compiles written) (d : Document) :
    let items : Value := .array (branches.map .document)
    (Selects (clause "$and" items) d ↔ ∀ written ∈ branches, Selects written d) ∧
      (Selects (clause "$or" items) d ↔ ∃ written ∈ branches, Selects written d) ∧
      (Selects (clause "$nor" items) d ↔ ∀ written ∈ branches, ¬ Selects written d) := by
  intro items
  obtain ⟨filters, hread⟩ := exists_mapM_eq_ok_iff.mpr hcompiles
  have hany : (acceptAny d filters = true) ↔ ∃ written ∈ branches, Selects written d :=
    (acceptAny_iff filters d).trans (exists_mem_mapM hread)
  refine ⟨?_, ?_, ?_⟩
  · rw [selects_logical rfl hne hread, accepts, acceptAll_iff]
    exact forall_mem_mapM hread
  · rw [selects_logical rfl hne hread, accepts, hany]
  · rw [selects_logical rfl hne hread, accepts, Bool.not_eq_true', ← Bool.not_eq_true, hany]
    simp only [not_exists, not_and]

end Branches

section Operators

/-- The condition of one operator among others. -/
def operatorCondition (options : Option String) (operator : String) (v : Value) :
    Except StoreError Condition :=
  if operator ≠ "$not" then simpleOperator options operator v
  else if isNegatable v then (Condition.compile v).map .not
  else .error (.invalidOperand "$not" .needsPatternOrDocument)

theorem compileOperators_eq_mapM (options : Option String) (entries : List (String × Value)) :
    Condition.compileOperators options entries =
      (entries.filter (·.1 ≠ "$options")).mapM fun e => operatorCondition options e.1 e.2 := by
  induction entries with
  | nil => rfl
  | cons e rest ih =>
    rw [Condition.compileOperators, ih]
    by_cases hoptions : e.1 = "$options"
    · rw [if_pos hoptions, List.filter_cons_of_neg (by simpa using hoptions)]
    · rw [if_neg hoptions, List.filter_cons_of_pos (by simpa using hoptions), List.mapM_cons]
      unfold operatorCondition
      by_cases hnot : e.1 = "$not"
      · by_cases hnegatable : isNegatable e.2 = true
        · simp only [hnot, hnegatable, ne_eq, not_true_eq_false, if_false, if_true]
        · simp only [hnot, hnegatable, ne_eq, not_true_eq_false, if_false]
          rfl
      · simp only [hnot, ne_eq, not_false_eq_true, if_true]

theorem holds_conjoin (conditions : List Condition) (values : List Value) :
    (conjoin conditions).holds values = true ↔ ∀ c ∈ conditions, c.holds values = true := by
  have hall : ∀ cs : List Condition, Condition.holdAll values cs = cs.all (·.holds values) := by
    intro cs
    induction cs with
    | nil => rfl
    | cons c rest ih => rw [Condition.holdAll, ih, List.all_cons]
  unfold conjoin
  split
  · simp
  · rw [Condition.holds, hall, List.all_eq_true]

/-- Only marked names are operators. -/
theorem isMarked_of_gives {P : Condition → Prop} {options : Option String} {operator : String}
    {v : Value} (h : Gives P (operatorCondition options operator v)) :
    isMarked operator = true := by
  unfold operatorCondition simpleOperator at h
  split at h
  · split at h
    all_goals first | rfl | exact absurd h not_gives_error
  · next hnot =>
    rw [Decidable.not_not.mp hnot]
    rfl

/-- Options are for patterns only. -/
theorem operatorCondition_of_ne {operator : String} (h : operator ≠ "$regex")
    (options : Option String) (v : Value) :
    operatorCondition options operator v = operatorCondition none operator v := by
  unfold operatorCondition simpleOperator
  split
  · split
    all_goals first | rfl | exact absurd rfl h
  · rfl

/-- What a document of operators is compiled to. Options without a pattern are looked for last. -/
theorem compile_operators {entries : List (String × Value)} {options : Option String}
    (hmarked : isOperators entries = true) (hoptions : patternOptions? entries = .ok options) :
    Condition.compile (.document ⟨entries⟩) =
      (Condition.compileOperators options entries).bind fun conditions =>
        if options.isSome && (entries.lookup "$regex").isNone then
          .error (.invalidOperand "$options" .optionsWithoutPattern)
        else .ok (conjoin conditions) := by
  rw [Condition.compile, if_pos hmarked, hoptions]
  rfl

/-- A document of operators has a property of conjunctions exactly if each of them has it under
the options of all, and these stand beside a pattern. -/
theorem gives_operators {P : Condition → Prop}
    (hP : ∀ conditions, P (conjoin conditions) ↔ ∀ c ∈ conditions, P c)
    {entries : List (String × Value)} (hmarked : isOperators entries = true) :
    Gives P (Condition.compile (.document ⟨entries⟩)) ↔
      ∃ options, patternOptions? entries = .ok options ∧
        (options.isSome → (entries.lookup "$regex").isSome) ∧
        ∀ e ∈ entries, e.1 ≠ "$options" → Gives P (operatorCondition options e.1 e.2) := by
  cases hoptions : patternOptions? entries with
  | error e =>
    constructor
    · intro h
      rw [Condition.compile, if_pos hmarked, hoptions] at h
      exact absurd h not_gives_error
    · rintro ⟨_, hok, -⟩
      cases hok
  | ok options =>
    have hbeside : ¬ (options.isSome && (entries.lookup "$regex").isNone) = true ↔
        (options.isSome → (entries.lookup "$regex").isSome) := by
      cases options <;> cases entries.lookup "$regex" <;> simp
    have hread : Gives (fun cs => ∀ c ∈ cs, P c) (Condition.compileOperators options entries) ↔
        ∀ e ∈ entries, e.1 ≠ "$options" → Gives P (operatorCondition options e.1 e.2) := by
      rw [compileOperators_eq_mapM, gives_mapM]
      simp [List.mem_filter]
    rw [compile_operators hmarked hoptions, gives_bind]
    simp only [gives_ite_error, hbeside, hP]
    constructor
    · rintro ⟨cs, hcs, hpattern, hall⟩
      exact ⟨options, rfl, hpattern, hread.mp ⟨cs, hcs, hall⟩⟩
    · rintro ⟨_, hsame, hpattern, hall⟩
      cases hsame
      obtain ⟨cs, hcs, hall⟩ := hread.mpr hall
      exact ⟨cs, hcs, hpattern, hall⟩

/-- An operator by itself states its condition, without options. -/
theorem compile_operator {operator : String} (hmarked : isMarked operator = true)
    (hne : operator ≠ "$options") (v : Value) :
    Condition.compile (.document (clause operator v)) = operatorCondition none operator v := by
  have hnone : patternOptions? [(operator, v)] = .ok none := by
    rw [patternOptions?, Association.lookup_cons, if_neg hne]
    rfl
  have hread : Condition.compileOperators none [(operator, v)] =
      (operatorCondition none operator v).map fun c => [c] := by
    rw [compileOperators_eq_mapM, List.filter_cons_of_pos (by simpa using hne), List.filter_nil,
      List.mapM_cons, List.mapM_nil]
    cases operatorCondition none operator v <;> rfl
  have hoperators : isOperators [(operator, v)] = true := hmarked
  rw [clause, compile_operators hoperators hnone, hread]
  cases operatorCondition none operator v <;> rfl

theorem isPatternPart_iff {operator : String} :
    isPatternPart operator = true ↔ operator = "$regex" ∨ operator = "$options" := by
  simp [isPatternPart]

theorem isMarked_of_isPatternPart {operator : String} (h : isPatternPart operator = true) :
    isMarked operator = true := by
  rcases isPatternPart_iff.mp h with h | h <;> rw [h] <;> rfl

/-- What is left of operators with a pattern or with options is a document of operators. -/
theorem isOperators_filter {entries : List (String × Value)} {e : String × Value}
    (he : e ∈ entries) (hpart : isPatternPart e.1 = true) :
    isOperators (entries.filter (isPatternPart ·.1)) = true := by
  have hmem : e ∈ entries.filter (isPatternPart ·.1) := List.mem_filter.mpr ⟨he, hpart⟩
  cases hkept : entries.filter (isPatternPart ·.1) with
  | nil =>
    rw [hkept] at hmem
    cases hmem
  | cons first others =>
    have hfirst : first ∈ entries.filter (isPatternPart ·.1) := by
      rw [hkept]
      exact List.mem_cons_self
    exact isMarked_of_isPatternPart (List.mem_filter.mp hfirst).2

/-- The pattern among operators, under their options. -/
theorem gives_pattern {P : Condition → Prop}
    (hP : ∀ conditions, P (conjoin conditions) ↔ ∀ c ∈ conditions, P c)
    {entries : List (String × Value)} {e : String × Value} (he : e ∈ entries)
    (hpart : isPatternPart e.1 = true) :
    Gives P (Condition.compile (.document ⟨entries.filter (isPatternPart ·.1)⟩)) ↔
      ∃ options, patternOptions? entries = .ok options ∧
        (options.isSome → (entries.lookup "$regex").isSome) ∧
        ∀ e ∈ entries, e.1 = "$regex" → Gives P (operatorCondition options e.1 e.2) := by
  have hoptions : patternOptions? (entries.filter (isPatternPart ·.1)) =
      patternOptions? entries := by
    rw [patternOptions?, patternOptions?, Association.lookup_filter_of_keep rfl]
  rw [gives_operators hP (isOperators_filter he hpart), hoptions,
    Association.lookup_filter_of_keep rfl]
  have hkept : ∀ e : String × Value, (e ∈ entries.filter (isPatternPart ·.1) ∧ e.1 ≠ "$options") ↔
      (e ∈ entries ∧ e.1 = "$regex") := by
    intro e
    rw [List.mem_filter, isPatternPart_iff]
    constructor
    · rintro ⟨⟨he, hregex | hoptions⟩, hne⟩
      · exact ⟨he, hregex⟩
      · exact absurd hoptions hne
    · rintro ⟨he, hregex⟩
      exact ⟨⟨he, Or.inl hregex⟩, by rw [hregex]; decide⟩
  simp only [← and_imp, hkept]

/-- The options of operators that each have a property alone are those of their pattern. -/
theorem exists_options {P : Condition → Prop}
    (hP : ∀ conditions, P (conjoin conditions) ↔ ∀ c ∈ conditions, P c) {operators : Document}
    (h : ∀ e ∈ operators.entries,
      Gives P (Condition.compile (.document (alone operators e.1 e.2)))) :
    ∃ options, patternOptions? operators.entries = .ok options ∧
      (options.isSome → (operators.entries.lookup "$regex").isSome) ∧
      ∀ e ∈ operators.entries, e.1 = "$regex" → Gives P (operatorCondition options e.1 e.2) := by
  by_cases hpart : ∃ e ∈ operators.entries, isPatternPart e.1 = true
  · obtain ⟨e, he, hpart⟩ := hpart
    have hgives := h e he
    rwa [alone, if_pos hpart, gives_pattern hP he hpart] at hgives
  · have hnone : operators.entries.lookup "$options" = none := by
      cases hfind : operators.entries.lookup "$options" with
      | none => rfl
      | some v => exact absurd ⟨_, Association.mem_of_lookup hfind, rfl⟩ hpart
    refine ⟨none, by rw [patternOptions?, hnone], fun h => absurd h (by decide), ?_⟩
    intro e he hregex
    exact absurd ⟨e, he, isPatternPart_iff.mpr (Or.inl hregex)⟩ hpart

/-- A document of operators has a property of conjunctions exactly if all its names are marked
and each operator alone has it. -/
theorem gives_alone {P : Condition → Prop}
    (hP : ∀ conditions, P (conjoin conditions) ↔ ∀ c ∈ conditions, P c)
    {operators : Document} (hmarked : isOperators operators.entries = true) :
    Gives P (Condition.compile (.document operators)) ↔
      ∀ e ∈ operators.entries, isMarked e.1 = true ∧
        Gives P (Condition.compile (.document (alone operators e.1 e.2))) := by
  rw [gives_operators hP hmarked]
  constructor
  · rintro ⟨options, hoptions, hpattern, hall⟩ e he
    by_cases hpart : isPatternPart e.1 = true
    · refine ⟨isMarked_of_isPatternPart hpart, ?_⟩
      rw [alone, if_pos hpart, gives_pattern hP he hpart]
      refine ⟨options, hoptions, hpattern, fun e he hregex => hall e he ?_⟩
      rw [hregex]
      decide
    · obtain ⟨hregex, hne⟩ := not_or.mp (isPatternPart_iff.not.mp hpart)
      have hgives := hall e he hne
      have hname := isMarked_of_gives hgives
      rw [alone, if_neg hpart, compile_operator hname hne, ← operatorCondition_of_ne hregex options]
      exact ⟨hname, hgives⟩
  · intro h
    obtain ⟨options, hoptions, hpattern, hregexes⟩ := exists_options hP fun e he => (h e he).2
    refine ⟨options, hoptions, hpattern, fun e he hne => ?_⟩
    by_cases hregex : e.1 = "$regex"
    · exact hregexes e he hregex
    · have hpart : ¬ isPatternPart e.1 = true :=
        isPatternPart_iff.not.mpr (not_or.mpr ⟨hregex, hne⟩)
      obtain ⟨hname, hgives⟩ := h e he
      rw [alone, if_neg hpart, compile_operator hname hne] at hgives
      rwa [operatorCondition_of_ne hregex]

end Operators

section Field

variable {path : String}

theorem logical?_of_not_isMarked (hpath : isMarked path = false) : logical? path = none := by
  unfold logical?
  split
  all_goals first | rfl | exact absurd hpath (by decide)

theorem compile_field (hpath : isMarked path = false) (v : Value) :
    compile (clause path v) = (Condition.compile v).map (.field path) := by
  rw [compile_clause, compileClause, logical?_of_not_isMarked hpath]
  simp [fieldClause, hpath]

theorem compiles_field (hpath : isMarked path = false) (v : Value) :
    Compiles (clause path v) ↔ Gives (fun _ => True) (Condition.compile v) := by
  rw [compiles_iff, compile_field hpath, gives_map]

theorem selects_field (hpath : isMarked path = false) (v : Value) (d : Document) :
    Selects (clause path v) d ↔
      Gives (fun c : Condition => c.holds (candidates d path) = true) (Condition.compile v) := by
  show Gives (fun f : Filter => f.accepts d = true) (compile _) ↔ _
  rw [compile_field hpath, gives_map]
  simp only [accepts]

theorem compiles_operators (hpath : isMarked path = false) {operators : Document}
    (hmarked : isOperators operators.entries = true) :
    Compiles (clause path (.document operators)) ↔
      ∀ e ∈ operators.entries, isMarked e.1 = true ∧
        Compiles (clause path (.document (alone operators e.1 e.2))) := by
  simp only [compiles_field hpath]
  exact gives_alone (by simp) hmarked

theorem selects_operators (hpath : isMarked path = false) {operators : Document}
    (hmarked : isOperators operators.entries = true)
    (hcompiles : Compiles (clause path (.document operators))) (d : Document) :
    Selects (clause path (.document operators)) d ↔
      ∀ e ∈ operators.entries, Selects (clause path (.document (alone operators e.1 e.2))) d := by
  have hnames := (compiles_operators hpath hmarked).mp hcompiles
  simp only [selects_field hpath]
  rw [gives_alone (fun conditions => holds_conjoin conditions _) hmarked]
  constructor
  · intro h e he
    exact (h e he).2
  · intro h e he
    exact ⟨(hnames e he).1, h e he⟩

/-- One value negates another for a field if its condition is the negation of the other one. -/
theorem negates_of_holds (hpath : isMarked path = false) {v w : Value}
    (h : ∀ c, Condition.compile v = .ok c → ∃ other, Condition.compile w = .ok other ∧
      ∀ values, c.holds values = !other.holds values) :
    Negates (clause path v) (clause path w) where
  compiles hcompiles := by
    obtain ⟨c, hc, -⟩ := (compiles_field hpath v).mp hcompiles
    obtain ⟨other, hother, -⟩ := h c hc
    exact (compiles_field hpath w).mpr ⟨other, hother, trivial⟩
  selects hcompiles d := by
    obtain ⟨c, hc, -⟩ := (compiles_field hpath v).mp hcompiles
    obtain ⟨other, hother, hholds⟩ := h c hc
    rw [selects_field hpath, selects_field hpath, hc, hother, gives_ok, gives_ok, hholds]
    simp

theorem negates_ne (hpath : isMarked path = false) (x : Value) :
    Compiles (onField path "$ne" x) ∧ Negates (onField path "$ne" x) (onField path "$eq" x) := by
  have hne : Condition.compile (.document (clause "$ne" x)) = .ok (.ne x) :=
    compile_operator rfl (by decide) x
  have heq : Condition.compile (.document (clause "$eq" x)) = .ok (.eq x) :=
    compile_operator rfl (by decide) x
  refine ⟨(compiles_field hpath _).mpr ⟨_, hne, trivial⟩, negates_of_holds hpath ?_⟩
  intro c hc
  obtain rfl : c = .ne x := Except.ok.inj (hc.symm.trans hne)
  refine ⟨_, heq, fun values => ?_⟩
  rw [Condition.holds, Condition.holds]

theorem negates_not (hpath : isMarked path = false) (v : Value) :
    (isNegatable v = true → Compiles (clause path v) → Compiles (onField path "$not" v)) ∧
      Negates (onField path "$not" v) (clause path v) := by
  have hnot : Condition.compile (.document (clause "$not" v)) =
      if isNegatable v then (Condition.compile v).map .not
      else .error (.invalidOperand "$not" .needsPatternOrDocument) :=
    compile_operator rfl (by decide) v
  constructor
  · intro hnegatable hcompiles
    rw [if_pos hnegatable] at hnot
    rw [compiles_field hpath] at hcompiles
    rwa [onField, compiles_field hpath, hnot, gives_map]
  · apply negates_of_holds hpath
    intro c hc
    rw [hnot] at hc
    split at hc
    · obtain ⟨inner, hinner, rfl⟩ := map_eq_ok_iff.mp hc
      refine ⟨inner, hinner, fun values => ?_⟩
      rw [Condition.holds]
    · cases hc

end Field

section Members

/-- The condition of a wanted value. -/
def Wanted.condition : Wanted → Condition
  | .value target => .eq target
  | .pattern m => .pattern m

theorem compile_stated (v : Value) :
    Condition.compile (stated v) = (wanted v).map Wanted.condition := by
  have heq : ∀ w, Condition.compile (.document (clause "$eq" w)) = .ok (.eq w) := fun w =>
    compile_operator rfl (by decide) w
  cases v with
  | regex pattern options =>
    rw [stated, Condition.compile, wanted]
    cases Matcher.compile pattern options <;> rfl
  | _ => exact heq _

theorem isWanted_iff (values : List Value) (list : List Wanted) :
    isWanted values list = true ↔ ∃ w ∈ list, w.condition.holds values = true := by
  have hany : isWanted values list = list.any fun w => w.condition.holds values := by
    unfold isWanted
    congr 1
    funext w
    cases w <;> rw [Wanted.condition, Condition.holds]
  rw [hany, List.any_eq_true]

/-- Wanted values are read from an array. -/
theorem map_wantedList_eq_ok {operator : String} {condition : List Wanted → Condition} {v : Value}
    {c : Condition} : (wantedList operator v).map condition = .ok c ↔
      ∃ items list, v = .array items ∧ items.mapM wanted = .ok list ∧ condition list = c := by
  rw [map_eq_ok_iff]
  cases v <;> simp [wantedList]

theorem compile_in {v : Value} {c : Condition} :
    Condition.compile (.document (clause "$in" v)) = .ok c ↔
      ∃ items list,
        v = .array items ∧ items.mapM wanted = .ok list ∧ Condition.inList list = c := by
  rw [compile_operator rfl (by decide)]
  exact map_wantedList_eq_ok

theorem compile_nin {v : Value} {c : Condition} :
    Condition.compile (.document (clause "$nin" v)) = .ok c ↔
      ∃ items list, v = .array items ∧ items.mapM wanted = .ok list ∧
        Condition.notInList list = c := by
  rw [compile_operator rfl (by decide)]
  exact map_wantedList_eq_ok

variable {path : String}

theorem negates_nin (hpath : isMarked path = false) (v : Value) :
    (Compiles (onField path "$in" v) → Compiles (onField path "$nin" v)) ∧
      Negates (onField path "$nin" v) (onField path "$in" v) := by
  constructor
  · intro hcompiles
    obtain ⟨_, hin, -⟩ := (compiles_field hpath _).mp hcompiles
    obtain ⟨items, list, hitems, hread, -⟩ := compile_in.mp hin
    have hnin := compile_nin.mpr ⟨items, list, hitems, hread, rfl⟩
    exact (compiles_field hpath _).mpr ⟨_, hnin, trivial⟩
  · apply negates_of_holds hpath
    intro c hnin
    obtain ⟨items, list, hitems, hread, rfl⟩ := compile_nin.mp hnin
    refine ⟨.inList list, compile_in.mpr ⟨items, list, hitems, hread, rfl⟩, fun values => ?_⟩
    rw [Condition.holds, Condition.holds]

/-- A list of wanted values can be compiled if it is one and each of its members can be. -/
theorem compiles_in (hpath : isMarked path = false) (v : Value) :
    Compiles (onField path "$in" v) ↔
      ∃ items, v = .array items ∧ ∀ x ∈ items, Compiles (clause path (stated x)) := by
  have hmember : ∀ x, Compiles (clause path (stated x)) ↔ ∃ w, wanted x = .ok w := by
    intro x
    rw [compiles_field hpath, compile_stated, gives_map]
    simp only [Gives, and_true]
  simp only [hmember, ← exists_mapM_eq_ok_iff]
  rw [onField, compiles_field hpath]
  constructor
  · rintro ⟨_, hin, -⟩
    obtain ⟨items, list, hitems, hread, -⟩ := compile_in.mp hin
    exact ⟨items, hitems, list, hread⟩
  · rintro ⟨items, hitems, list, hread⟩
    exact ⟨_, compile_in.mpr ⟨items, list, hitems, hread, rfl⟩, trivial⟩

theorem selects_in (hpath : isMarked path = false) {items : List Value}
    (hcompiles : Compiles (onField path "$in" (.array items))) (d : Document) :
    Selects (onField path "$in" (.array items)) d ↔
      ∃ x ∈ items, Selects (clause path (stated x)) d := by
  obtain ⟨c, hin, -⟩ := (compiles_field hpath _).mp hcompiles
  obtain ⟨_, list, hitems, hread, rfl⟩ := compile_in.mp hin
  cases hitems
  rw [onField, selects_field hpath, hin, gives_ok, Condition.holds, isWanted_iff]
  simp only [selects_field hpath, compile_stated, gives_map]
  exact exists_mem_mapM hread

end Members

/-- A filter document can be compiled, and then accepts a document, exactly if all its entries by
themselves can be and do; a logical operator over a list of branches if these can be compiled and
all, some or none of them do; and a document of operators if its names are marked and each of them
alone is, a pattern with its options. Of the conditions on a field `$ne`, `$nin` and `$not` negate
`$eq`, `$in` and what they stand before, and a list of wanted values is one whose members can be
compiled and of which one accepts the document. -/
theorem compositional :
    (∀ written, (Compiles written ↔ ∀ e ∈ written.entries, Compiles (clause e.1 e.2)) ∧
      ∀ d, (Selects written d ↔ ∀ e ∈ written.entries, Selects (clause e.1 e.2) d)) ∧
    (∀ d, Selects ⟨[]⟩ d) ∧
    (∀ key ∈ ["$and", "$or", "$nor"], ∀ v, (Compiles (clause key v) ↔
      ∃ branches : List Document, branches ≠ [] ∧ v = .array (branches.map .document) ∧
        ∀ written ∈ branches, Compiles written)) ∧
    (∀ branches : List Document, branches ≠ [] → (∀ written ∈ branches, Compiles written) → ∀ d,
      let items : Value := .array (branches.map .document)
      (Selects (clause "$and" items) d ↔ ∀ written ∈ branches, Selects written d) ∧
        (Selects (clause "$or" items) d ↔ ∃ written ∈ branches, Selects written d) ∧
        (Selects (clause "$nor" items) d ↔ ∀ written ∈ branches, ¬ Selects written d)) ∧
    (∀ path, isMarked path = false → ∀ operators : Document,
      isOperators operators.entries = true →
        (Compiles (clause path (.document operators)) ↔
          ∀ e ∈ operators.entries, isMarked e.1 = true ∧
            Compiles (clause path (.document (alone operators e.1 e.2)))) ∧
        (Compiles (clause path (.document operators)) → ∀ d,
          (Selects (clause path (.document operators)) d ↔
            ∀ e ∈ operators.entries,
              Selects (clause path (.document (alone operators e.1 e.2))) d))) ∧
    ∀ path, isMarked path = false → ∀ v,
      (Compiles (onField path "$ne" v) ∧ Negates (onField path "$ne" v) (onField path "$eq" v)) ∧
      ((Compiles (onField path "$in" v) → Compiles (onField path "$nin" v)) ∧
        Negates (onField path "$nin" v) (onField path "$in" v)) ∧
      ((isNegatable v = true → Compiles (clause path v) → Compiles (onField path "$not" v)) ∧
        Negates (onField path "$not" v) (clause path v)) ∧
      (Compiles (onField path "$in" v) ↔
        ∃ items, v = .array items ∧ ∀ x ∈ items, Compiles (clause path (stated x))) ∧
      ∀ items, v = .array items → Compiles (onField path "$in" v) → ∀ d,
        (Selects (onField path "$in" v) d ↔ ∃ x ∈ items, Selects (clause path (stated x)) d) := by
  have hentries : ∀ written, (Compiles written ↔ ∀ e ∈ written.entries, Compiles (clause e.1 e.2)) ∧
      ∀ d, (Selects written d ↔ ∀ e ∈ written.entries, Selects (clause e.1 e.2) d) := by
    intro written
    simp only [compiles_iff]
    exact ⟨gives_compile (by simp) written,
      fun d => gives_compile (fun clauses => accepts_conjunction clauses d) written⟩
  refine ⟨hentries, fun d => ((hentries ⟨[]⟩).2 d).mpr (by simp), ?_,
    fun branches hne hcompiles d => selects_branches hne hcompiles d, ?_, ?_⟩
  · intro key hkey v
    have hlogical : ∃ join, logical? key = some join := by
      simp only [List.mem_cons, List.not_mem_nil, or_false] at hkey
      rcases hkey with rfl | rfl | rfl <;> exact ⟨_, rfl⟩
    obtain ⟨join, hjoin⟩ := hlogical
    exact compiles_logical hjoin v
  · intro path hpath operators hmarked
    exact ⟨compiles_operators hpath hmarked, selects_operators hpath hmarked⟩
  · intro path hpath v
    refine ⟨negates_ne hpath v, negates_nin hpath v, negates_not hpath v, compiles_in hpath v, ?_⟩
    rintro items rfl hcompiles d
    exact selects_in hpath hcompiles d

def windy : Document := clause "wind" (.document ⟨[("$gt", .int 10), ("$ne", .int 99)]⟩)

/-- No wind, or no word of it. -/
def calm : Document := onField "wind" "$in" (.array [.int 0, .null])

theorem compositional_winds :
    Compiles windy ∧ Compiles calm ∧
      (∀ d, Selects windy d ↔
        Selects (onField "wind" "$gt" (.int 10)) d ∧ ¬ Selects (onField "wind" "$eq" (.int 99)) d) ∧
      (∀ d, Selects calm d ↔
        Selects (onField "wind" "$eq" (.int 0)) d ∨ Selects (onField "wind" "$eq" .null) d) ∧
      (∀ d, Selects (clause "$nor" (.array [.document windy, .document calm])) d ↔
        ¬ Selects windy d ∧ ¬ Selects calm d) ∧
      Selects calm ⟨[]⟩ := by
  obtain ⟨-, -, -, hbranches, hoperators, hfield⟩ := compositional
  have hpath : isMarked "wind" = false := by decide
  have hwindy : Compiles windy := ⟨_, rfl⟩
  have hcalm : Compiles calm := ⟨_, rfl⟩
  refine ⟨hwindy, hcalm, fun d => ?_, fun d => ?_, fun d => ?_, ⟨_, rfl, by decide⟩⟩
  · have hne := (hfield "wind" hpath (.int 99)).1
    rw [windy, (hoperators "wind" hpath _ (by decide)).2 hwindy d, ← hne.2.selects hne.1 d]
    simp [alone, isPatternPart, onField]
  · rw [calm, (hfield "wind" hpath _).2.2.2.2 _ rfl hcalm d]
    simp [stated, onField]
  · have hnor := (hbranches [windy, calm] (by decide) (by simp [hwindy, hcalm]) d).2.2
    simpa using hnor

end QuerySets.Filter
