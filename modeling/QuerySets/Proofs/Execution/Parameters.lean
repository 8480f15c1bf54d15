import QuerySets.Execution.Parameters
import QuerySets.Proofs.Definition.CurrentPatterns

/-!
Variables held against parameters. The parameters are gone through in their order, and what a
name is bound to at the turn of one of them is told by those up to it: the value that was given,
or else the first default under the name that is not empty. Each turn has its own fault or none.
The registry is read on the way, but every pattern is the one that was stored at the beginning.
-/

namespace QuerySets

/-- Every pattern that is stored can be read and used. -/
structure Registry.PatternsCompile (r : Registry) : Prop where
  readable : ∀ name e, r.patterns.get name = .error e → ∃ kind key, e = .notFound kind key
  compiled : ∀ name stored, r.patterns.get name = .ok stored →
    ∃ pattern, stored.compile = .ok pattern

namespace Registry.PatternsCompile

variable {r r' : Registry}

theorem congr (hcompile : r.PatternsCompile) (h : r'.patterns = r.patterns) :
    r'.PatternsCompile where
  readable := h ▸ hcompile.readable
  compiled := h ▸ hcompile.compiled

/-- The only thing that can be wrong with a pattern is that there is none. -/
theorem notFound_of_error (hcompile : r.PatternsCompile) {name : String} {e : DefinitionError}
    (h : r.loadPattern name = .error e) : ∃ kind key, e = .notFound kind key := by
  cases hget : r.patterns.get name with
  | error other =>
    simp only [loadPattern, hget, Bind.bind, Except.bind] at h
    cases h
    exact hcompile.readable name _ hget
  | ok stored =>
    obtain ⟨pattern, hpattern⟩ := hcompile.compiled name stored hget
    simp [loadPattern, hget, Bind.bind, Except.bind, hpattern] at h

end Registry.PatternsCompile

namespace Param

/-- What a parameter asks of the value that it is bound to at its turn. -/
def Meets (p : Param) (r : Registry) (value : Option String) : Prop :=
  ∃ text, value = some text ∧
    (p.pattern ≠ "" → ∃ pattern, r.loadPattern p.pattern = .ok pattern ∧
      pattern.isMatch text = true)

/-- The fault of a parameter that is bound to a value at its turn. -/
def fault? (p : Param) (r : Registry) : Option String → Option ParameterFault
  | none => some (.missing p.name)
  | some text =>
    if p.pattern.isEmpty then none
    else
      match r.loadPattern p.pattern with
      | .ok pattern => if pattern.isMatch text then none else some (.mismatch text p.name p.pattern)
      | .error _ => some (.unknownPattern text p.name)

theorem fault?_eq_none_iff {p : Param} {r : Registry} {value : Option String} :
    p.fault? r value = none ↔ p.Meets r value := by
  have hempty : p.pattern.isEmpty = true ↔ p.pattern = "" := String.isEmpty_iff
  cases value with
  | none => simp [fault?, Meets]
  | some text =>
    by_cases hpattern : p.pattern = ""
    · simp [fault?, Meets, hpattern]
    · cases hload : r.loadPattern p.pattern with
      | error e => simp [fault?, Meets, hempty, hpattern, hload]
      | ok pattern => simp [fault?, Meets, hempty, hpattern, hload]

theorem fault?_congr {r r' : Registry} (h : r'.patterns = r.patterns) (p : Param) :
    p.fault? r' = p.fault? r := by
  funext value
  cases value with
  | none => rfl
  | some text => simp only [fault?, Registry.loadPattern_congr h]

/-- The default under a name, unless it is empty. -/
def supplies? (name : String) (p : Param) : Option String :=
  if p.name = name ∧ p.default ≠ "" then some p.default else none

theorem get?_bind (p : Param) (vars : Variables) (name : String) :
    (p.bind vars).get? name = (vars.get? name).or (p.supplies? name) := by
  unfold bind supplies?
  by_cases hname : p.name = name
  · subst hname
    cases hvalue : vars.get? p.name with
    | some value => simp [Fields.contains, hvalue]
    | none =>
      by_cases hdefault : p.default = ""
      · simp [Fields.contains, hvalue, hdefault]
      · simp [Fields.contains, hvalue, hdefault, Fields.get?_insert]
  · split
    · simp [hname]
    · simp [Fields.get?_insert, hname]

/-- A name that is bound is left alone. -/
theorem bind_of_bound {p : Param} {vars : Variables} {value : String}
    (h : vars.get? p.name = some value) : p.bind vars = vars := by
  simp [bind, Fields.contains, h]

variable {r : Registry}

/-- The check finds the one fault of the turn, if there is one, and only reads the registry. -/
theorem check_eq (hcurrent : r.PatternsCurrent) (hcompile : r.PatternsCompile) (p : Param)
    (vars : Variables) :
    ∃ after, p.check vars r = (.ok (p.fault? r (vars.get? p.name)).toList, after) ∧
      after.patterns = r.patterns ∧ after.PatternsCurrent := by
  unfold check
  cases vars.get? p.name with
  | none => exact ⟨r, rfl, rfl, hcurrent⟩
  | some text =>
    simp only [checkValue, fault?]
    by_cases hpattern : p.pattern.isEmpty = true
    · simp only [if_pos hpattern]
      exact ⟨r, rfl, rfl, hcurrent⟩
    · obtain ⟨after, hread, hafter⟩ := hcurrent.pattern p.pattern
      simp only [if_neg hpattern, hread]
      refine ⟨after, ?_, hafter⟩
      cases hload : r.loadPattern p.pattern with
      | ok pattern => cases hmatch : pattern.isMatch text <;> simp [hmatch]
      | error e =>
        obtain ⟨kind, key, rfl⟩ := hcompile.notFound_of_error hload
        rfl

end Param

namespace Variables

/-- What a name is bound to after some parameters: the value that was given, or else the first
default that is not empty. -/
def bound (vars : Variables) (params : List Param) (name : String) : Option String :=
  (vars.get? name).or (params.findSome? (·.supplies? name))

/-- The variables with the defaults of some parameters. -/
def filled (vars : Variables) (params : List Param) : Variables :=
  params.foldl (fun vars p => p.bind vars) vars

theorem get?_filled (vars : Variables) (params : List Param) (name : String) :
    (vars.filled params).get? name = vars.bound params name := by
  induction params generalizing vars with
  | nil => simp [filled, bound]
  | cons p rest ih =>
    have hrest : (vars.filled (p :: rest)).get? name = (p.bind vars).bound rest name := ih _
    rw [hrest, bound, bound, Param.get?_bind, Option.or_assoc, List.findSome?_cons]
    cases p.supplies? name <;> rfl

theorem filled_concat (vars : Variables) (params : List Param) (p : Param) :
    vars.filled (params ++ [p]) = p.bind (vars.filled params) := by
  simp [filled, List.foldl_append]

/-- What is bound stays bound when further parameters come. -/
theorem bound_append {vars : Variables} {params : List Param} {name value : String}
    (h : vars.bound params name = some value) (later : List Param) :
    vars.bound (params ++ later) name = some value := by
  rw [bound, List.findSome?_append, ← Option.or_assoc, ← bound, h, Option.some_or]

/-- What the parameter at a position is bound to at its turn. -/
def atTurn (vars : Variables) (params : List Param) (turn : Param × Nat) : Option String :=
  vars.bound (params.take (turn.2 + 1)) turn.1.name

variable {vars : Variables} {r : Registry}

/-- The faults of the parameters `rest` that stand after those of `before`, in their order. -/
def faultsFrom (vars : Variables) (r : Registry) (before rest : List Param) :
    List ParameterFault :=
  (rest.zipIdx before.length).filterMap fun turn =>
    turn.1.fault? r (vars.atTurn (before ++ rest) turn)

theorem faultsFrom_cons (before : List Param) (p : Param) (rest : List Param) :
    vars.faultsFrom r before (p :: rest) =
      (p.fault? r ((vars.filled (before ++ [p])).get? p.name)).toList ++
        vars.faultsFrom r (before ++ [p]) rest := by
  have hwhole : before ++ p :: rest = (before ++ [p]) ++ rest := by simp
  have hturn : vars.atTurn (before ++ p :: rest) (p, before.length) =
      (vars.filled (before ++ [p])).get? p.name := by
    have htake : (before ++ p :: rest).take (before.length + 1) = before ++ [p] := by
      rw [hwhole, ← List.length_singleton, ← List.length_append, List.take_left]
    rw [get?_filled, atTurn, htake]
  rw [faultsFrom, List.zipIdx_cons, List.filterMap_cons, hturn, hwhole, faultsFrom,
    List.length_append, List.length_singleton]
  cases p.fault? r ((vars.filled (before ++ [p])).get? p.name) <;> rfl

theorem faultsFrom_congr {r' : Registry} (h : r'.patterns = r.patterns) (before rest : List Param) :
    vars.faultsFrom r' before rest = vars.faultsFrom r before rest := by
  simp only [faultsFrom, Param.fault?_congr h]

/-- What comes of the way through the parameters, when it has come to `rest`. -/
theorem reconcileFrom_eq (hcurrent : r.PatternsCurrent) (hcompile : r.PatternsCompile)
    (found : List ParameterFault) (before rest : List Param) :
    ∃ after, (vars.filled before).reconcileFrom found r rest =
        (if found ++ vars.faultsFrom r before rest = [] then .ok (vars.filled (before ++ rest))
          else .error (.parameters (found ++ vars.faultsFrom r before rest)), after) ∧
      after.patterns = r.patterns ∧ after.PatternsCurrent := by
  induction rest generalizing found before r with
  | nil => exact ⟨r, by simp [reconcileFrom, faultsFrom], rfl, hcurrent⟩
  | cons p rest ih =>
    obtain ⟨read, hcheck, hstored, hread⟩ :=
      p.check_eq hcurrent hcompile (vars.filled (before ++ [p]))
    obtain ⟨after, hrest, hsame, hafter⟩ := ih hread (hcompile.congr hstored)
      (found ++ (p.fault? r ((vars.filled (before ++ [p])).get? p.name)).toList) (before ++ [p])
    refine ⟨after, ?_, hsame.trans hstored, hafter⟩
    rw [faultsFrom_congr hstored] at hrest
    rw [reconcileFrom, ← filled_concat]
    simp only [hcheck]
    rw [hrest, faultsFrom_cons, List.append_assoc, List.append_assoc, List.singleton_append]

theorem reconcile_eq (vars : Variables) (hcurrent : r.PatternsCurrent)
    (hcompile : r.PatternsCompile) (params : List Param) :
    ∃ after, vars.reconcile params r =
        (if vars.faultsFrom r [] params = [] then .ok (vars.filled params)
          else .error (.parameters (vars.faultsFrom r [] params)), after) ∧
      after.patterns = r.patterns ∧ after.PatternsCurrent :=
  reconcileFrom_eq hcurrent hcompile [] [] params

theorem faultsFrom_eq_nil_iff (params : List Param) :
    vars.faultsFrom r [] params = [] ↔
      ∀ (i : Nat) (p : Param), params[i]? = some p → p.Meets r (vars.atTurn params (p, i)) := by
  simp only [faultsFrom, List.length_nil, List.nil_append, List.filterMap_eq_nil_iff, Prod.forall,
    List.mem_zipIdx_iff_getElem?, Param.fault?_eq_none_iff]
  exact forall_comm

/-- Where every parameter has been bound, filling in the defaults again changes nothing, and at
each turn there is the value that was there before. -/
theorem filled_filled {params : List Param}
    (hbound : ∀ i p, params[i]? = some p → ∃ value, vars.atTurn params (p, i) = some value) :
    (vars.filled params).filled params = vars.filled params ∧
      ∀ i p, params[i]? = some p →
        (vars.filled params).atTurn params (p, i) = vars.atTurn params (p, i) := by
  have hkept : ∀ i p, params[i]? = some p →
      (vars.filled params).get? p.name = vars.atTurn params (p, i) := by
    intro i p hp
    obtain ⟨value, hvalue⟩ := hbound i p hp
    rw [get?_filled, hvalue]
    have hlater := bound_append hvalue (params.drop (i + 1))
    rwa [List.take_append_drop] at hlater
  constructor
  · have hfixed : ∀ rest : List Param, (∀ p ∈ rest, p ∈ params) →
        (vars.filled params).filled rest = vars.filled params := by
      intro rest hrest
      induction rest with
      | nil => rfl
      | cons p rest ih =>
        obtain ⟨i, hp⟩ := List.mem_iff_getElem?.mp (hrest p List.mem_cons_self)
        obtain ⟨value, hvalue⟩ := hbound i p hp
        have hsame := Param.bind_of_bound ((hkept i p hp).trans hvalue)
        have hothers := ih fun q hq => hrest q (List.mem_cons_of_mem _ hq)
        rwa [filled, List.foldl_cons, hsame, ← filled]
    exact hfixed params fun _ hp => hp
  · intro i p hp
    obtain ⟨value, hvalue⟩ := hbound i p hp
    rw [atTurn, bound, hkept i p hp, hvalue, Option.some_or]

/-- Variables that have passed pass again, and stay as they are. -/
theorem reconcile_filled (hcurrent : r.PatternsCurrent) (hcompile : r.PatternsCompile)
    {params : List Param} (hnone : vars.faultsFrom r [] params = []) :
    ((vars.filled params).reconcile params r).1 = .ok (vars.filled params) := by
  have hmeets := (faultsFrom_eq_nil_iff params).mp hnone
  have hbound : ∀ i p, params[i]? = some p →
      ∃ value, vars.atTurn params (p, i) = some value := by
    intro i p hp
    obtain ⟨text, htext, -⟩ := hmeets i p hp
    exact ⟨text, htext⟩
  obtain ⟨hfilled, hturns⟩ := filled_filled hbound
  have hagain : (vars.filled params).faultsFrom r [] params = [] := by
    rw [faultsFrom_eq_nil_iff]
    intro i p hp
    rw [hturns i p hp]
    exact hmeets i p hp
  obtain ⟨_, hresult, -⟩ := reconcile_eq (vars.filled params) hcurrent hcompile params
  rw [hresult, if_pos hagain, hfilled]

/-- Variables are reconciled exactly if every parameter is bound at its turn and meets its pattern,
and then they are the given ones with the first default of each declared name that was not given;
with these the parameters find nothing to do. If not, the faults are told all together, one for
each parameter that has one, in the order of the declarations. -/
theorem reconciled {opened : Registry} {config : CacheConfig} {requests : List Registry.Request}
    (hr : ((opened.reopen config).answers requests).2 = r) (hcompile : r.PatternsCompile)
    (vars : Variables) (params : List Param) :
    let result := vars.reconcile params r
    ((∃ out, result.1 = .ok out) ↔
        ∀ (i : Nat) (p : Param), params[i]? = some p →
          p.Meets r (vars.bound (params.take (i + 1)) p.name)) ∧
      (∀ out, result.1 = .ok out →
        (∀ name, out.get? name = vars.bound params name) ∧
          (out.reconcile params result.2).1 = .ok out) ∧
      (∀ e, result.1 = .error e →
        ∃ faults, e = .parameters faults ∧ e.message = ",".intercalate (faults.map (·.message)) ∧
          faults = params.zipIdx.filterMap fun turn =>
            turn.1.fault? r (vars.bound (params.take (turn.2 + 1)) turn.1.name)) ∧
      ∀ p value, Param.fault? p r value = none ↔ p.Meets r value := by
  intro result
  have hcurrent : r.PatternsCurrent :=
    hr ▸ (opened.patternsCurrent_reopen config).answers requests
  obtain ⟨after, hresult, hsame, hafter⟩ := reconcile_eq vars hcurrent hcompile params
  rw [show result = _ from hresult]
  have hmeets : vars.faultsFrom r [] params = [] ↔
      ∀ (i : Nat) (p : Param), params[i]? = some p → p.Meets r (vars.atTurn params (p, i)) :=
    faultsFrom_eq_nil_iff params
  by_cases hnone : vars.faultsFrom r [] params = []
  · rw [if_pos hnone]
    refine ⟨⟨fun _ => hmeets.mp hnone, fun _ => ⟨_, rfl⟩⟩, ?_, ?_,
      fun _ _ => Param.fault?_eq_none_iff⟩
    · intro out hout
      cases hout
      refine ⟨vars.get?_filled params, ?_⟩
      exact reconcile_filled hafter (hcompile.congr hsame)
        ((faultsFrom_congr hsame _ _).trans hnone)
    · intro e he
      cases he
  · rw [if_neg hnone]
    refine ⟨⟨?_, fun h => absurd (hmeets.mpr h) hnone⟩, ?_, ?_, fun _ _ => Param.fault?_eq_none_iff⟩
    · rintro ⟨out, hout⟩
      cases hout
    · intro out hout
      cases hout
    · intro e he
      cases he
      exact ⟨_, rfl, rfl, rfl⟩

section Samples

def sampleDigits : NamedPattern := ⟨"digits", "", "[0-9]+"⟩

def sampleStored : List Registry.Request := [.patterns (.upsert sampleDigits)]

/-- A year that is declared twice, and a place that is given. -/
def sampleParams (default : String) : List Param :=
  [⟨"year", "", default, "digits"⟩, ⟨"year", "", "next", "digits"⟩, ⟨"place", "", "", ""⟩]

def samplePlace : Variables := ⟨[("place", "Tampa")]⟩

def sampleRegistry : Registry :=
  (((Registry.inMemory .default).reopen .default).answers sampleStored).2

theorem get_sampleRegistry (name : String) :
    sampleRegistry.patterns.get name =
      if "digits" = name then .ok sampleDigits else .error (.notFound "regex" name) := by
  have hstored : sampleRegistry.patterns = .memory ⟨⟨[("digits".toList, sampleDigits)]⟩, []⟩ := rfl
  rw [hstored, DefinitionStore.get, MemoryDefinitions.get]
  by_cases hname : "digits" = name
  · subst hname
    rfl
  · have hother : "digits".toList ≠ name.toList := mt String.toList_inj.mp hname
    simp only [Tree.get?, Association.lookup_cons, if_neg hother, if_neg hname]
    rfl

theorem patternsCompile_sampleRegistry : sampleRegistry.PatternsCompile where
  readable name e h := by
    rw [get_sampleRegistry] at h
    split at h
    · cases h
    · cases h
      exact ⟨_, _, rfl⟩
  compiled name stored h := by
    rw [get_sampleRegistry] at h
    split at h
    · cases h
      exact ⟨_, rfl⟩
    · cases h

/-- The first of two defaults binds the name; an empty one does not, and then both turns fail. -/
theorem reconciled_sample :
    (((Registry.inMemory .default).reopen .default).answers sampleStored).2 = sampleRegistry ∧
      sampleRegistry.PatternsCompile ∧
      (∃ out, (samplePlace.reconcile (sampleParams "2024") sampleRegistry).1 = .ok out ∧
        out.get? "year" = some "2024" ∧ out.get? "place" = some "Tampa") ∧
      ∃ e, (samplePlace.reconcile (sampleParams "") sampleRegistry).1 = .error e ∧
        e.message = "Missing[year],Invalid[next:year:Regex digits did not match]" := by
  refine ⟨rfl, patternsCompile_sampleRegistry, ⟨_, rfl, ?_⟩, ⟨_, rfl, ?_⟩⟩
  · have hbound := ((reconciled rfl patternsCompile_sampleRegistry samplePlace
      (sampleParams "2024")).2.1 _ rfl).1
    exact ⟨hbound "year", hbound "place"⟩
  · obtain ⟨faults, -, hmessage, rfl⟩ := (reconciled rfl patternsCompile_sampleRegistry samplePlace
      (sampleParams "")).2.2.1 _ rfl
    exact hmessage

end Samples

end Variables

end QuerySets
