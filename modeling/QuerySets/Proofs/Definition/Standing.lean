import QuerySets.Proofs.Definition.Requests
import QuerySets.Proofs.Definition.Store

/-!
The definitions that stand after a run of requests. The requests tell them without a look at
any store: a valid definition stands under its key from the request that writes it to the one
that writes over it or deletes it. A registry in memory holds just these.
-/

namespace QuerySets

section Tables

variable {α : Type} [Definition α]

/-- What a request makes of the definitions that stand. One that is not valid is refused. -/
def Catalogue.Request.stand (standing : String → Option α) :
    Catalogue.Request String α → String → Option α
  | .upsert d => fun key =>
    match Definition.validate d with
    | .ok _ => if Definition.key d = key then some d else standing key
    | .error _ => standing key
  | .delete gone => fun key => if gone = key then none else standing key
  | .get _ | .list | .history _ => standing

/-- What is answered where a definition is looked up and perhaps not found. -/
def Definition.found (key : String) : Option α → Except DefinitionError α
  | some d => .ok d
  | none => .error (.notFound (Definition.kind α) key)

namespace DefinitionStore

/-- The store is one in memory and holds just the definitions that stand. -/
def Stands (s : DefinitionStore α) (standing : String → Option α) : Prop :=
  ∃ m : MemoryDefinitions α, s = memory m ∧ ∀ key : String, m.current.get? key.toList = standing key

variable {s : DefinitionStore α} {standing : String → Option α}

omit [Definition α] in
theorem stands_empty : (memory .empty : DefinitionStore α).Stands fun _ => none :=
  ⟨.empty, rfl, fun _ => rfl⟩

theorem Stands.get (h : s.Stands standing) (key : String) :
    s.get key = Definition.found key (standing key) := by
  obtain ⟨m, rfl, hm⟩ := h
  rw [DefinitionStore.get, MemoryDefinitions.get, hm]
  rfl

theorem Stands.upsert (h : s.Stands standing) (d : α) :
    (settle s () (s.upsert d)).2.Stands (Catalogue.Request.stand standing (.upsert d)) := by
  obtain ⟨m, rfl, hm⟩ := h
  cases hd : Definition.validate d with
  | error e =>
    rw [upsert_of_invalid _ hd]
    refine ⟨m, rfl, fun key => ?_⟩
    simp only [Catalogue.Request.stand, hd, hm]
  | ok _ =>
    rw [DefinitionStore.upsert, m.upsert_of_valid hd]
    refine ⟨_, rfl, fun key => ?_⟩
    simp only [Catalogue.Request.stand, hd, Tree.get?_insert, String.toList_inj, hm]

theorem Stands.delete (h : s.Stands standing) (gone : String) :
    (settle s () (s.delete gone)).2.Stands (Catalogue.Request.stand standing (.delete gone)) := by
  obtain ⟨m, rfl, hm⟩ := h
  rw [DefinitionStore.delete, m.delete_eq]
  split
  next hthere =>
    refine ⟨_, rfl, fun key => ?_⟩
    simp only [Catalogue.Request.stand, Tree.get?_erase, String.toList_inj, hm]
  next hmissing =>
    refine ⟨m, rfl, fun key => ?_⟩
    have hnone : standing gone = none := by
      rw [← hm]
      exact Option.not_isSome_iff_eq_none.mp hmissing
    simp only [Catalogue.Request.stand, hm]
    split
    next heq => rw [← heq, hnone]
    next => rfl

end DefinitionStore

end Tables

namespace Registry

/-- The sets, patterns and scripts that stand under their names. -/
structure Standing where
  sets : String → Option QuerySet
  patterns : String → Option NamedPattern
  scripts : String → Option Script

def Standing.empty : Standing := ⟨fun _ => none, fun _ => none, fun _ => none⟩

/-- What a request makes of what stands. -/
def Request.stand (t : Standing) : Request → Standing
  | .sets request => { t with sets := request.stand t.sets }
  | .patterns request => { t with patterns := request.stand t.patterns }
  | .scripts request => { t with scripts := request.stand t.scripts }
  | .masks _ | .pattern _ | .fieldMasks _ => t

/-- What stands after requests to an empty registry. -/
def Request.standing (requests : List Request) : Standing := requests.foldl stand .empty

/-- The stores of the registry hold just what stands. -/
structure Stands (r : Registry) (t : Standing) : Prop where
  sets : r.sets.Stands t.sets
  patterns : r.patterns.Stands t.patterns
  scripts : r.scripts.Stands t.scripts

variable {r : Registry} {t : Standing}

theorem stands_inMemory (config : CacheConfig) : (inMemory config).Stands .empty where
  sets := DefinitionStore.stands_empty
  patterns := DefinitionStore.stands_empty
  scripts := DefinitionStore.stands_empty

section Writes

variable {α σ : Type}

/-- A write leaves in a store of the registry what it leaves in the store alone. -/
theorem view_settle (view : Registry → σ) {result : Except DefinitionError σ}
    {after : σ → Registry} (h : ∀ s, view (after s) = s) :
    view (settle r () (after <$> result)).2 = (settle (view r) () result).2 := by
  cases result with
  | error e => rfl
  | ok s => exact h s

/-- What the operations on one kind of definitions do to the store of the kind. -/
structure Writes [Definition α] (c : Catalogue String α) (store : Registry → DefinitionStore α) :
    Prop where
  upsert : ∀ r d, store (settle r () (c.upsert r d)).2 =
    (settle (store r) () ((store r).upsert d)).2
  get : ∀ r key, store (c.get r key).2 = store r
  delete : ∀ r key, store (c.delete r key).2 = (settle (store r) () ((store r).delete key)).2

theorem Writes.stands [Definition α] {c : Catalogue String α}
    {store : Registry → DefinitionStore α} (hc : Writes c store) {standing : String → Option α}
    (h : (store r).Stands standing) (request : Catalogue.Request String α) :
    (store (c.answer r request).2).Stands (request.stand standing) := by
  cases request with
  | upsert d =>
    change (store (settle r () (c.upsert r d)).2).Stands _
    rw [hc.upsert]
    exact h.upsert d
  | get key =>
    change (store (c.get r key).2).Stands _
    rw [hc.get]
    exact h
  | list => exact h
  | delete key =>
    change (store (c.delete r key).2).Stands _
    rw [hc.delete]
    exact h.delete key
  | history key => exact h

theorem writes_sets : Writes Catalogue.sets Registry.sets where
  upsert r d := by
    simp only [Catalogue.sets, upsertSet, bind_pure_comp]
    exact view_settle Registry.sets fun _ => rfl
  get _ _ := rfl
  delete _ _ := rfl

theorem writes_patterns : Writes Catalogue.patterns Registry.patterns where
  upsert r d := by
    simp only [Catalogue.patterns, upsertPattern, bind_pure_comp]
    exact view_settle Registry.patterns fun _ => rfl
  get _ _ := rfl
  delete _ _ := rfl

theorem writes_scripts : Writes Catalogue.scripts Registry.scripts where
  upsert r d := by
    simp only [Catalogue.scripts, upsertScript, bind_pure_comp]
    exact view_settle Registry.scripts fun _ => rfl
  get _ _ := rfl
  delete _ _ := rfl

end Writes

/-- One request keeps the registry in line with what stands. -/
theorem Stands.answer (h : r.Stands t) (request : Request) :
    (r.answer request).2.Stands (request.stand t) := by
  cases request with
  | sets request =>
    have hpatterns : Catalogue.sets.Spares Registry.patterns := spares_sets fun _ _ _ => rfl
    have hscripts : Catalogue.sets.Spares Registry.scripts := spares_sets fun _ _ _ => rfl
    exact ⟨writes_sets.stands h.sets request, (hpatterns.answer r request).symm ▸ h.patterns,
      (hscripts.answer r request).symm ▸ h.scripts⟩
  | patterns request =>
    have hsets : Catalogue.patterns.Spares Registry.sets := spares_patterns fun _ _ _ => rfl
    have hscripts : Catalogue.patterns.Spares Registry.scripts := spares_patterns fun _ _ _ => rfl
    exact ⟨(hsets.answer r request).symm ▸ h.sets, writes_patterns.stands h.patterns request,
      (hscripts.answer r request).symm ▸ h.scripts⟩
  | scripts request =>
    have hsets : Catalogue.scripts.Spares Registry.sets := spares_scripts fun _ _ _ => rfl
    have hpatterns : Catalogue.scripts.Spares Registry.patterns :=
      spares_scripts fun _ _ _ => rfl
    exact ⟨(hsets.answer r request).symm ▸ h.sets, (hpatterns.answer r request).symm ▸ h.patterns,
      writes_scripts.stands h.scripts request⟩
  | masks request =>
    have hsets : Catalogue.masks.Spares Registry.sets := spares_masks fun _ _ _ => rfl
    have hpatterns : Catalogue.masks.Spares Registry.patterns := spares_masks fun _ _ _ => rfl
    have hscripts : Catalogue.masks.Spares Registry.scripts := spares_masks fun _ _ _ => rfl
    exact ⟨(hsets.answer r request).symm ▸ h.sets, (hpatterns.answer r request).symm ▸ h.patterns,
      (hscripts.answer r request).symm ▸ h.scripts⟩
  | pattern name => exact ⟨h.sets, h.patterns, h.scripts⟩
  | fieldMasks collection => exact ⟨h.sets, h.patterns, h.scripts⟩

theorem Stands.answers (h : r.Stands t) (requests : List Request) :
    (r.answers requests).2.Stands (requests.foldl Request.stand t) := by
  induction requests generalizing r t with
  | nil => exact h
  | cons request rest ih => exact ih (h.answer request)

end Registry

end QuerySets
