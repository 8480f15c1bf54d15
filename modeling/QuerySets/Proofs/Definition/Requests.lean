import QuerySets.Definition.Catalogue

/-!
Requests to a registry and their answers, so that a use of the registry is a list.
A request that fails is answered with its error; the requests after it find the
registry as it left it. A request about one kind of definitions leaves everything alone
but the store and the cache of its kind.
-/

namespace QuerySets

namespace Catalogue

inductive Request (κ α : Type)
  | upsert (definition : α)
  | get (key : κ)
  | list
  | delete (key : κ)
  | history (key : κ)

inductive Answer (α : Type)
  | done (result : Except DefinitionError Unit)
  | one (result : Except DefinitionError α)
  | many (result : Except DefinitionError (List α))
  | past (result : Except DefinitionError (List (HistoryEntry α)))

variable {κ α : Type}

def answer (c : Catalogue κ α) (r : Registry) : Request κ α → Answer α × Registry
  | .upsert definition => (settle r () (c.upsert r definition)).map .done id
  | .get key => (c.get r key).map .one id
  | .list => (.many (c.list r), r)
  | .delete key => (c.delete r key).map .done id
  | .history key => (.past (c.history r key), r)

end Catalogue

namespace Registry

/-- What can be asked of a registry: the four kinds of definitions, compiled patterns,
and the masks that count for a collection. -/
inductive Request
  | sets (request : Catalogue.Request String QuerySet)
  | patterns (request : Catalogue.Request String NamedPattern)
  | scripts (request : Catalogue.Request String Script)
  | masks (request : Catalogue.Request (String × String) Mask)
  | pattern (name : String)
  | fieldMasks (collection : String)

inductive Answer
  | sets (answer : Catalogue.Answer QuerySet)
  | patterns (answer : Catalogue.Answer NamedPattern)
  | scripts (answer : Catalogue.Answer Script)
  | masks (answer : Catalogue.Answer Mask)
  | pattern (result : Except DefinitionError Pattern)
  | fieldMasks (result : Except DefinitionError FieldMasks)

def answer (r : Registry) : Request → Answer × Registry
  | .sets request => (Catalogue.sets.answer r request).map .sets id
  | .patterns request => (Catalogue.patterns.answer r request).map .patterns id
  | .scripts request => (Catalogue.scripts.answer r request).map .scripts id
  | .masks request => (Catalogue.masks.answer r request).map .masks id
  | .pattern name => (r.pattern name).map .pattern id
  | .fieldMasks collection => (r.fieldMasks collection).map .fieldMasks id

/-- Answers requests one after the other. -/
def answers (r : Registry) : List Request → List Answer × Registry
  | [] => ([], r)
  | request :: rest =>
    let (first, r) := r.answer request
    let (others, r) := answers r rest
    (first :: others, r)

end Registry

section Frame

variable {κ α β : Type} {view : Registry → β}

/-- The operations on one kind of definitions change nothing that is in view. -/
structure Catalogue.Spares (c : Catalogue κ α) (view : Registry → β) : Prop where
  upsert : ∀ r d, view (settle r () (c.upsert r d)).2 = view r
  get : ∀ r key, view (c.get r key).2 = view r
  delete : ∀ r key, view (c.delete r key).2 = view r

theorem Catalogue.Spares.answer {c : Catalogue κ α} (h : c.Spares view) (r : Registry)
    (request : Request κ α) : view (c.answer r request).2 = view r := by
  cases request with
  | upsert d => exact h.upsert r d
  | get key => exact h.get r key
  | delete key => exact h.delete r key
  | list | history _ => rfl

namespace Registry

/-- A write that makes its change in a store and in a cache, or none. -/
theorem settle_map_spared {σ : Type} {r : Registry} {result : Except DefinitionError σ}
    {after : σ → Registry} (h : ∀ s, view (after s) = view r) :
    view (settle r () (after <$> result)).2 = view r := by
  cases result with
  | error e => rfl
  | ok s => exact h s

theorem spares_sets
    (h : ∀ (r : Registry) sets setCache, view { r with sets, setCache } = view r) :
    Catalogue.sets.Spares view where
  upsert r d := by
    simp only [Catalogue.sets, upsertSet, bind_pure_comp]
    exact settle_map_spared fun sets => h r sets _
  get r key := h r r.sets _
  delete r key := h r _ _

theorem spares_patterns
    (h : ∀ (r : Registry) patterns patternCache, view { r with patterns, patternCache } = view r) :
    Catalogue.patterns.Spares view where
  upsert r d := by
    simp only [Catalogue.patterns, upsertPattern, bind_pure_comp]
    exact settle_map_spared fun patterns => h r patterns _
  get r key := rfl
  delete r key := h r _ _

theorem spares_scripts
    (h : ∀ (r : Registry) scripts scriptCache, view { r with scripts, scriptCache } = view r) :
    Catalogue.scripts.Spares view where
  upsert r d := by
    simp only [Catalogue.scripts, upsertScript, bind_pure_comp]
    exact settle_map_spared fun scripts => h r scripts _
  get r key := h r r.scripts _
  delete r key := h r _ _

theorem spares_masks
    (h : ∀ (r : Registry) masks maskCache, view { r with masks, maskCache } = view r) :
    Catalogue.masks.Spares view where
  upsert r m := by
    simp only [Catalogue.masks, upsertMask, bind_pure_comp]
    exact settle_map_spared fun masks => h r masks _
  get r key := rfl
  delete r key := h r _ _

end Registry

end Frame

end QuerySets
