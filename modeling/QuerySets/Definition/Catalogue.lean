import QuerySets.Definition.Registry

/-!
The four kinds of definitions under one interface: how each of them is written,
read, listed and deleted in a registry, and what identifies it there.
-/

namespace QuerySets

/-- How definitions `α` with keys `κ` are reached. -/
structure Catalogue (κ α : Type) where
  upsert : Registry → α → Except DefinitionError Registry
  get : Registry → κ → Except DefinitionError α × Registry
  list : Registry → Except DefinitionError (List α)
  delete : Registry → κ → Except DefinitionError Unit × Registry
  history : Registry → κ → Except DefinitionError (List (HistoryEntry α))

namespace Catalogue

def sets : Catalogue String QuerySet where
  upsert := Registry.upsertSet
  get := Registry.set
  list r := r.sets.list
  delete := Registry.deleteSet
  history r name := r.sets.history name

/-- Patterns are read as they are written, without compiling them. -/
def patterns : Catalogue String NamedPattern where
  upsert := Registry.upsertPattern
  get r name := (r.patterns.get name, r)
  list r := r.patterns.list
  delete := Registry.deletePattern
  history r name := r.patterns.history name

def scripts : Catalogue String Script where
  upsert := Registry.upsertScript
  get := Registry.script
  list r := r.scripts.list
  delete := Registry.deleteScript
  history r name := r.scripts.history name

/-- A mask is identified by its collection and its field. -/
def masks : Catalogue (String × String) Mask where
  upsert := Registry.upsertMask
  get r key := (r.mask key.1 key.2, r)
  list r := r.masks.list
  delete r key := r.deleteMask key.1 key.2
  history r key := r.masks.history (Mask.keyFor key.1 key.2)

end Catalogue

end QuerySets
