import QuerySets.Cache
import QuerySets.Definition.Mask
import QuerySets.Definition.NamedPattern
import QuerySets.Definition.QuerySet
import QuerySets.Definition.Script
import QuerySets.Definition.Store
import QuerySets.Settle

/-!
The registry of all definitions. Sets, patterns, scripts and the masks of a
collection are read through caches; a write goes to the store and takes what it
changes out of the caches.
-/

namespace QuerySets

structure Registry where
  sets : DefinitionStore QuerySet
  patterns : DefinitionStore NamedPattern
  scripts : DefinitionStore Script
  masks : DefinitionStore Mask
  setCache : Cache QuerySet
  patternCache : Cache Pattern
  scriptCache : Cache Script
  maskCache : Cache FieldMasks

namespace Registry

def inMemory (config : CacheConfig) : Registry :=
  { sets := .memory .empty
    patterns := .memory .empty
    scripts := .memory .empty
    masks := .memory .empty
    setCache := .new config
    patternCache := .new config
    scriptCache := .new config
    maskCache := .new config }

def persistent (config : CacheConfig) : Registry :=
  { inMemory config with
    sets := .persistent .empty
    patterns := .persistent .empty
    scripts := .persistent .empty
    masks := .persistent .empty }

/-- The same definitions with empty caches. -/
def reopen (r : Registry) (config : CacheConfig) : Registry :=
  { r with
    setCache := .new config
    patternCache := .new config
    scriptCache := .new config
    maskCache := .new config }

def set (r : Registry) (name : String) : Except DefinitionError QuerySet × Registry :=
  let (result, cache) := r.setCache.getOrLoad name (r.sets.get name)
  (result, { r with setCache := cache })

def loadPattern (r : Registry) (name : String) : Except DefinitionError Pattern := do
  (← r.patterns.get name).compile

/-- The pattern of a name, ready to match. -/
def pattern (r : Registry) (name : String) : Except DefinitionError Pattern × Registry :=
  let (result, cache) := r.patternCache.getOrLoad name (r.loadPattern name)
  (result, { r with patternCache := cache })

def script (r : Registry) (name : String) : Except DefinitionError Script × Registry :=
  let (result, cache) := r.scriptCache.getOrLoad name (r.scripts.get name)
  (result, { r with scriptCache := cache })

def loadMasks (r : Registry) (collection : String) : Except DefinitionError FieldMasks :=
  r.masks.list.map (Mask.forCollection collection)

/-- The masks that count for a collection. -/
def fieldMasks (r : Registry) (collection : String) :
    Except DefinitionError FieldMasks × Registry :=
  let (result, cache) := r.maskCache.getOrLoad collection (r.loadMasks collection)
  (result, { r with maskCache := cache })

/-- A write that fails changes neither the store nor the caches. -/
def upsertSet (r : Registry) (s : QuerySet) : Except DefinitionError Registry := do
  let sets ← r.sets.upsert s
  return { r with sets, setCache := r.setCache.invalidate s.name }

def upsertPattern (r : Registry) (p : NamedPattern) : Except DefinitionError Registry := do
  let patterns ← r.patterns.upsert p
  return { r with patterns, patternCache := r.patternCache.invalidate p.name }

def upsertScript (r : Registry) (s : Script) : Except DefinitionError Registry := do
  let scripts ← r.scripts.upsert s
  return { r with scripts, scriptCache := r.scriptCache.invalidate s.name }

/-- A mask of all collections changes the masks of every one. -/
def invalidateMasks (r : Registry) (collection : String) : Registry :=
  { r with
    maskCache :=
      if collection = Mask.allCollections then r.maskCache.clear
      else r.maskCache.invalidate collection }

def upsertMask (r : Registry) (m : Mask) : Except DefinitionError Registry := do
  let masks ← r.masks.upsert m
  return { r with masks }.invalidateMasks m.collection

/-- A deletion takes the name out of the cache even if there is nothing to delete. -/
def deleteSet (r : Registry) (name : String) : Except DefinitionError Unit × Registry :=
  let (result, sets) := settle r.sets () (r.sets.delete name)
  (result, { r with sets, setCache := r.setCache.invalidate name })

def deletePattern (r : Registry) (name : String) : Except DefinitionError Unit × Registry :=
  let (result, patterns) := settle r.patterns () (r.patterns.delete name)
  (result, { r with patterns, patternCache := r.patternCache.invalidate name })

def deleteScript (r : Registry) (name : String) : Except DefinitionError Unit × Registry :=
  let (result, scripts) := settle r.scripts () (r.scripts.delete name)
  (result, { r with scripts, scriptCache := r.scriptCache.invalidate name })

def deleteMask (r : Registry) (collection field : String) :
    Except DefinitionError Unit × Registry :=
  let (result, masks) := settle r.masks () (r.masks.delete (Mask.keyFor collection field))
  (result, { r with masks }.invalidateMasks collection)

def mask (r : Registry) (collection field : String) : Except DefinitionError Mask :=
  r.masks.get (Mask.keyFor collection field)

end Registry

end QuerySets
