import QuerySets.Proofs.Cache
import QuerySets.Proofs.Definition.Mask
import QuerySets.Proofs.Definition.Requests

/-!
The masks in force after a run of requests. A table follows the writes of masks as
they come; the registry, in either kind of store, reflects it: the stored masks are
those of the table, and a cached table of a collection gives each field the type that
is in force there.
-/

namespace QuerySets

open Mask (Table)

namespace Mask.Table

def empty : Table := fun _ _ => none

def write (table : Table) (collection field : String) (type : Option MaskType) : Table :=
  fun c f => if c = collection ∧ f = field then type else table c f

theorem effective_write_of_ne (table : Table) {collection other : String} (field : String)
    (type : Option MaskType) (hother : other ≠ collection)
    (hgeneral : collection ≠ allCollections) (f : String) :
    (table.write collection field type).effective other f = table.effective other f := by
  simp [effective, write, hother, Ne.symm hgeneral]

end Mask.Table

/-- What a request makes of the masks in force. A mask that is refused changes nothing. -/
def Registry.Request.writeMask (table : Table) : Registry.Request → Table
  | .masks (.upsert m) =>
    match m.validate with
    | .ok () => table.write m.collection m.field (some m.type)
    | .error _ => table
  | .masks (.delete (collection, field)) => table.write collection field none
  | _ => table

/-- The masks in force after requests to an empty registry. -/
def Registry.Request.maskTable (requests : List Registry.Request) : Table :=
  requests.foldl writeMask Table.empty

namespace Registry

open Mask (keyFor)

/-- The definitions under the keys of masks are the masks of a table. -/
def TreeReflects (t : Tree Mask) (table : Table) : Prop :=
  ∀ collection field,
    (t.get? (keyFor collection field).toList).map (·.type) = table collection field

theorem TreeReflects.write {t t' : Tree Mask} {table : Table} (h : TreeReflects t table)
    {collection field : String} (new : Option Mask)
    (hget : ∀ key, t'.get? key =
      if (keyFor collection field).toList = key then new else t.get? key) :
    TreeReflects t' (table.write collection field (new.map (·.type))) := by
  intro c f
  rw [hget]
  by_cases hkey : (keyFor collection field).toList = (keyFor c f).toList
  · obtain ⟨rfl, rfl⟩ := Mask.keyFor_inj (String.toList_inj.mp hkey)
    simp [Table.write]
  · have hne : ¬ (c = collection ∧ f = field) := by
      rintro ⟨rfl, rfl⟩
      exact hkey rfl
    simp [Table.write, hkey, hne, h c f]

theorem TreeReflects.lists {t : Tree Mask} {table : Table} (h : TreeReflects t table)
    (hsorted : t.Sorted) (hkeyed : t.Keyed) : Mask.Lists t.values table := by
  intro m
  rw [← h m.collection m.field, hsorted.mem_values]
  constructor
  · rintro ⟨key, hfound⟩
    have hkey : key = m.key.toList := hkeyed key m (hsorted.mem_iff.mpr hfound)
    change (t.get? m.key.toList).map (·.type) = some m.type
    rw [← hkey, hfound]
    rfl
  · intro htype
    obtain ⟨found, hfound, hsame⟩ := Option.map_eq_some_iff.mp htype
    have hkey := hkeyed _ found (hsorted.mem_iff.mpr hfound)
    obtain ⟨hcollection, hfield⟩ := Mask.keyFor_inj (String.toList_inj.mp hkey)
    have heq : found = m := by
      cases found
      cases m
      simp_all
    exact ⟨_, heq ▸ hfound⟩

/-- The stored masks are those of a table, and what is cached agrees with it. -/
structure Reflects (r : Registry) (table : Table) : Prop where
  stored : ∃ t : Tree Mask, r.masks.Represents t ∧ t.Sorted ∧ t.Keyed ∧ TreeReflects t table
  cached : r.maskCache.Holds fun collection masks =>
    ∀ field, masks.get? field = table.effective collection field

variable {r r' : Registry} {table : Table}

theorem reflects_of_empty (hmasks : r.masks.Represents .empty) {config : CacheConfig}
    (hcache : r.maskCache = .new config) : r.Reflects Table.empty where
  stored := ⟨.empty, hmasks, Tree.sorted_empty, Tree.keyed_empty, fun _ _ => rfl⟩
  cached := hcache ▸ Cache.holds_new config

theorem reflects_inMemory (config : CacheConfig) : (inMemory config).Reflects Table.empty :=
  reflects_of_empty DefinitionStore.represents_memory rfl

theorem reflects_persistent (config : CacheConfig) : (persistent config).Reflects Table.empty :=
  reflects_of_empty DefinitionStore.represents_persistent rfl

/-- The stored masks and their cache. -/
def maskPart (r : Registry) : DefinitionStore Mask × Cache FieldMasks := (r.masks, r.maskCache)

theorem Reflects.congr (h : r.Reflects table)
    (hsame : r'.maskPart = r.maskPart) : r'.Reflects table where
  stored := (Prod.mk.inj hsame).1 ▸ h.stored
  cached := (Prod.mk.inj hsame).2 ▸ h.cached

theorem Reflects.of_loadMasks (h : r.Reflects table) {collection : String} {masks : FieldMasks}
    (hload : r.loadMasks collection = .ok masks) (field : String) :
    masks.get? field = table.effective collection field := by
  obtain ⟨t, hrepresents, hsorted, hkeyed, htree⟩ := h.stored
  cases hlist : r.masks.list with
  | error e => simp [loadMasks, hlist, Except.map] at hload
  | ok listed =>
    simp only [loadMasks, hlist, Except.map, Except.ok.injEq] at hload
    rw [← hload, hrepresents.list Mask.eq_of_decode hlist]
    exact Mask.get?_forCollection (htree.lists hsorted hkeyed) collection field

/-- The masks that are read for a collection are those in force. -/
theorem Reflects.of_fieldMasks (h : r.Reflects table) {collection : String} {masks : FieldMasks}
    (hread : (r.fieldMasks collection).1 = .ok masks) (field : String) :
    masks.get? field = table.effective collection field := by
  rcases Cache.getOrLoad_fst h.cached (r.loadMasks collection) with
    ⟨found, hfound, hresult⟩ | hresult
  · have heq : found = masks := Except.ok.inj (hresult.symm.trans hread)
    exact heq ▸ hfound field
  · exact h.of_loadMasks (hresult.symm.trans hread) field

theorem Reflects.fieldMasks (h : r.Reflects table) (collection : String) :
    (r.fieldMasks collection).2.Reflects table where
  stored := h.stored
  cached := h.cached.getOrLoad fun _ hload field => h.of_loadMasks hload field

/-- A write under one collection leaves right tables in the cache. -/
theorem Reflects.invalidateMasks (h : r.Reflects table) {masks : DefinitionStore Mask}
    {t : Tree Mask} {collection field : String} {type : Option MaskType}
    (hrepresents : masks.Represents t) (hsorted : t.Sorted) (hkeyed : t.Keyed)
    (htree : TreeReflects t (table.write collection field type)) :
    ({ r with masks }.invalidateMasks collection).Reflects (table.write collection field type) where
  stored := ⟨t, hrepresents, hsorted, hkeyed, htree⟩
  cached := by
    simp only [Registry.invalidateMasks]
    split
    · exact Cache.Holds.clear r.maskCache
    next hgeneral =>
      refine h.cached.invalidate fun other found hother hfound f => ?_
      rw [hfound f, Table.effective_write_of_ne table field type hother hgeneral]

theorem Reflects.upsertMask (h : r.Reflects table) (m : Mask) :
    (settle r () (r.upsertMask m)).2.Reflects
      (Request.writeMask table (.masks (.upsert m))) := by
  obtain ⟨t, hrepresents, hsorted, hkeyed, htree⟩ := h.stored
  cases hvalid : m.validate with
  | error e =>
    have hrefused : r.upsertMask m = .error e := by
      simp [Registry.upsertMask, DefinitionStore.upsert_of_invalid r.masks hvalid, bind,
        Except.bind]
    simpa [Request.writeMask, hvalid, hrefused, settle] using h
  | ok _ =>
    obtain ⟨masks, hmasks, hrepresents'⟩ := hrepresents.upsert hvalid
    have hwritten : r.upsertMask m = .ok ({ r with masks }.invalidateMasks m.collection) := by
      simp [Registry.upsertMask, hmasks, bind, Except.bind, pure, Except.pure]
    simp only [Request.writeMask, hvalid, hwritten, settle]
    exact h.invalidateMasks hrepresents' (hsorted.insert _ m) (hkeyed.insert m)
      (htree.write (some m) fun key => Tree.get?_insert t _ key m)

theorem Reflects.deleteMask (h : r.Reflects table) (collection field : String) :
    (r.deleteMask collection field).2.Reflects (table.write collection field none) := by
  obtain ⟨t, hrepresents, hsorted, hkeyed, htree⟩ := h.stored
  rcases hrepresents.delete (keyFor collection field) with ⟨hmissing, hfailed⟩ | ⟨masks, hok, hleft⟩
  · simp only [Registry.deleteMask, hfailed, settle]
    refine h.invalidateMasks hrepresents hsorted hkeyed (htree.write none fun key => ?_)
    split
    next hkey => rw [← hkey, hmissing]
    next => rfl
  · simp only [Registry.deleteMask, hok, settle]
    exact h.invalidateMasks hleft (hsorted.erase _) (hkeyed.erase _)
      (htree.write none fun key => Tree.get?_erase t _ key)

/-- One request keeps the registry in line with the table. -/
theorem Reflects.answer (h : r.Reflects table) (request : Request) :
    (r.answer request).2.Reflects (request.writeMask table) := by
  cases request with
  | sets request => exact h.congr ((spares_sets fun _ _ _ => rfl).answer r request)
  | patterns request => exact h.congr ((spares_patterns fun _ _ _ => rfl).answer r request)
  | scripts request => exact h.congr ((spares_scripts fun _ _ _ => rfl).answer r request)
  | masks request =>
    cases request with
    | upsert m => exact h.upsertMask m
    | delete key => exact h.deleteMask key.1 key.2
    | _ => exact h.congr rfl
  | pattern name => exact h.congr rfl
  | fieldMasks collection => exact h.fieldMasks collection

theorem Reflects.answers (h : r.Reflects table) (requests : List Request) :
    (r.answers requests).2.Reflects (requests.foldl Request.writeMask table) := by
  induction requests generalizing r table with
  | nil => exact h
  | cons request rest ih => exact ih (h.answer request)

end Registry

end QuerySets
