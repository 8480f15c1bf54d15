import QuerySets.Proofs.Cache
import QuerySets.Proofs.Definition.Mask
import QuerySets.Proofs.Definition.MaskTable
import QuerySets.Proofs.Definition.Standing

/-!
The caches of a registry cannot be seen. What they hold is what their loaders would
give at the moment, and every write restores this by taking out the entries that it
may have changed. So a registry answers like its bare twin, whose caches keep nothing,
and what is read through a cache is what the requests so far have written.
-/

namespace QuerySets.Registry

/-- The same definitions behind caches that keep nothing. -/
def bare (r : Registry) : Registry := r.reopen .disabled

/-- Every cached value is the one that would be loaded now. -/
structure Coherent (r : Registry) : Prop where
  sets : r.setCache.Holds fun name s => r.sets.get name = .ok s
  patterns : r.patternCache.Holds fun name p => r.loadPattern name = .ok p
  scripts : r.scriptCache.Holds fun name s => r.scripts.get name = .ok s
  fieldMasks : r.maskCache.Holds fun collection masks => r.loadMasks collection = .ok masks
  masks : ∃ s, r.masks = .memory s ∧ s.current.Keyed

theorem coherent_inMemory (config : CacheConfig) : (inMemory config).Coherent where
  sets := Cache.holds_new config
  patterns := Cache.holds_new config
  scripts := Cache.holds_new config
  fieldMasks := Cache.holds_new config
  masks := ⟨.empty, rfl, Tree.keyed_empty⟩

/-- Two results of an operation, on a registry and on its bare twin. -/
def Alike {β : Type} (cached loaded : β × Registry) : Prop :=
  cached.1 = loaded.1 ∧ cached.2.bare = loaded.2 ∧ cached.2.Coherent

variable {r : Registry}

section Reads

theorem bare_set (r : Registry) (name : String) :
    r.bare.set name = (r.sets.get name, r.bare) := by
  simp only [set, bare, reopen, Cache.getOrLoad_disabled]

theorem bare_pattern (r : Registry) (name : String) :
    r.bare.pattern name = (r.loadPattern name, r.bare) := by
  simp only [pattern, bare, reopen, Cache.getOrLoad_disabled]
  rfl

theorem bare_script (r : Registry) (name : String) :
    r.bare.script name = (r.scripts.get name, r.bare) := by
  simp only [script, bare, reopen, Cache.getOrLoad_disabled]

theorem bare_fieldMasks (r : Registry) (collection : String) :
    r.bare.fieldMasks collection = (r.loadMasks collection, r.bare) := by
  simp only [fieldMasks, bare, reopen, Cache.getOrLoad_disabled]
  rfl

theorem set_alike (h : r.Coherent) (name : String) : Alike (r.set name) (r.bare.set name) := by
  rw [bare_set]
  exact ⟨Cache.getOrLoad_eq_load h.sets fun _ ha => ha, rfl,
    { h with sets := h.sets.getOrLoad fun _ ha => ha }⟩

theorem pattern_alike (h : r.Coherent) (name : String) :
    Alike (r.pattern name) (r.bare.pattern name) := by
  rw [bare_pattern]
  exact ⟨Cache.getOrLoad_eq_load h.patterns fun _ ha => ha, rfl,
    { h with patterns := h.patterns.getOrLoad fun _ ha => ha }⟩

theorem script_alike (h : r.Coherent) (name : String) :
    Alike (r.script name) (r.bare.script name) := by
  rw [bare_script]
  exact ⟨Cache.getOrLoad_eq_load h.scripts fun _ ha => ha, rfl,
    { h with scripts := h.scripts.getOrLoad fun _ ha => ha }⟩

theorem fieldMasks_alike (h : r.Coherent) (collection : String) :
    Alike (r.fieldMasks collection) (r.bare.fieldMasks collection) := by
  rw [bare_fieldMasks]
  exact ⟨Cache.getOrLoad_eq_load h.fieldMasks fun _ ha => ha, rfl,
    { h with fieldMasks := h.fieldMasks.getOrLoad fun _ ha => ha }⟩

end Reads

section Stores

variable {α β : Type} [Definition α] {s s' : DefinitionStore α} {cache : Cache β}
  (load : Except DefinitionError α → Except DefinitionError β)

/-- A cache of what is loaded from a store stays right when the key that is written
is taken out of it. -/
theorem holds_upsert (h : cache.Holds fun key b => load (s.get key) = .ok b) {d : α}
    (hs : s.upsert d = .ok s') :
    (cache.invalidate (Definition.key d)).Holds fun key b => load (s'.get key) = .ok b :=
  h.invalidate fun key b hne hb => by rwa [DefinitionStore.get_upsert_of_ne hs hne]

theorem holds_delete (h : cache.Holds fun key b => load (s.get key) = .ok b) {key : String}
    (hs : s.delete key = .ok s') :
    (cache.invalidate key).Holds fun key b => load (s'.get key) = .ok b :=
  h.invalidate fun other b hne hb => by rwa [DefinitionStore.get_delete_of_ne hs hne]

/-- A deletion that fails still takes its key out of the cache. -/
theorem holds_deleted (h : cache.Holds fun key b => load (s.get key) = .ok b) (gone : String) :
    (cache.invalidate gone).Holds fun key b =>
      load ((settle s () (s.delete gone)).2.get key) = .ok b := by
  cases hs : s.delete gone with
  | ok s' => exact holds_delete load h hs
  | error e => exact h.invalidate fun _ _ _ hb => hb

end Stores

section Writes

open Catalogue

/-- A write that both registries accept or refuse together. -/
theorem settle_alike {σ : Type} (h : r.Coherent) {result : Except DefinitionError σ}
    {after bareAfter : σ → Registry}
    (hok : ∀ s, result = .ok s → (after s).bare = bareAfter s ∧ (after s).Coherent) :
    Alike (settle r () (after <$> result)) (settle r.bare () (bareAfter <$> result)) := by
  cases hresult : result with
  | error e => exact ⟨rfl, rfl, h⟩
  | ok s => exact ⟨rfl, hok s hresult⟩

theorem upsertSet_alike (h : r.Coherent) (d : QuerySet) :
    Alike (settle r () (r.upsertSet d)) (settle r.bare () (r.bare.upsertSet d)) := by
  simp only [upsertSet, bind_pure_comp]
  exact settle_alike h fun sets hs =>
    ⟨rfl, { h with sets := holds_upsert id h.sets hs }⟩

theorem upsertPattern_alike (h : r.Coherent) (d : NamedPattern) :
    Alike (settle r () (r.upsertPattern d)) (settle r.bare () (r.bare.upsertPattern d)) := by
  simp only [upsertPattern, bind_pure_comp]
  exact settle_alike h fun patterns hs =>
    ⟨rfl, { h with patterns := holds_upsert (· >>= NamedPattern.compile) h.patterns hs }⟩

theorem upsertScript_alike (h : r.Coherent) (d : Script) :
    Alike (settle r () (r.upsertScript d)) (settle r.bare () (r.bare.upsertScript d)) := by
  simp only [upsertScript, bind_pure_comp]
  exact settle_alike h fun scripts hs =>
    ⟨rfl, { h with scripts := holds_upsert id h.scripts hs }⟩

theorem deleteSet_alike (h : r.Coherent) (name : String) :
    Alike (r.deleteSet name) (r.bare.deleteSet name) :=
  ⟨rfl, rfl, { h with sets := holds_deleted id h.sets name }⟩

theorem deletePattern_alike (h : r.Coherent) (name : String) :
    Alike (r.deletePattern name) (r.bare.deletePattern name) :=
  ⟨rfl, rfl,
    { h with patterns := holds_deleted (· >>= NamedPattern.compile) h.patterns name }⟩

theorem deleteScript_alike (h : r.Coherent) (name : String) :
    Alike (r.deleteScript name) (r.bare.deleteScript name) :=
  ⟨rfl, rfl, { h with scripts := holds_deleted id h.scripts name }⟩

/-- Writing masks of one collection takes out every table that may have changed. -/
theorem Coherent.invalidateMasks (h : r.Coherent) {s s' : MemoryDefinitions Mask}
    {collection : String} (hmasks : r.masks = .memory s) (hkeyed : s'.current.Keyed)
    (hagree : Mask.AgreeOutside collection s'.current s.current) :
    ({ r with masks := .memory s' }.invalidateMasks collection).Coherent := by
  have htables := h.fieldMasks
  simp only [loadMasks, hmasks] at htables
  refine { h with fieldMasks := ?_, masks := ⟨s', rfl, hkeyed⟩ }
  simp only [Registry.invalidateMasks]
  split
  · exact Cache.Holds.clear r.maskCache
  next hgeneral =>
    refine htables.invalidate fun other masks hother hload => ?_
    rw [← hload]
    exact congrArg Except.ok (hagree.forCollection_eq hgeneral hother)

theorem upsertMask_alike (h : r.Coherent) (m : Mask) :
    Alike (settle r () (r.upsertMask m)) (settle r.bare () (r.bare.upsertMask m)) := by
  simp only [upsertMask, bind_pure_comp]
  refine settle_alike h fun masks hs => ⟨?_, ?_⟩
  · simp only [Registry.invalidateMasks]
    split <;> rfl
  · obtain ⟨s, hmasks, hkeyed⟩ := h.masks
    rw [hmasks] at hs
    cases hvalid : Definition.validate m with
    | error e => rw [DefinitionStore.upsert_of_invalid _ hvalid] at hs; cases hs
    | ok _ =>
      rw [DefinitionStore.upsert, s.upsert_of_valid hvalid, Except.map] at hs
      cases hs
      exact h.invalidateMasks hmasks (hkeyed.insert m) (Mask.agreeOutside_insert hkeyed m)

theorem deleteMask_alike (h : r.Coherent) (collection field : String) :
    Alike (r.deleteMask collection field) (r.bare.deleteMask collection field) := by
  refine ⟨rfl, ?_, ?_⟩
  · simp only [deleteMask, Registry.invalidateMasks]
    split <;> rfl
  · obtain ⟨s, hmasks, hkeyed⟩ := h.masks
    simp only [deleteMask, hmasks, DefinitionStore.delete, s.delete_eq]
    split
    · exact h.invalidateMasks hmasks (hkeyed.erase _)
        (Mask.agreeOutside_erase hkeyed collection field)
    · exact h.invalidateMasks hmasks hkeyed fun _ _ => rfl

end Writes

section Runs

open Catalogue

theorem Alike.map {β γ : Type} {cached loaded : β × Registry} (h : Alike cached loaded)
    (f : β → γ) : Alike (cached.map f id) (loaded.map f id) :=
  ⟨congrArg f h.1, h.2.1, h.2.2⟩

/-- The bare twin does the same in every operation on one kind of definitions. -/
structure Transparent {κ α : Type} (c : Catalogue κ α) : Prop where
  upsert : ∀ {r : Registry}, r.Coherent → ∀ d,
    Alike (settle r () (c.upsert r d)) (settle r.bare () (c.upsert r.bare d))
  get : ∀ {r : Registry}, r.Coherent → ∀ key, Alike (c.get r key) (c.get r.bare key)
  list : ∀ r : Registry, c.list r = c.list r.bare
  delete : ∀ {r : Registry}, r.Coherent → ∀ key, Alike (c.delete r key) (c.delete r.bare key)
  history : ∀ (r : Registry) (key : κ), c.history r key = c.history r.bare key

theorem Transparent.answer_alike {κ α : Type} {c : Catalogue κ α} (hc : Transparent c)
    (h : r.Coherent) (request : Catalogue.Request κ α) :
    Alike (c.answer r request) (c.answer r.bare request) := by
  cases request with
  | upsert d => exact (hc.upsert h d).map _
  | get key => exact (hc.get h key).map _
  | list => exact ⟨congrArg Catalogue.Answer.many (hc.list r), rfl, h⟩
  | delete key => exact (hc.delete h key).map _
  | history key => exact ⟨congrArg Catalogue.Answer.past (hc.history r key), rfl, h⟩

theorem transparent_sets : Transparent Catalogue.sets where
  upsert h d := upsertSet_alike h d
  get h name := set_alike h name
  list _ := rfl
  delete h name := deleteSet_alike h name
  history _ _ := rfl

theorem transparent_patterns : Transparent Catalogue.patterns where
  upsert h d := upsertPattern_alike h d
  get h _ := ⟨rfl, rfl, h⟩
  list _ := rfl
  delete h name := deletePattern_alike h name
  history _ _ := rfl

theorem transparent_scripts : Transparent Catalogue.scripts where
  upsert h d := upsertScript_alike h d
  get h name := script_alike h name
  list _ := rfl
  delete h name := deleteScript_alike h name
  history _ _ := rfl

theorem transparent_masks : Transparent Catalogue.masks where
  upsert h m := upsertMask_alike h m
  get h _ := ⟨rfl, rfl, h⟩
  list _ := rfl
  delete h key := deleteMask_alike h key.1 key.2
  history _ _ := rfl

theorem answer_alike (h : r.Coherent) (request : Request) :
    Alike (r.answer request) (r.bare.answer request) := by
  cases request with
  | sets request => exact (transparent_sets.answer_alike h request).map _
  | patterns request => exact (transparent_patterns.answer_alike h request).map _
  | scripts request => exact (transparent_scripts.answer_alike h request).map _
  | masks request => exact (transparent_masks.answer_alike h request).map _
  | pattern name => exact (pattern_alike h name).map _
  | fieldMasks collection => exact (fieldMasks_alike h collection).map _

theorem answers_alike (h : r.Coherent) (requests : List Request) :
    Alike (r.answers requests) (r.bare.answers requests) := by
  induction requests generalizing r with
  | nil => exact ⟨rfl, rfl, h⟩
  | cons request rest ih =>
    obtain ⟨hfirst, hafter, hcoherent⟩ := answer_alike h request
    obtain ⟨hothers, hlast, hend⟩ := ih hcoherent
    rw [hafter] at hothers hlast
    refine ⟨?_, hlast, hend⟩
    exact (List.cons.injEq _ _ _ _).mpr ⟨hfirst, hothers⟩

end Runs

section Reflected

theorem Stands.set {t : Standing} (h : r.Stands t) (hcoherent : r.Coherent) (name : String) :
    (r.set name).1 = Definition.found name (t.sets name) := by
  rw [(set_alike hcoherent name).1, bare_set]
  exact h.sets.get name

theorem Stands.script {t : Standing} (h : r.Stands t) (hcoherent : r.Coherent) (name : String) :
    (r.script name).1 = Definition.found name (t.scripts name) := by
  rw [(script_alike hcoherent name).1, bare_script]
  exact h.scripts.get name

theorem Stands.pattern {t : Standing} (h : r.Stands t) (hcoherent : r.Coherent) (name : String) :
    (r.pattern name).1 = Definition.found name (t.patterns name) >>= NamedPattern.compile := by
  rw [(pattern_alike hcoherent name).1, bare_pattern, ← h.patterns.get]
  rfl

/-- In memory the masks of a collection are always read. -/
theorem Coherent.exists_fieldMasks (h : r.Coherent) (collection : String) :
    ∃ masks, (r.fieldMasks collection).1 = .ok masks := by
  obtain ⟨s, hmasks, -⟩ := h.masks
  rw [(fieldMasks_alike h collection).1, bare_fieldMasks, loadMasks, hmasks]
  exact ⟨_, rfl⟩

end Reflected

/-- A registry in memory answers all requests as it would without caches, and every
read that goes through a cache tells what the requests so far have written: the set, the
pattern and the script that stand under a name, and for each field of a collection the mask
in force there, be it written for the collection or for all. -/
theorem answers_eq_uncached (config : CacheConfig) (requests : List Request) :
    ((inMemory config).answers requests).1 = ((inMemory .disabled).answers requests).1 ∧
      let r := ((inMemory config).answers requests).2
      r.bare = ((inMemory .disabled).answers requests).2 ∧
        (∀ name, (r.set name).1 = r.sets.get name) ∧
        (∀ name, (r.script name).1 = r.scripts.get name) ∧
        (∀ name, (r.pattern name).1 = r.patterns.get name >>= NamedPattern.compile) ∧
        (∀ collection, (r.fieldMasks collection).1 =
          r.masks.list.map (Mask.forCollection collection)) ∧
        let standing := Request.standing requests
        (∀ name, (r.set name).1 = Definition.found name (standing.sets name)) ∧
        (∀ name, (r.script name).1 = Definition.found name (standing.scripts name)) ∧
        (∀ name, (r.pattern name).1 =
          Definition.found name (standing.patterns name) >>= NamedPattern.compile) ∧
        ∀ collection, ∃ masks, (r.fieldMasks collection).1 = .ok masks ∧
          ∀ field, masks.get? field = (Request.maskTable requests).effective collection field := by
  obtain ⟨hanswers, hafter, hcoherent⟩ := answers_alike (coherent_inMemory config) requests
  have hstands : ((inMemory config).answers requests).2.Stands (Request.standing requests) :=
    (stands_inMemory config).answers requests
  have hreflects := (reflects_inMemory config).answers requests
  refine ⟨hanswers, hafter, ?_, ?_, ?_, ?_, hstands.set hcoherent, hstands.script hcoherent,
    hstands.pattern hcoherent, ?_⟩
  · intro name
    rw [(set_alike hcoherent name).1, bare_set]
  · intro name
    rw [(script_alike hcoherent name).1, bare_script]
  · intro name
    rw [(pattern_alike hcoherent name).1, bare_pattern]
    rfl
  · intro collection
    rw [(fieldMasks_alike hcoherent collection).1, bare_fieldMasks]
    rfl
  · intro collection
    obtain ⟨masks, hread⟩ := hcoherent.exists_fieldMasks collection
    exact ⟨masks, hread, hreflects.of_fieldMasks hread⟩

/-- A mask of one collection is written, and the masks of the collection are read. -/
def ordersRead : List Request :=
  [.masks (.upsert ⟨"orders", "card", .right 4⟩), .fieldMasks "orders"]

/-- Then a mask of all collections is written. -/
def generalWritten : List Request := ordersRead ++ [.masks (.upsert ⟨"*", "mail", .email⟩)]

/-- The table of the collection is in the cache when the general mask is written. What is read
after that has both masks, and nothing else is masked. -/
theorem general_mask_reaches_orders :
    (((inMemory ⟨4, 60⟩).answers ordersRead).2.maskCache.entries.map
      fun entry => (entry.1, entry.2.entries)) = [("orders", [("card", .right 4)])] ∧
    ∃ masks, (((inMemory ⟨4, 60⟩).answers generalWritten).2.fieldMasks "orders").1 = .ok masks ∧
      ∀ field, masks.get? field =
        if field = "card" then some (.right 4)
        else if field = "mail" then some .email else none := by
  refine ⟨rfl, ?_⟩
  obtain ⟨-, -, -, -, -, -, -, -, -, hmasks⟩ := answers_eq_uncached ⟨4, 60⟩ generalWritten
  obtain ⟨masks, hread, htypes⟩ := hmasks "orders"
  refine ⟨masks, hread, fun field => ?_⟩
  rw [htypes]
  have htable : Request.maskTable generalWritten =
      (Mask.Table.empty.write "orders" "card" (some (.right 4))).write "*" "mail" (some .email) :=
    rfl
  simp only [htable, Mask.Table.effective, Mask.Table.write, Mask.Table.empty,
    Mask.allCollections, true_and, false_and, if_false, String.reduceEq]
  split <;> rfl

end QuerySets.Registry
