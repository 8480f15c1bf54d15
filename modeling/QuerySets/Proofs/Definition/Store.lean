import QuerySets.Definition.Store
import QuerySets.Proofs.Store.Tree

/-!
What a definition store holds, whichever of the two kinds it is: a tree of
definitions, kept as they are or as their records. A write that is accepted changes
the tree under one key; everything read under another key stays as it was.
-/

namespace QuerySets

namespace Tree

variable {α β : Type}

def map (f : α → β) (t : Tree α) : Tree β := ⟨t.entries.map fun entry => (entry.1, f entry.2)⟩

theorem get?_map (f : α → β) (t : Tree α) (key : List Char) :
    (t.map f).get? key = (t.get? key).map f := by
  unfold get? map
  induction t.entries with
  | nil => rfl
  | cons entry rest ih =>
    obtain ⟨k, record⟩ := entry
    by_cases h : k = key <;> simp_all [Association.lookup_cons]

theorem map_insert (f : α → β) (t : Tree α) (key : List Char) (record : α) :
    (t.insert key record).map f = (t.map f).insert key (f record) := by
  unfold insert map
  congr 1
  dsimp only
  induction t.entries with
  | nil => rfl
  | cons entry rest ih =>
    obtain ⟨k, old⟩ := entry
    simp only [put, List.map_cons]
    split
    · rfl
    split
    · rw [List.map_cons, ih]
    · rfl

theorem map_erase (f : α → β) (t : Tree α) (key : List Char) :
    (t.erase key).map f = (t.map f).erase key := by
  unfold erase map
  rw [List.filter_map]
  rfl

theorem values_map (f : α → β) (t : Tree α) : (t.map f).values = t.values.map f := by
  simp [values, map]

end Tree

namespace Tree

variable {α : Type}

/-- A record that a test passes over can be written without changing what passes. -/
theorem filter_values_put {test : α → Bool} {key : List Char} {record : α}
    {entries : List (List Char × α)} (hnew : test record = false)
    (hold : ∀ old, (key, old) ∈ entries → test old = false) :
    ((put key record entries).map (·.2)).filter test = (entries.map (·.2)).filter test := by
  induction entries with
  | nil => simp [put, hnew]
  | cons entry rest ih =>
    obtain ⟨k, old⟩ := entry
    simp only [put]
    split
    next hk =>
      have hpassed : test old = false := hold old (by simp [hk])
      simp [hnew, hpassed]
    split
    next =>
      have hrest := ih fun other hmem => hold other (List.mem_cons_of_mem _ hmem)
      simp only [List.map_cons, List.filter_cons, hrest]
    next => simp [hnew]

theorem filter_values_insert {test : α → Bool} {t : Tree α} {key : List Char} {record : α}
    (hnew : test record = false) (hold : ∀ old, (key, old) ∈ t.entries → test old = false) :
    (t.insert key record).values.filter test = t.values.filter test :=
  filter_values_put hnew hold

theorem filter_values_erase {test : α → Bool} {t : Tree α} {key : List Char}
    (hold : ∀ old, (key, old) ∈ t.entries → test old = false) :
    (t.erase key).values.filter test = t.values.filter test := by
  unfold erase values
  dsimp only
  revert hold
  induction t.entries with
  | nil => intro _; rfl
  | cons entry rest ih =>
    intro hold
    obtain ⟨k, old⟩ := entry
    have hrest := ih fun other hmem => hold other (List.mem_cons_of_mem _ hmem)
    by_cases hk : k = key
    · have hpassed : test old = false := hold old (by simp [hk])
      simpa [hk, hpassed] using hrest
    · simp only [ne_eq, decide_not] at hrest ⊢
      simp [hk, List.filter_cons, hrest]

variable [Definition α]

/-- Every definition stands under its own key. -/
def Keyed (t : Tree α) : Prop :=
  ∀ key d, (key, d) ∈ t.entries → key = (Definition.key d).toList

theorem keyed_empty : (empty : Tree α).Keyed := by
  intro key d h
  simp [empty] at h

theorem Keyed.insert {t : Tree α} (h : t.Keyed) (d : α) :
    (t.insert (Definition.key d).toList d).Keyed := by
  intro key other hmem
  rcases mem_put hmem with heq | hmem
  · cases heq
    rfl
  · exact h key other hmem

theorem Keyed.erase {t : Tree α} (h : t.Keyed) (key : List Char) : (t.erase key).Keyed :=
  fun k d hmem => h k d (List.mem_filter.mp hmem).1

end Tree

section Writes

variable {α : Type} [Definition α]

theorem MemoryDefinitions.upsert_of_valid (s : MemoryDefinitions α) {d : α}
    (hd : Definition.validate d = .ok ()) :
    s.upsert d = .ok ⟨s.current.insert (Definition.key d).toList d,
      s.record (Definition.key d) .updated⟩ := by
  simp [MemoryDefinitions.upsert, hd, bind, Except.bind, pure, Except.pure]

theorem MemoryDefinitions.delete_eq (s : MemoryDefinitions α) (key : String) :
    s.delete key =
      if (s.current.get? key.toList).isSome then
        .ok ⟨s.current.erase key.toList, s.record key .deleted⟩
      else .error (.notFound (Definition.kind α) key) := by
  cases h : s.current.get? key.toList <;>
    simp [MemoryDefinitions.delete, MemoryDefinitions.get, h, bind, Except.bind, pure, Except.pure]

theorem PersistentDefinitions.upsert_of_valid (s : PersistentDefinitions) {d : α}
    (hd : Definition.validate d = .ok ()) :
    ∃ s', s.upsert d = .ok s' ∧
      s'.current = s.current.insert (Definition.key d).toList (Definition.toJson d) := by
  simp only [PersistentDefinitions.upsert, hd, bind, Except.bind]
  cases s.current.get? (Definition.key d).toList with
  | none => exact ⟨_, rfl, rfl⟩
  | some record => exact ⟨_, rfl, rfl⟩

theorem PersistentDefinitions.delete_of_missing (s : PersistentDefinitions) {key : String}
    (h : s.current.get? key.toList = none) :
    s.delete α key = .error (.notFound (Definition.kind α) key) := by
  simp [PersistentDefinitions.delete, h]

theorem PersistentDefinitions.delete_of_present (s : PersistentDefinitions) {key : String}
    {record : Json} (h : s.current.get? key.toList = some record) :
    ∃ s', s.delete α key = .ok s' ∧ s'.current = s.current.erase key.toList := by
  simp only [PersistentDefinitions.delete, h]
  exact ⟨_, rfl, rfl⟩

end Writes

namespace DefinitionStore

variable {α : Type} [Definition α]

/-- The definitions that a store holds under their keys. -/
def Represents (s : DefinitionStore α) (t : Tree α) : Prop :=
  match s with
  | memory s => s.current = t
  | persistent s => s.current = t.map Definition.toJson

theorem represents_memory : (memory .empty : DefinitionStore α).Represents .empty := rfl

theorem represents_persistent : (persistent .empty : DefinitionStore α).Represents .empty := rfl

theorem upsert_of_invalid (s : DefinitionStore α) {d : α} {e : DefinitionError}
    (h : Definition.validate d = .error e) : s.upsert d = .error e := by
  cases s <;>
    simp [upsert, MemoryDefinitions.upsert, PersistentDefinitions.upsert, h, Except.map, bind,
      Except.bind]

/-- A definition that is valid is taken, and stands under its key then. -/
theorem Represents.upsert {s : DefinitionStore α} {t : Tree α} (h : s.Represents t) {d : α}
    (hd : Definition.validate d = .ok ()) :
    ∃ s', s.upsert d = .ok s' ∧ s'.Represents (t.insert (Definition.key d).toList d) := by
  cases s with
  | memory s =>
    cases h
    refine ⟨.memory ⟨s.current.insert (Definition.key d).toList d,
      s.record (Definition.key d) .updated⟩, ?_, rfl⟩
    rw [DefinitionStore.upsert, s.upsert_of_valid hd, Except.map]
  | persistent s =>
    have hcurrent : s.current = t.map Definition.toJson := h
    obtain ⟨s', hs', hwritten⟩ := s.upsert_of_valid hd
    refine ⟨.persistent s', ?_, ?_⟩
    · rw [DefinitionStore.upsert, hs', Except.map]
    · change s'.current = _
      rw [hwritten, hcurrent, Tree.map_insert]

/-- Only what is there can be deleted. -/
theorem Represents.delete {s : DefinitionStore α} {t : Tree α} (h : s.Represents t)
    (key : String) :
    (t.get? key.toList = none ∧ s.delete key = .error (.notFound (Definition.kind α) key)) ∨
      ∃ s', s.delete key = .ok s' ∧ s'.Represents (t.erase key.toList) := by
  cases s with
  | memory s =>
    cases h
    rw [DefinitionStore.delete, s.delete_eq]
    cases hold : s.current.get? key.toList with
    | none => exact Or.inl ⟨rfl, rfl⟩
    | some d => exact Or.inr ⟨.memory _, rfl, rfl⟩
  | persistent s =>
    have hcurrent : s.current = t.map Definition.toJson := h
    have hget := Tree.get?_map Definition.toJson t key.toList
    rw [← hcurrent] at hget
    cases hold : t.get? key.toList with
    | none =>
      rw [hold] at hget
      left
      refine ⟨rfl, ?_⟩
      rw [DefinitionStore.delete, s.delete_of_missing hget, Except.map]
    | some d =>
      rw [hold] at hget
      obtain ⟨s', hs', herased⟩ := s.delete_of_present (α := α) hget
      right
      refine ⟨.persistent s', ?_, ?_⟩
      · rw [DefinitionStore.delete, hs', Except.map]
      · change s'.current = _
        rw [herased, hcurrent, Tree.map_erase]

/-- A write leaves what is read under other keys alone. -/
theorem get_upsert_of_ne {s s' : DefinitionStore α} {d : α} (h : s.upsert d = .ok s')
    {key : String} (hne : key ≠ Definition.key d) : s'.get key = s.get key := by
  have hkey : (Definition.key d).toList ≠ key.toList :=
    fun heq => hne (String.toList_inj.mp heq).symm
  cases hd : Definition.validate d with
  | error e => rw [s.upsert_of_invalid hd] at h; cases h
  | ok _ =>
    cases s with
    | memory s =>
      rw [DefinitionStore.upsert, s.upsert_of_valid hd, Except.map] at h
      cases h
      simp [DefinitionStore.get, MemoryDefinitions.get, Tree.get?_insert, hkey]
    | persistent s =>
      obtain ⟨written, hwritten, hcurrent⟩ := s.upsert_of_valid hd
      rw [DefinitionStore.upsert, hwritten, Except.map] at h
      cases h
      simp [DefinitionStore.get, PersistentDefinitions.get, hcurrent, Tree.get?_insert, hkey]

/-- What is valid is taken, and it is read back under its key if its record can be read. -/
theorem get_upsert_of_valid (s : DefinitionStore α) {d : α} (hd : Definition.validate d = .ok ())
    (hread : PersistentDefinitions.decode α (Definition.toJson d) = .ok d) :
    ∃ s', s.upsert d = .ok s' ∧ s'.get (Definition.key d) = .ok d := by
  cases s with
  | memory s =>
    refine ⟨_, by rw [DefinitionStore.upsert, s.upsert_of_valid hd, Except.map], ?_⟩
    simp [DefinitionStore.get, MemoryDefinitions.get, Tree.get?_insert]
  | persistent s =>
    obtain ⟨written, hwritten, hcurrent⟩ := s.upsert_of_valid hd
    refine ⟨.persistent written, by rw [DefinitionStore.upsert, hwritten, Except.map], ?_⟩
    simp [DefinitionStore.get, PersistentDefinitions.get, hcurrent, Tree.get?_insert, hread]

theorem get_delete_of_ne {s s' : DefinitionStore α} {deleted : String}
    (h : s.delete deleted = .ok s') {key : String} (hne : key ≠ deleted) :
    s'.get key = s.get key := by
  have hkey : deleted.toList ≠ key.toList := fun heq => hne (String.toList_inj.mp heq).symm
  cases s with
  | memory s =>
    rw [DefinitionStore.delete, s.delete_eq] at h
    split at h
    next =>
      cases h
      simp [DefinitionStore.get, MemoryDefinitions.get, Tree.get?_erase, hkey]
    next => cases h
  | persistent s =>
    cases hold : s.current.get? deleted.toList with
    | none => rw [DefinitionStore.delete, s.delete_of_missing hold] at h; cases h
    | some record =>
      obtain ⟨left, hleft, hcurrent⟩ := s.delete_of_present (α := α) hold
      rw [DefinitionStore.delete, hleft, Except.map] at h
      cases h
      simp [DefinitionStore.get, PersistentDefinitions.get, hcurrent, Tree.get?_erase, hkey]

omit [Definition α] in
theorem mapM_ok_sound {f : Json → Except DefinitionError α} {g : α → Json}
    (hfg : ∀ d d', f (g d) = .ok d' → d' = d) {ds ds' : List α}
    (h : (ds.map g).mapM f = .ok ds') : ds' = ds := by
  induction ds generalizing ds' with
  | nil => cases h; rfl
  | cons d rest ih =>
    simp only [List.map_cons, List.mapM_cons, bind, Except.bind] at h
    cases hd : f (g d) with
    | error e => simp [hd] at h
    | ok first =>
      cases hrest : (rest.map g).mapM f with
      | error e => simp [hd, hrest] at h
      | ok others =>
        simp only [hd, hrest, pure, Except.pure, Except.ok.injEq] at h
        rw [← h, hfg d first hd, ih hrest]

/-- What is listed is what is there, where records that are read at all are read as
what was written. -/
theorem Represents.list {s : DefinitionStore α} {t : Tree α} (h : s.Represents t)
    (hsound : ∀ d d' : α, PersistentDefinitions.decode α (Definition.toJson d) = .ok d' → d' = d)
    {ds : List α} (hds : s.list = .ok ds) : ds = t.values := by
  cases s with
  | memory s =>
    cases h
    cases hds
    rfl
  | persistent s =>
    have hcurrent : s.current = t.map Definition.toJson := h
    simp only [DefinitionStore.list, PersistentDefinitions.list, hcurrent, Tree.values_map] at hds
    exact mapM_ok_sound hsound hds

end DefinitionStore

end QuerySets
