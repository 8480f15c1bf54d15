import QuerySets.Proofs.Definition.Transparency

/-!
The patterns that a registry keeps ready. In either kind of store, and whatever is asked of the
registry, the pattern that is given under a name is the one that would be loaded at the moment:
requests about other definitions do not touch the patterns, and a write of a pattern takes its
name out of the cache.
-/

namespace QuerySets.Registry

variable {r r' : Registry}

/-- Every cached pattern is the one that would be loaded now. -/
def PatternsCurrent (r : Registry) : Prop :=
  r.patternCache.Holds fun name pattern => r.loadPattern name = .ok pattern

theorem loadPattern_congr (h : r'.patterns = r.patterns) : r'.loadPattern = r.loadPattern := by
  funext name
  rw [loadPattern, loadPattern, h]

/-- The stored patterns and their cache. -/
def patternPart (r : Registry) : DefinitionStore NamedPattern × Cache Pattern :=
  (r.patterns, r.patternCache)

theorem PatternsCurrent.congr (h : r.PatternsCurrent) (hsame : r'.patternPart = r.patternPart) :
    r'.PatternsCurrent := by
  obtain ⟨hstored, hcached⟩ := Prod.mk.inj hsame
  rw [PatternsCurrent, hcached, loadPattern_congr hstored]
  exact h

theorem patternsCurrent_reopen (r : Registry) (config : CacheConfig) :
    (r.reopen config).PatternsCurrent :=
  Cache.holds_new config

/-- A pattern is read as it would be loaded, and reading it changes only the cache. -/
theorem PatternsCurrent.pattern (h : r.PatternsCurrent) (name : String) :
    ∃ after, r.pattern name = (r.loadPattern name, after) ∧ after.patterns = r.patterns ∧
      after.PatternsCurrent := by
  have hread : (r.pattern name).1 = r.loadPattern name :=
    Cache.getOrLoad_eq_load h fun _ ha => ha
  exact ⟨(r.pattern name).2, Prod.ext hread rfl, rfl, h.getOrLoad fun _ ha => ha⟩

theorem PatternsCurrent.answer_patterns (h : r.PatternsCurrent)
    (request : Catalogue.Request String NamedPattern) :
    (Catalogue.patterns.answer r request).2.PatternsCurrent := by
  cases request with
  | upsert d =>
    simp only [Catalogue.answer, Prod.map_snd, id, Catalogue.patterns, upsertPattern,
      bind_pure_comp]
    cases hstored : r.patterns.upsert d with
    | error e => exact h
    | ok stored => exact holds_upsert (· >>= NamedPattern.compile) h hstored
  | get key => exact h
  | list => exact h
  | delete key => exact holds_deleted (· >>= NamedPattern.compile) h key
  | history key => exact h

theorem PatternsCurrent.answer (h : r.PatternsCurrent) (request : Request) :
    (r.answer request).2.PatternsCurrent := by
  cases request with
  | sets request => exact h.congr ((spares_sets fun _ _ _ => rfl).answer r request)
  | patterns request => exact h.answer_patterns request
  | scripts request => exact h.congr ((spares_scripts fun _ _ _ => rfl).answer r request)
  | masks request => exact h.congr ((spares_masks fun _ _ _ => rfl).answer r request)
  | pattern name =>
    obtain ⟨after, hread, -, hafter⟩ := h.pattern name
    rw [Registry.answer, hread]
    exact hafter
  | fieldMasks collection => exact h

theorem PatternsCurrent.answers (h : r.PatternsCurrent) (requests : List Request) :
    (r.answers requests).2.PatternsCurrent := by
  induction requests generalizing r with
  | nil => exact h
  | cons request rest ih => exact ih (h.answer request)

end QuerySets.Registry
