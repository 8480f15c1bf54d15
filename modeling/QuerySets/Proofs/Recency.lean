import Mathlib.Data.Finset.Card
import Mathlib.Data.List.Nodup
import QuerySets.Proofs.Cache

/-!
Which entries a cache keeps. Its entries stand in the order of their last uses, so an entry can
only be pushed out by as many other keys as there is room for. A run of requests is followed by
a log of what came of them; the log tells which value a key has and which keys were used after
it, and the entries of the cache are compared with that.
-/

namespace QuerySets.Cache

variable {α ε : Type}

/-- What can be asked of a cache. A load brings what would be loaded. -/
inductive Request (ε α : Type)
  | get (key : String)
  | insert (key : String) (a : α)
  | load (key : String) (result : Except ε α)
  | invalidate (key : String)
  | clear

/-- What came of a request. A value that was loaded is stored; a load that fails misses. -/
inductive Event (α : Type)
  | hit (key : String) (a : α)
  | stored (key : String) (a : α)
  | missed (key : String)
  | invalidated (key : String)
  | cleared

/-- The key that is the most recently used one after the event. -/
def Event.used? : Event α → Option String
  | hit key _ | stored key _ => some key
  | missed _ | invalidated _ | cleared => none

def answer (c : Cache α) : Request ε α → Event α × Cache α
  | .get key =>
    match c.get key with
    | (some a, c) => (.hit key a, c)
    | (none, c) => (.missed key, c)
  | .insert key a => (.stored key a, c.insert key a)
  | .load key result =>
    match (c.get key).1.isSome, c.getOrLoad key result with
    | true, (.ok a, c) => (.hit key a, c)
    | false, (.ok a, c) => (.stored key a, c)
    | _, (.error _, c) => (.missed key, c)
  | .invalidate key => (.invalidated key, c.invalidate key)
  | .clear => (.cleared, c.clear)

/-- The events of a run, the latest first, and the cache after it. -/
def run (c : Cache α) (requests : List (Request ε α)) : List (Event α) × Cache α :=
  requests.foldl (fun (log, c) request => ((c.answer request).1 :: log, (c.answer request).2))
    ([], c)

section Logs

/-- The value that was last stored under a key, unless it has been taken out since. -/
def lastValue (key : String) : List (Event α) → Option α
  | [] => none
  | .stored k a :: earlier => if k = key then some a else lastValue key earlier
  | .invalidated k :: earlier => if k = key then none else lastValue key earlier
  | .cleared :: _ => none
  | .hit _ _ :: earlier | .missed _ :: earlier => lastValue key earlier

/-- The keys that were used since the last use of a key. -/
def usedSince (key : String) (log : List (Event α)) : List String :=
  (log.takeWhile (·.used? ≠ some key)).filterMap Event.used?

variable {key other : String} {event : Event α} {log : List (Event α)}

theorem usedSince_of_ne (h : event.used? = some other) (hne : other ≠ key) :
    usedSince key (event :: log) = other :: usedSince key log := by
  simp [usedSince, h, hne]

end Logs

section Entries

variable {key other : String} {a b : α} {entries newer older : List (String × α)}

theorem others_append_cons (hne : other ≠ key) :
    others key (newer ++ (other, b) :: older) =
      others key newer ++ (other, b) :: others key older := by
  simp [others, hne]

theorem nodup_others (h : (entries.map (·.1)).Nodup) (key : String) :
    ((others key entries).map (·.1)).Nodup :=
  h.sublist (List.filter_sublist.map _)

theorem length_others_lt (h : entries.lookup key = some a) :
    (others key entries).length < entries.length := by
  refine List.length_filter_lt_length_iff_exists.mpr ⟨(key, a), Association.mem_of_lookup h, ?_⟩
  simp

/-- Distinct keys that all belong to a list are no more than its distinct members. -/
theorem length_le_card_of_nodup {keys : List String} (h : (newer.map (·.1)).Nodup)
    (hmem : ∀ entry ∈ newer, entry.1 ∈ keys) : newer.length ≤ keys.toFinset.card := by
  calc newer.length = (newer.map (·.1)).toFinset.card := by
        rw [List.toFinset_card_of_nodup h, List.length_map]
    _ ≤ keys.toFinset.card := by
        refine Finset.card_le_card fun k hk => ?_
        obtain ⟨entry, hentry, rfl⟩ := List.mem_map.mp (List.mem_toFinset.mp hk)
        exact List.mem_toFinset.mpr (hmem entry hentry)

/-- An entry with fewer others in front of it than there is room for is kept. -/
theorem exists_take_append_cons {n : Nat} (h : newer.length < n) (entry : String × α)
    (older : List (String × α)) :
    ∃ kept, (newer ++ entry :: older).take n = newer ++ entry :: kept := by
  obtain ⟨k, rfl⟩ := Nat.exists_eq_add_of_lt h
  refine ⟨older.take k, ?_⟩
  rw [List.take_append, List.take_of_length_le (by omega)]
  rw [show newer.length + k + 1 - newer.length = k + 1 by omega, List.take_succ_cons]

end Entries

section Steps

/-- What an event makes of a cache. -/
inductive Step (c : Cache α) : Event α → Cache α → Prop
  | hit {key : String} {a : α} (found : c.entries.lookup key = some a) :
    Step c (.hit key a) (c.insert key a)
  | stored (key : String) (a : α) : Step c (.stored key a) (c.insert key a)
  | missed {key : String} (missing : c.entries.lookup key = none) : Step c (.missed key) c
  | invalidated (key : String) : Step c (.invalidated key) (c.invalidate key)
  | cleared : Step c .cleared c.clear

variable {c : Cache α} {key : String}

theorem Step.capacity_eq {event : Event α} {c' : Cache α} (h : Step c event c') :
    c'.capacity = c.capacity := by
  cases h <;> rfl

theorem get_of_find {a : α} (h : c.entries.lookup key = some a) (hroom : c.size ≤ c.capacity) :
    c.get key = (some a, c.insert key a) := by
  have hlength : ((key, a) :: others key c.entries).length ≤ c.capacity :=
    (length_others_lt h).trans_le hroom
  rw [get, h, insert, List.take_of_length_le hlength]

theorem get_of_missing (h : c.entries.lookup key = none) : c.get key = (none, c) := by
  rw [get, h]

theorem get_fst (c : Cache α) (key : String) : (c.get key).1 = c.entries.lookup key := by
  rw [get]
  cases c.entries.lookup key <;> rfl

/-- A load that fails changes nothing. -/
theorem getOrLoad_of_error {load : Except ε α} {e : ε}
    (h : (c.getOrLoad key load).1 = .error e) : (c.getOrLoad key load).2 = c := by
  cases hfind : c.entries.lookup key with
  | some a => simp [getOrLoad, get, hfind] at h
  | none =>
    cases load with
    | ok a => simp [getOrLoad, get, hfind] at h
    | error e => simp [getOrLoad, get, hfind]

theorem step_answer (hroom : c.size ≤ c.capacity) (request : Request ε α) :
    Step c (c.answer request).1 (c.answer request).2 := by
  cases request with
  | get key =>
    cases hfind : c.entries.lookup key with
    | some a =>
      simp only [answer, get_of_find hfind hroom]
      exact .hit hfind
    | none =>
      simp only [answer, get_of_missing hfind]
      exact .missed hfind
  | insert key a => exact .stored key a
  | load key result =>
    cases hfind : c.entries.lookup key with
    | some a =>
      simp only [answer, getOrLoad, get_of_find hfind hroom]
      exact .hit hfind
    | none =>
      cases result with
      | ok a =>
        simp only [answer, getOrLoad, get_of_missing hfind]
        exact .stored key a
      | error e =>
        simp only [answer, getOrLoad, get_of_missing hfind]
        exact .missed hfind
  | invalidate key => exact .invalidated key
  | clear => exact .cleared

end Steps

section Places

variable {log : List (Event α)} {entries : List (String × α)} {key other : String} {a b : α}

/-- The entry of a key stands behind entries of keys that were used after it, and no others. -/
def Stands (log : List (Event α)) (entries : List (String × α)) (key : String) (a : α) : Prop :=
  ∃ newer older, entries = newer ++ (key, a) :: older ∧
    ∀ entry ∈ newer, entry.1 ∈ usedSince key log

theorem Stands.others (h : Stands log entries other b) (hne : other ≠ key) :
    Stands log (Cache.others key entries) other b := by
  obtain ⟨newer, older, hentries, hnewer⟩ := h
  refine ⟨Cache.others key newer, Cache.others key older, ?_, ?_⟩
  · rw [hentries, others_append_cons hne]
  · intro entry hentry
    exact hnewer entry (List.mem_filter.mp hentry).1

theorem stands_first {n : Nat} (h : 0 < n) (log : List (Event α))
    (entries : List (String × α)) (key : String) (a : α) :
    Stands log (((key, a) :: entries).take n) key a := by
  have hroom : ([] : List (String × α)).length < n := h
  obtain ⟨kept, hkept⟩ := exists_take_append_cons hroom (key, a) entries
  exact ⟨[], kept, hkept, fun _ hentry => absurd hentry List.not_mem_nil⟩

/-- An entry that is put in front of others pushes out none whose key is recent enough. -/
theorem Stands.push (h : Stands log entries other b) {event : Event α}
    (hused : event.used? = some key) (hne : key ≠ other)
    (hdistinct : (((key, a) :: entries).map (·.1)).Nodup) {n : Nat}
    (hcard : (usedSince other (event :: log)).toFinset.card < n) :
    Stands (event :: log) (((key, a) :: entries).take n) other b := by
  obtain ⟨newer, older, rfl, hnewer⟩ := h
  have hfront : ∀ entry ∈ (key, a) :: newer, entry.1 ∈ usedSince other (event :: log) := by
    intro entry hentry
    rw [usedSince_of_ne hused hne]
    rcases List.mem_cons.mp hentry with rfl | hmem
    · exact List.mem_cons_self
    · exact List.mem_cons_of_mem _ (hnewer entry hmem)
  rw [← List.cons_append, List.map_append] at hdistinct
  have hroom : ((key, a) :: newer).length < n :=
    (length_le_card_of_nodup (List.nodup_append.mp hdistinct).1 hfront).trans_lt hcard
  obtain ⟨kept, hkept⟩ := exists_take_append_cons hroom (other, b) older
  exact ⟨(key, a) :: newer, kept, hkept, hfront⟩

end Places

/-- A cache holds what its log tells, and all of it that was used recently enough. -/
structure Follows (log : List (Event α)) (c : Cache α) : Prop where
  bounded : c.size ≤ c.capacity
  distinct : (c.entries.map (·.1)).Nodup
  sound : c.Holds fun key a => lastValue key log = some a
  recent : ∀ key a, lastValue key log = some a →
    (usedSince key log).toFinset.card < c.capacity → Stands log c.entries key a

theorem follows_new (config : CacheConfig) : Follows [] (new config : Cache α) where
  bounded := Nat.zero_le _
  distinct := List.nodup_nil
  sound := holds_new config
  recent _ _ h := by cases h

theorem follows_clear (log : List (Event α)) (c : Cache α) :
    Follows (.cleared :: log) c.clear where
  bounded := Nat.zero_le _
  distinct := List.nodup_nil
  sound := Holds.clear c
  recent _ _ h := by cases h

namespace Follows

variable {log : List (Event α)} {c : Cache α} (h : Follows log c)

include h

/-- The most recent use of a key puts its entry in front of all others. -/
theorem use {event : Event α} {key : String} {a : α} (hused : event.used? = some key)
    (hvalue : lastValue key (event :: log) = some a)
    (hothers : ∀ other, other ≠ key → lastValue other (event :: log) = lastValue other log) :
    Follows (event :: log) (c.insert key a) := by
  have hdistinct : (((key, a) :: others key c.entries).map (·.1)).Nodup := by
    refine List.nodup_cons.mpr ⟨?_, nodup_others h.distinct key⟩
    intro hmem
    obtain ⟨entry, hentry, heq⟩ := List.mem_map.mp hmem
    exact of_decide_eq_true (List.mem_filter.mp hentry).2 heq
  refine ⟨List.length_take_le _ _, hdistinct.sublist ((List.take_sublist _ _).map _), ?sound,
    ?recent⟩
  case sound =>
    intro entry hentry
    rcases List.mem_cons.mp (List.mem_of_mem_take hentry) with rfl | hmem
    · exact hvalue
    · obtain ⟨hold, hne⟩ := List.mem_filter.mp hmem
      rw [hothers entry.1 (of_decide_eq_true hne)]
      exact h.sound entry hold
  case recent =>
    intro other b hb (hcard : _ < c.capacity)
    by_cases heq : other = key
    · subst heq
      have hsame : a = b := Option.some.inj (hvalue.symm.trans hb)
      exact hsame ▸ stands_first ((Nat.zero_le _).trans_lt hcard) _ _ other a
    · rw [hothers other heq] at hb
      -- the event can only add to the keys used since, so the entry was recent before it
      have hless : (usedSince other log).toFinset.card < c.capacity := by
        refine lt_of_le_of_lt (Finset.card_le_card ?_) hcard
        rw [usedSince_of_ne hused (Ne.symm heq), List.toFinset_cons]
        exact Finset.subset_insert _ _
      have hstands := (h.recent other b hb hless).others heq
      exact hstands.push hused (Ne.symm heq) hdistinct hcard

theorem missed (key : String) : Follows (.missed key :: log) c where
  bounded := h.bounded
  distinct := h.distinct
  sound := h.sound
  recent := h.recent

theorem invalidate (key : String) : Follows (.invalidated key :: log) (c.invalidate key) := by
  have hother : ∀ other a, other ≠ key → lastValue other log = some a →
      lastValue other (.invalidated key :: log) = some a := by
    intro other a hne ha
    rw [lastValue, if_neg (Ne.symm hne)]
    exact ha
  refine ⟨(List.length_filter_le _ _).trans h.bounded, nodup_others h.distinct key,
    h.sound.invalidate hother, ?_⟩
  intro other a ha hcard
  have hne : other ≠ key := by
    rintro rfl
    simp [lastValue] at ha
  rw [lastValue, if_neg (Ne.symm hne)] at ha
  exact (h.recent other a ha hcard).others hne

theorem step {event : Event α} {c' : Cache α} (hstep : Step c event c') :
    Follows (event :: log) c' := by
  cases hstep with
  | hit found => exact h.use rfl (h.sound _ (Association.mem_of_lookup found)) fun _ _ => rfl
  | stored key a =>
    exact h.use rfl (if_pos rfl) fun other hne => if_neg (Ne.symm hne)
  | missed missing => exact h.missed _
  | invalidated key => exact h.invalidate key
  | cleared => exact follows_clear log c

/-- What is found under a key is its last value. -/
theorem lastValue_of_find {key : String} {a : α} (hfind : c.entries.lookup key = some a) :
    lastValue key log = some a :=
  h.sound _ (Association.mem_of_lookup hfind)

/-- A key that was used recently enough is found. -/
theorem find_of_recent {key : String} {a : α} (ha : lastValue key log = some a)
    (hcard : (usedSince key log).toFinset.card < c.capacity) : c.entries.lookup key = some a := by
  obtain ⟨newer, older, hentries, -⟩ := h.recent key a ha hcard
  have hmem : (key, a) ∈ c.entries := by simp [hentries]
  obtain ⟨b, hb⟩ := Association.exists_lookup_of_mem hmem
  rw [hb, ← h.lastValue_of_find hb, ha]

theorem foldl (requests : List (Request ε α)) :
    let last := requests.foldl (fun (log, c) request =>
      ((c.answer request).1 :: log, (c.answer request).2)) (log, c)
    Follows last.1 last.2 ∧ last.2.capacity = c.capacity := by
  induction requests generalizing log c with
  | nil => exact ⟨h, rfl⟩
  | cons request rest ih =>
    have hstep := step_answer h.bounded request
    obtain ⟨hlast, hcapacity⟩ := ih (h.step hstep)
    exact ⟨hlast, hcapacity.trans hstep.capacity_eq⟩

end Follows

/-- After any run a cache has no more entries than there is room for. What it finds under a key is
the value that was stored last, and it does find it as long as fewer other keys than there is
room for were used since. A load that fails changes nothing, and a cache without room, or whose
entries live for no time, stays empty. -/
theorem run_keeps_recent (config : CacheConfig) (requests : List (Request ε α)) :
    let log := ((new config : Cache α).run requests).1
    let c := ((new config : Cache α).run requests).2
    c.size ≤ config.capacity ∧
      (∀ key a, (c.get key).1 = some a →
        lastValue key log = some a ∧ ∀ load : Except ε α, (c.getOrLoad key load).1 = .ok a) ∧
      (0 < config.lifetime → ∀ key a, lastValue key log = some a →
        (usedSince key log).toFinset.card < config.capacity → (c.get key).1 = some a) ∧
      (∀ key (load : Except ε α) e, (c.getOrLoad key load).1 = .error e →
        (c.getOrLoad key load).2 = c) ∧
      (config.capacity = 0 ∨ config.lifetime = 0 → c.entries = []) := by
  intro log c
  obtain ⟨hfollows, hcapacity⟩ := (follows_new config).foldl requests
  change Follows log c at hfollows
  have hroom : c.capacity = if config.isEnabled then config.capacity else 0 := hcapacity
  have hbounded : c.entries.length ≤ c.capacity := hfollows.bounded
  refine ⟨?size, ?value, ?recent, fun key load e h => getOrLoad_of_error h, ?empty⟩
  case size =>
    refine hbounded.trans ?_
    rw [hroom]
    split
    · exact Nat.le_refl _
    · exact Nat.zero_le _
  case value =>
    intro key a hget
    rw [get_fst] at hget
    refine ⟨hfollows.lastValue_of_find hget, fun load => ?_⟩
    simp only [getOrLoad, get, hget]
  case recent =>
    intro hlifetime key a ha hcard
    have henabled : config.isEnabled = true := by
      simp only [CacheConfig.isEnabled, Bool.and_eq_true, decide_eq_true_eq]
      omega
    rw [if_pos henabled] at hroom
    rw [get_fst]
    exact hfollows.find_of_recent ha (hroom ▸ hcard)
  case empty =>
    intro hdisabled
    have hnone : config.isEnabled = false := by
      simp only [CacheConfig.isEnabled, Bool.and_eq_false_iff, decide_eq_false_iff_not]
      omega
    rw [hnone, if_neg Bool.false_ne_true] at hroom
    exact List.eq_nil_of_length_eq_zero (by omega)

/-- With room for two, the key that was used last but one goes when a third one comes. -/
theorem run_keeps_recent_sample :
    let requests : List (Request Unit Nat) :=
      [.insert "a" 1, .insert "b" 2, .get "a", .load "c" (.ok 3), .load "d" (.error ())]
    let log := ((new ⟨2, 60⟩ : Cache Nat).run requests).1
    let c := ((new ⟨2, 60⟩ : Cache Nat).run requests).2
    lastValue "a" log = some 1 ∧ (usedSince "a" log).toFinset.card < 2 ∧
      (c.get "a").1 = some 1 ∧ lastValue "b" log = some 2 ∧ (c.get "b").1 = none := by
  intro requests log c
  have hvalue : lastValue "a" log = some 1 := by decide
  have hcard : (usedSince "a" log).toFinset.card < 2 := by decide
  have hlifetime : 0 < 60 := by decide
  obtain ⟨-, -, hrecent, -, -⟩ := run_keeps_recent ⟨2, 60⟩ requests
  exact ⟨hvalue, hcard, hrecent hlifetime "a" 1 hvalue hcard, by decide, by decide⟩

end QuerySets.Cache
