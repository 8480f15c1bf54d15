import QuerySets.Proofs.Definition.Versions
import QuerySets.Proofs.Store.Persistent

/-!
The records of a persistent store stand for the definitions of a store in memory. The earlier
versions of all keys share one tree, where those of a key stand together, as no key has a zero
character, and in the order in which they ended, as the counts grow. Every request keeps this,
so that both stores answer it alike.
-/

namespace QuerySets

open Catalogue (Request Answer)

/-- What is read from its record as it is, also from a record of history. -/
structure Definition.Restorable {α : Type} [Definition α] (d : α) : Prop where
  alone : PersistentDefinitions.decode α (Definition.toJson d) = .ok d
  inHistory : PersistentDefinitions.decodeInside α 1 (Definition.toJson d) = .ok d

open Definition (Restorable)

section Writes

variable {α β : Type}

def Write.map (f : α → β) : Write α → Write β
  | .stored d => .stored (f d)
  | .deleted => .deleted

theorem Write.action_map (f : α → β) (w : Write α) : (w.map f).action = w.action := by
  cases w <;> rfl

theorem Tree.map_write (f : α → β) (t : Tree α) (key : String) (w : Write α) :
    (t.write key w).map f = (t.map f).write key (w.map f) := by
  cases w with
  | stored d => exact Tree.map_insert f t _ d
  | deleted => exact Tree.map_erase f t _

namespace PersistentDefinitions

/-- The persistent store after a write. -/
def write (s : PersistentDefinitions) (key : String) (w : Write Json) : PersistentDefinitions :=
  let written := { s with current := s.current.write key w }
  match s.current.get? key.toList with
  | none => written
  | some record => written.keep key w.action record

variable {s : PersistentDefinitions} {key : String}

theorem write_of_missing (h : s.current.get? key.toList = none) (w : Write Json) :
    s.write key w = { s with current := s.current.write key w } := by
  rw [write, h]

theorem write_of_present {record : Json} (h : s.current.get? key.toList = some record)
    (w : Write Json) :
    s.write key w = ⟨s.current.write key w,
      s.past.insert (historyStart key ++ Tree.countKey s.count) ⟨key, w.action, record⟩,
      s.count + 1⟩ := by
  rw [write, h]
  rfl

theorem count_le_write (s : PersistentDefinitions) (key : String) (w : Write Json) :
    s.count ≤ (s.write key w).count := by
  cases h : s.current.get? key.toList with
  | none => rw [write_of_missing h]
  | some record => rw [write_of_present h]; exact Nat.le_succ _

/-- The history of a key that has no zero character is apart from that of another one. -/
theorem not_prefix_of_ne {key other : String} (hkey : '\x00' ∉ key.toList)
    (hother : '\x00' ∉ other.toList) (hne : key ≠ other) (rest : List Char) :
    ¬ historyStart other <+: historyStart key ++ rest := fun hprefix =>
  hne (PersistentStore.name_eq_of_indexStart hkey hother (List.prefix_append _ _) hprefix)

theorem scan_write_of_ne {key other : String} (hkey : '\x00' ∉ key.toList)
    (hother : '\x00' ∉ other.toList) (hne : key ≠ other) (s : PersistentDefinitions)
    (w : Write Json) :
    (s.write key w).past.scan (historyStart other) = s.past.scan (historyStart other) := by
  cases h : s.current.get? key.toList with
  | none => rw [write_of_missing h]
  | some record =>
    rw [write_of_present h]
    exact Tree.scan_insert_of_not_prefix (not_prefix_of_ne hkey hother hne _) s.past _

variable [Definition α]

theorem upsert_eq_write (s : PersistentDefinitions) {d : α} (hd : Definition.validate d = .ok ()) :
    s.upsert d = .ok (s.write (Definition.key d) (.stored (Definition.toJson d))) := by
  simp only [upsert, hd, bind, Except.bind, write]
  cases s.current.get? (Definition.key d).toList <;> rfl

theorem delete_eq_write (s : PersistentDefinitions) (key : String) :
    s.delete α key = if (s.current.get? key.toList).isSome then .ok (s.write key .deleted)
      else .error (.notFound (Definition.kind α) key) := by
  simp only [delete, write]
  cases s.current.get? key.toList <;> rfl

theorem answer_upsert_of_valid {d : α} (hd : Definition.validate d = .ok ()) :
    (DefinitionStore.persistent s).answer (.upsert d) = (.done (.ok ()),
      .persistent (s.write (Definition.key d) (.stored (Definition.toJson d)))) := by
  rw [DefinitionStore.answer, DefinitionStore.upsert, s.upsert_eq_write hd]
  rfl

theorem answer_delete (key : String) :
    (DefinitionStore.persistent (α := α) s).answer (.delete key) =
      if (s.current.get? key.toList).isSome then
        (.done (.ok ()), .persistent (s.write key .deleted))
      else (.done (.error (.notFound (Definition.kind α) key)), .persistent s) := by
  rw [DefinitionStore.answer, DefinitionStore.delete, s.delete_eq_write]
  split <;> rfl

end PersistentDefinitions

end Writes

section InPlace

variable {α : Type} [Definition α]

namespace PersistentDefinitions

variable (α) in
/-- Keeps a version that goes, if its record can be read. -/
def retire (s : PersistentDefinitions) (key : String) (action : HistoryAction) (record : Json) :
    Except DefinitionError Unit × PersistentDefinitions :=
  match decode α record with
  | .ok d => (.ok (), s.keep key action (Definition.toJson d))
  | .error e => (.error e, s)

variable (α) in
/-- A write as it is made: what stands under the key is changed at first, and only then is the
earlier version read and kept. -/
def writeInPlace (s : PersistentDefinitions) (key : String) (w : Write Json) :
    Except DefinitionError Unit × PersistentDefinitions :=
  let written := { s with current := s.current.write key w }
  match s.current.get? key.toList with
  | none => (.ok (), written)
  | some record => written.retire α key w.action record

end PersistentDefinitions

namespace DefinitionStore

/-- Answers a request in such a way that a write which fails leaves what it has changed. -/
def answerInPlace (s : DefinitionStore α) (request : Request String α) :
    Answer α × DefinitionStore α :=
  match s, request with
  | persistent s, .upsert d =>
    match Definition.validate d with
    | .ok () => (s.writeInPlace α (Definition.key d) (.stored (Definition.toJson d))).map
        .done persistent
    | .error e => (.done (.error e), persistent s)
  | persistent s, .delete key =>
    if s.current.contains key.toList then (s.writeInPlace α key .deleted).map .done persistent
    else (.done (.error (.notFound (Definition.kind α) key)), persistent s)
  | s, request => s.answer request

theorem answerInPlace_memory (m : MemoryDefinitions α) (request : Request String α) :
    (memory m).answerInPlace request = (memory m).answer request := by
  cases request <;> rfl

/-- How many counts a store has used up. -/
def counted : DefinitionStore α → Nat
  | memory _ => 0
  | persistent s => s.count

/-- A refused request leaves the store as it is. -/
theorem answer_of_refused {s : DefinitionStore α} {request : Request String α}
    {e : DefinitionError} (h : (s.answer request).1 = .done (.error e)) :
    (s.answer request).2 = s := by
  cases request with
  | get _ | list | history _ => rfl
  | upsert d =>
    rw [answer] at h ⊢
    cases hs : s.upsert d with
    | ok s' => rw [hs] at h; cases h
    | error e => rfl
  | delete key =>
    rw [answer] at h ⊢
    cases hs : s.delete key with
    | ok s' => rw [hs] at h; cases h
    | error e => rfl

end DefinitionStore

end InPlace

section Records

variable {α : Type} [Definition α]

def HistoryEntry.record (e : HistoryEntry α) : HistoryRecord :=
  ⟨e.key, e.action, Definition.toJson e.definition⟩

/-- A tree of records holds earlier versions, those of each key in their order. -/
structure Recorded (past : List (HistoryEntry α)) (t : Tree HistoryRecord) (count : Nat) :
    Prop where
  sorted : t.Sorted
  numbered : ∀ entry ∈ t.entries, ∃ key : String, ∃ n < count, '\x00' ∉ key.toList ∧
    entry.1 = PersistentDefinitions.historyStart key ++ Tree.countKey n
  found : ∀ key : String, '\x00' ∉ key.toList →
    t.scan (PersistentDefinitions.historyStart key) =
      (past.filter (·.key == key)).map HistoryEntry.record
  restorable : ∀ e ∈ past, Restorable e.definition

theorem Recorded.empty : Recorded ([] : List (HistoryEntry α)) .empty 0 where
  sorted := Tree.sorted_empty
  numbered _ h := absurd h List.not_mem_nil
  found _ _ := rfl
  restorable _ h := absurd h List.not_mem_nil

namespace Recorded

variable {past : List (HistoryEntry α)} {t : Tree HistoryRecord} {count count' : Nat}

theorem mono (h : Recorded past t count) (hle : count ≤ count') : Recorded past t count' := by
  refine { h with numbered := ?_ }
  intro entry hentry
  obtain ⟨key, n, hn, hkey⟩ := h.numbered entry hentry
  exact ⟨key, n, hn.trans_le hle, hkey⟩

/-- The next version of a key is found after all others of the key. -/
theorem keep (h : Recorded past t count) {key : String} (hkey : '\x00' ∉ key.toList)
    (hcount : count < 2 ^ 64) {d : α} (hd : Restorable d) (action : HistoryAction) :
    Recorded (past ++ [⟨key, action, d⟩])
      (t.insert (PersistentDefinitions.historyStart key ++ Tree.countKey count)
        ⟨key, action, Definition.toJson d⟩) (count + 1) := by
  refine ⟨h.sorted.insert _ _, ?numbered, ?found, ?restorable⟩
  case numbered =>
    intro entry hentry
    rcases Tree.mem_put hentry with rfl | hold
    · exact ⟨key, count, Nat.lt_succ_self count, hkey, rfl⟩
    · exact (h.mono (Nat.le_succ count)).numbered entry hold
  case found =>
    intro other hother
    rw [List.filter_append, List.map_append, ← h.found other hother]
    by_cases heq : key = other
    · subst heq
      have hlast : ∀ entry ∈ t.entries,
          PersistentDefinitions.historyStart key <+: entry.1 →
            entry.1 < PersistentDefinitions.historyStart key ++ Tree.countKey count := by
        intro entry hentry hprefix
        obtain ⟨owner, n, hn, howner, hentry⟩ := h.numbered entry hentry
        rw [hentry] at hprefix ⊢
        have hsame : owner = key := PersistentStore.name_eq_of_indexStart howner hkey
          (List.prefix_append _ _) hprefix
        rw [hsame]
        exact List.append_left_lt (Tree.countKey_lt hn hcount)
      rw [Tree.scan_insert_of_forall_lt h.sorted (List.prefix_append _ _) hlast]
      simp [HistoryEntry.record]
    · rw [Tree.scan_insert_of_not_prefix
        (PersistentDefinitions.not_prefix_of_ne hkey hother heq _)]
      simp [heq]
  case restorable =>
    intro e he
    rcases List.mem_append.mp he with hold | hnew
    · exact h.restorable e hold
    · rw [List.mem_singleton.mp hnew]
      exact hd

theorem history (h : Recorded past t count) {key : String} (hkey : '\x00' ∉ key.toList) :
    (t.scan (PersistentDefinitions.historyStart key)).mapM
        (PersistentDefinitions.decodeHistory α) = .ok (past.filter (·.key == key)) := by
  rw [h.found key hkey]
  refine mapM_map_eq_ok ?_
  intro e he
  have hread := (h.restorable e (List.mem_filter.mp he).1).inHistory
  simp only [PersistentDefinitions.decodeHistory, HistoryEntry.record, hread, Except.map]

end Recorded

end Records

section Agreement

variable {α : Type} [Definition α]

/-- The key that a request is about. -/
def Catalogue.Request.key? : Request String α → Option String
  | .upsert d => some (Definition.key d)
  | .get key | .delete key | .history key => some key
  | .list => none

/-- The key has no zero character, and what is stored can be restored. -/
structure Catalogue.Request.Admissible (request : Request String α) : Prop where
  named : ∀ key, request.key? = some key → '\x00' ∉ key.toList
  restorable : ∀ d, request = .upsert d → Restorable d

/-- The records of a persistent store stand for the definitions of a store in memory. -/
structure RelatedDefinitions (m : MemoryDefinitions α) (p : PersistentDefinitions) : Prop where
  current : p.current = m.current.map Definition.toJson
  sorted : m.current.Sorted
  keyed : m.current.Keyed
  restorable : ∀ key : String, ∀ d, m.current.get? key.toList = some d → Restorable d
  past : Recorded m.past p.past p.count

theorem relatedDefinitions_empty :
    RelatedDefinitions (.empty : MemoryDefinitions α) .empty where
  current := rfl
  sorted := Tree.sorted_empty
  keyed := Tree.keyed_empty
  restorable _ _ h := by cases h
  past := .empty

namespace RelatedDefinitions

variable {m : MemoryDefinitions α} {p : PersistentDefinitions}

theorem get?_current (h : RelatedDefinitions m p) (key : String) :
    p.current.get? key.toList = (m.current.get? key.toList).map Definition.toJson := by
  rw [h.current, Tree.get?_map]

theorem skip (h : RelatedDefinitions m p) (counts : Nat) :
    RelatedDefinitions m { p with count := p.count + counts } :=
  { h with past := h.past.mono (Nat.le_add_right _ _) }

/-- Both stores are related after a write. -/
theorem write (h : RelatedDefinitions m p) {key : String} (hkey : '\x00' ∉ key.toList)
    {w : Write α} (hw : ∀ d, w = .stored d → Definition.key d = key ∧ Restorable d)
    (hcount : (p.write key (w.map Definition.toJson)).count ≤ 2 ^ 64) :
    RelatedDefinitions (m.write key w) (p.write key (w.map Definition.toJson)) := by
  have hrestorable : ∀ other : String, ∀ d,
      (m.current.write key w).get? other.toList = some d → Restorable d := by
    intro other d hd
    rw [Tree.get?_write] at hd
    split at hd
    · cases w with
      | stored d' => cases hd; exact (hw d rfl).2
      | deleted => cases hd
    · exact h.restorable other d hd
  have hcurrent := Tree.map_write Definition.toJson m.current key w
  rw [← h.current] at hcurrent
  have hget := h.get?_current key
  refine ⟨?current, h.sorted.write key w, h.keyed.write fun d hd => (hw d hd).1, hrestorable, ?past⟩
  case current =>
    cases hold : p.current.get? key.toList with
    | none => rw [PersistentDefinitions.write_of_missing hold]; exact hcurrent.symm
    | some record => rw [PersistentDefinitions.write_of_present hold]; exact hcurrent.symm
  case past =>
    rw [m.past_write]
    cases hold : m.current.get? key.toList with
    | none =>
      rw [hold] at hget
      rw [PersistentDefinitions.write_of_missing hget, Option.map_none, Option.toList_none,
        List.append_nil]
      exact h.past
    | some d =>
      rw [hold] at hget
      rw [PersistentDefinitions.write_of_present hget] at hcount ⊢
      rw [Write.action_map]
      exact h.past.keep hkey hcount (h.restorable key d hold) w.action

theorem get (h : RelatedDefinitions m p) (key : String) : p.get α key = m.get key := by
  rw [PersistentDefinitions.get, MemoryDefinitions.get, h.get?_current]
  cases hold : m.current.get? key.toList with
  | none => rfl
  | some d => exact (h.restorable key d hold).alone

theorem list (h : RelatedDefinitions m p) : p.list α = .ok m.list := by
  rw [PersistentDefinitions.list, h.current, Tree.values_map]
  refine mapM_map_eq_ok ?_
  intro d hd
  obtain ⟨key, hkey⟩ := h.sorted.mem_values.mp hd
  have hown : key = (Definition.key d).toList := h.keyed key d (h.sorted.mem_iff.mpr hkey)
  exact (h.restorable (Definition.key d) d (hown ▸ hkey)).alone

theorem history (h : RelatedDefinitions m p) {key : String} (hkey : '\x00' ∉ key.toList) :
    p.history α key = .ok (m.history key) :=
  h.past.history hkey

open DefinitionStore in
/-- Both stores give the same answer to a request and are related after it. -/
theorem answer (h : RelatedDefinitions m p) {request : Request String α}
    (hrequest : request.Admissible)
    (hcount : ((persistent p).answer request).2.counted ≤ 2 ^ 64) :
    ∃ answer m' p', (memory m).answer request = (answer, .memory m') ∧
      (persistent p).answer request = (answer, .persistent p') ∧ RelatedDefinitions m' p' := by
  cases request with
  | get key =>
    refine ⟨.one (m.get key), m, p, rfl, ?_, h⟩
    rw [DefinitionStore.answer, DefinitionStore.get, h.get]
  | list =>
    refine ⟨.many (.ok m.list), m, p, rfl, ?_, h⟩
    rw [DefinitionStore.answer, DefinitionStore.list, h.list]
  | history key =>
    refine ⟨.past (.ok (m.history key)), m, p, rfl, ?_, h⟩
    rw [DefinitionStore.answer, DefinitionStore.history, h.history (hrequest.named key rfl)]
  | upsert d =>
    cases hd : Definition.validate d with
    | error e =>
      refine ⟨.done (.error e), m, p, ?_, ?_, h⟩
      · rw [DefinitionStore.answer, upsert_of_invalid _ hd]; rfl
      · rw [DefinitionStore.answer, upsert_of_invalid _ hd]; rfl
    | ok _ =>
      rw [PersistentDefinitions.answer_upsert_of_valid hd] at hcount ⊢
      refine ⟨_, _, _, MemoryDefinitions.answer_upsert_of_valid hd, rfl, ?_⟩
      refine h.write (hrequest.named _ rfl) (w := .stored d) ?_ hcount
      intro other hother
      cases hother
      exact ⟨rfl, hrequest.restorable d rfl⟩
  | delete key =>
    rw [PersistentDefinitions.answer_delete, h.get?_current, Option.isSome_map] at hcount ⊢
    rw [MemoryDefinitions.answer_delete]
    split at hcount
    next hsome =>
      rw [if_pos hsome, if_pos hsome]
      have hdeleted : ∀ d : α, Write.deleted = .stored d →
          Definition.key d = key ∧ Restorable d := by
        intro d hd
        cases hd
      exact ⟨_, _, _, rfl, rfl, h.write (hrequest.named key rfl) hdeleted hcount⟩
    next hnone =>
      rw [if_neg hnone, if_neg hnone]
      exact ⟨_, _, _, rfl, rfl, h⟩

/-- In a persistent store that is related no write fails after it has changed something. -/
theorem answerInPlace (h : RelatedDefinitions m p) (request : Request String α) :
    (DefinitionStore.persistent p).answerInPlace request =
      (DefinitionStore.persistent p).answer request := by
  have hwrite : ∀ (key : String) (w : Write Json),
      p.writeInPlace α key w = (.ok (), p.write key w) := by
    intro key w
    rw [PersistentDefinitions.writeInPlace, PersistentDefinitions.write, h.get?_current]
    cases hold : m.current.get? key.toList with
    | none => rfl
    | some d =>
      simp only [Option.map_some, PersistentDefinitions.retire, (h.restorable key d hold).alone]
  cases request with
  | get _ | list | history _ => rfl
  | upsert d =>
    cases hd : Definition.validate d with
    | ok _ =>
      rw [PersistentDefinitions.answer_upsert_of_valid hd]
      simp only [DefinitionStore.answerInPlace, hd, hwrite, Prod.map]
    | error e =>
      rw [DefinitionStore.answer, DefinitionStore.upsert_of_invalid _ hd]
      simp only [DefinitionStore.answerInPlace, hd]
      rfl
  | delete key =>
    rw [PersistentDefinitions.answer_delete]
    simp only [DefinitionStore.answerInPlace, Tree.contains, hwrite, Prod.map]

end RelatedDefinitions

end Agreement

end QuerySets
