import QuerySets.Proofs.Definition.Requests
import QuerySets.Proofs.Definition.Store

/-!
The versions of definitions under their keys. What was granted among the requests to a store
are writes under keys, and each write puts an end to the version that stood there. So the
writes under a key tell which versions there were and what became of each. A store in memory
holds what they tell.
-/

namespace QuerySets

/-- A write under some key. -/
inductive Write (α : Type)
  | stored (definition : α)
  | deleted

namespace Write

variable {α : Type}

def definition? : Write α → Option α
  | stored d => some d
  | deleted => none

/-- What becomes of a version when the write is made after it. -/
def action : Write α → HistoryAction
  | stored _ => .updated
  | deleted => .deleted

/-- The versions that are followed by another write, each with what became of it. -/
def ended (key : String) : List (Write α) → List (HistoryEntry α)
  | stored d :: next :: rest => ⟨key, next.action, d⟩ :: ended key (next :: rest)
  | _ :: rest => ended key rest
  | [] => []

/-- The version that stands after the writes. -/
def standing (ws : List (Write α)) : Option α := ws.getLast?.bind definition?

theorem standing_concat (ws : List (Write α)) (w : Write α) :
    standing (ws ++ [w]) = w.definition? := by
  simp [standing]

theorem standing_cons_cons (w next : Write α) (rest : List (Write α)) :
    standing (w :: next :: rest) = standing (next :: rest) := rfl

/-- A write puts an end to the version that stands, if there is one. -/
theorem ended_concat (key : String) (ws : List (Write α)) (w : Write α) :
    ended key (ws ++ [w]) =
      ended key ws ++ ((standing ws).map fun d => ⟨key, w.action, d⟩).toList := by
  induction ws with
  | nil => cases w <;> rfl
  | cons first rest ih =>
    cases rest with
    | nil => cases first <;> cases w <;> rfl
    | cons next rest =>
      rw [standing_cons_cons]
      cases first with
      | stored d => exact congrArg (⟨key, next.action, d⟩ :: ·) ih
      | deleted => exact ih

/-- The versions that have ended and the one that stands are all that were stored. -/
theorem ended_append_standing (key : String) (ws : List (Write α)) :
    (ended key ws).map (·.definition) ++ (standing ws).toList = ws.filterMap definition? := by
  induction ws with
  | nil => rfl
  | cons first rest ih =>
    cases rest with
    | nil => cases first <;> rfl
    | cons next rest =>
      rw [standing_cons_cons]
      cases first with
      | stored d => exact congrArg (d :: ·) ih
      | deleted => exact ih

end Write

open Catalogue (Request Answer)

/-- The write that a request asks for, with its key. -/
def Catalogue.Request.write? {α : Type} [Definition α] :
    Request String α → Option (String × Write α)
  | .upsert d => some (Definition.key d, .stored d)
  | .delete key => some (key, .deleted)
  | .get _ | .list | .history _ => none

section Logs

variable {α : Type} [Definition α]

/-- The write under a key that the answer to a request grants. -/
def granted (key : String) : Request String α × Answer α → Option (Write α)
  | (request, .done (.ok ())) =>
    match request.write? with
    | some (other, w) => if other = key then some w else none
    | none => none
  | _ => none

/-- All writes under a key that were granted. -/
def writesUnder (key : String) (log : List (Request String α × Answer α)) : List (Write α) :=
  log.filterMap (granted key)

theorem writesUnder_concat (key : String) (log : List (Request String α × Answer α))
    (entry : Request String α × Answer α) :
    writesUnder key (log ++ [entry]) = writesUnder key log ++ (granted key entry).toList := by
  rw [writesUnder, writesUnder, List.filterMap_append, List.filterMap_cons]
  cases granted key entry <;> rfl

end Logs

section Writes

variable {α : Type}

/-- The tree after a write. -/
def Tree.write (t : Tree α) (key : String) : Write α → Tree α
  | .stored d => t.insert key.toList d
  | .deleted => t.erase key.toList

theorem Tree.get?_write (t : Tree α) (key other : String) (w : Write α) :
    (t.write key w).get? other.toList =
      if key = other then w.definition? else t.get? other.toList := by
  cases w with
  | stored d =>
    rw [write, get?_insert]
    simp only [String.toList_inj, Write.definition?]
  | deleted =>
    rw [write, get?_erase]
    simp only [String.toList_inj, Write.definition?]

theorem Tree.Sorted.write {t : Tree α} (h : t.Sorted) (key : String) (w : Write α) :
    (t.write key w).Sorted := by
  cases w with
  | stored d => exact h.insert _ d
  | deleted => exact h.erase _

theorem Tree.Keyed.write [Definition α] {t : Tree α} (h : t.Keyed) {key : String} {w : Write α}
    (hkey : ∀ d, w = .stored d → Definition.key d = key) : (t.write key w).Keyed := by
  cases w with
  | stored d => exact hkey d rfl ▸ h.insert d
  | deleted => exact h.erase _

/-- The store in memory after a write. -/
def MemoryDefinitions.write (s : MemoryDefinitions α) (key : String) (w : Write α) :
    MemoryDefinitions α :=
  ⟨s.current.write key w, s.record key w.action⟩

theorem MemoryDefinitions.past_write (s : MemoryDefinitions α) (key : String) (w : Write α) :
    (s.write key w).past = s.past ++
      ((s.current.get? key.toList).map fun d => ⟨key, w.action, d⟩).toList := by
  rw [write, record]
  cases s.current.get? key.toList with
  | none => exact (List.append_nil _).symm
  | some d => rfl

theorem MemoryDefinitions.history_write (s : MemoryDefinitions α) (key other : String)
    (w : Write α) : (s.write key w).history other =
      if key = other then
        s.history other ++ ((s.current.get? other.toList).map fun d => ⟨other, w.action, d⟩).toList
      else s.history other := by
  rw [history, history, past_write, List.filter_append]
  cases hold : s.current.get? key.toList with
  | none => split <;> simp_all
  | some d => split <;> simp_all

end Writes

namespace DefinitionStore

variable {α : Type} [Definition α]

def answer (s : DefinitionStore α) : Request String α → Answer α × DefinitionStore α
  | .upsert d => (settle s () (s.upsert d)).map .done id
  | .get key => (.one (s.get key), s)
  | .list => (.many s.list, s)
  | .delete key => (settle s () (s.delete key)).map .done id
  | .history key => (.past (s.history key), s)

/-- What happens to a store. The counts under which a persistent one keeps its history are
also given out to others. -/
inductive Event (α : Type)
  | request (request : Request String α)
  | skip (counts : Nat)

def skip (s : DefinitionStore α) (counts : Nat) : DefinitionStore α :=
  match s with
  | memory s => memory s
  | persistent s => persistent { s with count := s.count + counts }

/-- The requests among some events with their answers, and the store after them. -/
def follow (s : DefinitionStore α) :
    List (Event α) → List (Request String α × Answer α) × DefinitionStore α
  | [] => ([], s)
  | .request request :: rest =>
    let (first, s) := s.answer request
    let (others, s) := follow s rest
    ((request, first) :: others, s)
  | .skip counts :: rest => follow (s.skip counts) rest

end DefinitionStore

namespace MemoryDefinitions

variable {α : Type} [Definition α] {m : MemoryDefinitions α}

theorem answer_upsert_of_valid {d : α} (h : Definition.validate d = .ok ()) :
    (DefinitionStore.memory m).answer (.upsert d) =
      (.done (.ok ()), .memory (m.write (Definition.key d) (.stored d))) := by
  rw [DefinitionStore.answer, DefinitionStore.upsert, m.upsert_of_valid h]
  rfl

theorem answer_delete (key : String) :
    (DefinitionStore.memory m).answer (.delete key) =
      if (m.current.get? key.toList).isSome then
        (.done (.ok ()), .memory (m.write key .deleted))
      else (.done (.error (.notFound (Definition.kind α) key)), .memory m) := by
  rw [DefinitionStore.answer, DefinitionStore.delete, m.delete_eq]
  split <;> rfl

/-- A request makes its write or leaves the store as it is, and tells which of both. -/
theorem answer_cases (m : MemoryDefinitions α) (request : Request String α) :
    (∃ key w, request.write? = some (key, w) ∧
      (DefinitionStore.memory m).answer request = (.done (.ok ()), .memory (m.write key w))) ∨
    (((DefinitionStore.memory m).answer request).2 = .memory m ∧
      ∀ key, granted key (request, ((DefinitionStore.memory m).answer request).1) = none) := by
  cases request with
  | get key => exact Or.inr ⟨rfl, fun _ => rfl⟩
  | list => exact Or.inr ⟨rfl, fun _ => rfl⟩
  | history key => exact Or.inr ⟨rfl, fun _ => rfl⟩
  | upsert d =>
    cases hd : Definition.validate d with
    | ok _ => exact Or.inl ⟨Definition.key d, .stored d, rfl, answer_upsert_of_valid hd⟩
    | error e =>
      right
      rw [DefinitionStore.answer, DefinitionStore.upsert_of_invalid _ hd]
      exact ⟨rfl, fun _ => rfl⟩
  | delete key =>
    rw [answer_delete]
    split
    · exact Or.inl ⟨key, .deleted, rfl, rfl⟩
    · exact Or.inr ⟨rfl, fun _ => rfl⟩

/-- The store holds what the writes tell that were granted in its log. -/
structure Told (log : List (Request String α × Answer α)) (m : MemoryDefinitions α) : Prop where
  current : ∀ key : String, m.current.get? key.toList = Write.standing (writesUnder key log)
  history : ∀ key : String, m.history key = Write.ended key (writesUnder key log)

theorem told_empty : Told [] (.empty : MemoryDefinitions α) := ⟨fun _ => rfl, fun _ => rfl⟩

theorem Told.write {log : List (Request String α × Answer α)} (h : Told log m)
    {request : Request String α} {key : String} {w : Write α}
    (hwrite : request.write? = some (key, w)) :
    Told (log ++ [(request, .done (.ok ()))]) (m.write key w) := by
  have hgranted : ∀ other, granted other (request, .done (.ok ())) =
      if key = other then some w else none := by
    intro other
    simp only [granted, hwrite]
  refine ⟨?current, ?history⟩
  case current =>
    intro other
    rw [writesUnder_concat, hgranted, MemoryDefinitions.write, Tree.get?_write]
    split
    · exact (Write.standing_concat _ w).symm
    · rw [Option.toList_none, List.append_nil]
      exact h.current other
  case history =>
    intro other
    rw [writesUnder_concat, hgranted, history_write]
    split
    · rw [h.history, h.current]
      exact (Write.ended_concat other _ w).symm
    · rw [Option.toList_none, List.append_nil]
      exact h.history other

theorem Told.answer {log : List (Request String α × Answer α)} (h : Told log m)
    {request : Request String α} {answer : Answer α} {m' : MemoryDefinitions α}
    (hanswer : (DefinitionStore.memory m).answer request = (answer, .memory m')) :
    Told (log ++ [(request, answer)]) m' := by
  rcases m.answer_cases request with ⟨key, w, hwrite, heq⟩ | ⟨hsame, hnone⟩
  · rw [hanswer] at heq
    cases heq
    exact h.write hwrite
  · rw [hanswer] at hsame hnone
    cases hsame
    have hlog : ∀ key, writesUnder key (log ++ [(request, answer)]) = writesUnder key log := by
      intro key
      rw [writesUnder_concat, hnone, Option.toList_none, List.append_nil]
    exact ⟨fun key => hlog key ▸ h.current key, fun key => hlog key ▸ h.history key⟩

end MemoryDefinitions

end QuerySets
