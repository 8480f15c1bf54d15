import QuerySets.Definition.NamedPattern
import QuerySets.Definition.Script
import QuerySets.Proofs.Definition.History
import QuerySets.Proofs.Text.Bytes

/-!
Definition stores lose no version. Whatever is asked of a store, what was stored under a key
are the versions in the history of the key and the one that stands, in their order. Stores
of both kinds answer the same requests alike, and a write that fails changes neither.
-/

namespace QuerySets

open Catalogue (Request Answer)

namespace DefinitionStore

variable {α : Type} [Definition α]

section Counts

theorem counted_le_answer (s : DefinitionStore α) (request : Request String α) :
    s.counted ≤ (s.answer request).2.counted := by
  cases s with
  | memory s => exact Nat.zero_le _
  | persistent s =>
    cases request with
    | get _ | list | history _ => exact Nat.le_refl _
    | upsert d =>
      cases hd : Definition.validate d with
      | ok _ =>
        rw [PersistentDefinitions.answer_upsert_of_valid hd]
        exact s.count_le_write _ _
      | error e =>
        rw [answer, upsert_of_invalid _ hd]
        exact Nat.le_refl _
    | delete key =>
      rw [PersistentDefinitions.answer_delete]
      split
      · exact s.count_le_write _ _
      · exact Nat.le_refl _

theorem counted_le_follow (s : DefinitionStore α) (events : List (Event α)) :
    s.counted ≤ (s.follow events).2.counted := by
  induction events generalizing s with
  | nil => exact Nat.le_refl _
  | cons event rest ih =>
    cases event with
    | request request => exact (s.counted_le_answer request).trans (ih _)
    | skip counts =>
      have hskip : s.counted ≤ (s.skip counts).counted := by
        cases s with
        | memory s => exact Nat.le_refl _
        | persistent s => exact Nat.le_add_right _ _
      exact hskip.trans (ih _)

end Counts

section Runs

open MemoryDefinitions (Told told_empty)

/-- What the log of a store tells is what the store answers, and no write of it fails halfway. -/
structure Faithful (log : List (Request String α × Answer α)) (s : DefinitionStore α) : Prop where
  inPlace : ∀ request, s.answerInPlace request = s.answer request
  refused : ∀ request e, (s.answerInPlace request).1 = .done (.error e) →
    (s.answerInPlace request).2 = s
  list : ∃ ds, s.list = .ok ds ∧
    (ds.map fun d => Text.bytes (Definition.key d)).Pairwise (· < ·) ∧
    ∀ d, d ∈ ds ↔ s.get (Definition.key d) = .ok d
  get : ∀ key : String, '\x00' ∉ key.toList → s.get key =
    match Write.standing (writesUnder key log) with
    | some d => .ok d
    | none => .error (.notFound (Definition.kind α) key)
  history : ∀ key : String, '\x00' ∉ key.toList →
    ∃ past, s.history key = .ok past ∧ past = Write.ended key (writesUnder key log) ∧
      past.map (·.definition) ++ (Write.standing (writesUnder key log)).toList =
        (writesUnder key log).filterMap Write.definition?

variable {m : MemoryDefinitions α} {p : PersistentDefinitions}

theorem pairwise_bytes {t : Tree α} (hsorted : t.Sorted) (hkeyed : t.Keyed) :
    (t.values.map fun d => Text.bytes (Definition.key d)).Pairwise (· < ·) := by
  rw [Tree.values, List.map_map, List.pairwise_map]
  refine List.Pairwise.imp_of_mem ?_ hsorted
  intro a b ha hb hlt
  rw [hkeyed a.1 a.2 ha, hkeyed b.1 b.2 hb] at hlt
  exact Text.bytes_lt hlt

theorem mem_list_iff {t : Tree α} (hsorted : t.Sorted) (hkeyed : t.Keyed) (d : α) :
    d ∈ t.values ↔ t.get? (Definition.key d).toList = some d := by
  rw [hsorted.mem_values]
  constructor
  · rintro ⟨key, hkey⟩
    exact hkeyed key d (hsorted.mem_iff.mpr hkey) ▸ hkey
  · intro hd
    exact ⟨_, hd⟩

/-- A store in memory is faithful to the log that tells what it holds. -/
theorem faithful_memory {log : List (Request String α × Answer α)} (hsorted : m.current.Sorted)
    (hkeyed : m.current.Keyed) (h : Told log m) : Faithful log (memory m) := by
  refine ⟨answerInPlace_memory m, ?refused, ?list, ?get, ?history⟩
  case refused =>
    intro request e he
    rw [answerInPlace_memory] at he ⊢
    exact answer_of_refused he
  case list =>
    refine ⟨m.list, rfl, pairwise_bytes hsorted hkeyed, ?_⟩
    intro d
    rw [MemoryDefinitions.list, mem_list_iff hsorted hkeyed, get, MemoryDefinitions.get]
    cases m.current.get? (Definition.key d).toList <;> simp
  case get =>
    intro key _
    have hcurrent := h.current key
    cases hstanding : Write.standing (writesUnder key log) with
    | none => simp only [get, MemoryDefinitions.get, hcurrent, hstanding]
    | some d => simp only [get, MemoryDefinitions.get, hcurrent, hstanding]
  case history =>
    intro key _
    exact ⟨m.history key, rfl, h.history key, h.history key ▸ Write.ended_append_standing key _⟩

/-- A persistent store that is related to it is faithful to the same log. -/
theorem Faithful.persistent {log : List (Request String α × Answer α)}
    (h : Faithful log (memory m)) (hrelated : RelatedDefinitions m p) :
    Faithful log (persistent p) := by
  have hget : ∀ key, (DefinitionStore.persistent p).get key = (memory m).get key := hrelated.get
  refine ⟨hrelated.answerInPlace, ?refused, ?list, ?get, ?history⟩
  case refused =>
    intro request e he
    rw [hrelated.answerInPlace] at he ⊢
    exact answer_of_refused he
  case list =>
    obtain ⟨ds, hds, hordered, hmem⟩ := h.list
    cases hds
    refine ⟨m.list, hrelated.list, hordered, ?_⟩
    intro d
    rw [hget]
    exact hmem d
  case get =>
    intro key hkey
    rw [hget]
    exact h.get key hkey
  case history =>
    intro key hkey
    obtain ⟨past, hpast, htold⟩ := h.history key hkey
    cases hpast
    exact ⟨m.history key, hrelated.history hkey, htold⟩

/-- Related stores give the same answers to all requests, and remain what their log tells. -/
theorem follow_related {log : List (Request String α × Answer α)}
    (h : RelatedDefinitions m p) (htold : Told log m) {events : List (Event α)}
    (hevents : ∀ request, .request request ∈ events → request.Admissible)
    (hcount : ((persistent p).follow events).2.counted ≤ 2 ^ 64) :
    ∃ later m' p', (memory m).follow events = (later, .memory m') ∧
      (persistent p).follow events = (later, .persistent p') ∧
      RelatedDefinitions m' p' ∧ Told (log ++ later) m' := by
  induction events generalizing m p log with
  | nil => exact ⟨[], m, p, rfl, rfl, h, (List.append_nil log).symm ▸ htold⟩
  | cons event rest ih =>
    have hrest : ∀ request, .request request ∈ rest → request.Admissible :=
      fun request hrequest => hevents request (List.mem_cons_of_mem _ hrequest)
    cases event with
    | request request =>
      simp only [follow] at hcount ⊢
      obtain ⟨answer, m', p', hm, hp, hrelated⟩ := h.answer (hevents request List.mem_cons_self)
        ((counted_le_follow _ rest).trans hcount)
      rw [hp] at hcount ⊢
      rw [hm]
      obtain ⟨later, m'', p'', hm'', hp'', hrelated', htold'⟩ :=
        ih hrelated (htold.answer hm) hrest hcount
      rw [hm'', hp'']
      exact ⟨(request, answer) :: later, m'', p'', rfl, rfl, hrelated',
        List.append_cons log _ later ▸ htold'⟩
    | skip counts => exact ih (h.skip counts) htold hrest hcount

/-- A store in memory and a persistent one, both empty at first, give the same answers as long
as the counts of the persistent one do not run out. Both lose no version: what was stored under
a key are the versions in its history, each marked with what became of it, and the one that
stands. -/
theorem versions_kept (events : List (Event α))
    (hevents : ∀ request, .request request ∈ events → request.Admissible)
    (hcount : ((persistent .empty : DefinitionStore α).follow events).2.counted ≤ 2 ^ 64) :
    ∃ (log : List (Request String α × Answer α)) (s t : DefinitionStore α),
      (memory .empty).follow events = (log, s) ∧ (persistent .empty).follow events = (log, t) ∧
        Faithful log s ∧ Faithful log t := by
  obtain ⟨log, m, p, hm, hp, hrelated, htold⟩ :=
    follow_related relatedDefinitions_empty told_empty hevents hcount
  have hfaithful : Faithful log (memory m) :=
    faithful_memory hrelated.sorted hrelated.keyed htold
  exact ⟨log, memory m, persistent p, hm, hp, hfaithful, hfaithful.persistent hrelated⟩

end Runs

section Samples

/-- A script that counts into a field. -/
def counting (name field : String) : Script := ⟨name, "", [⟨[("$count", .string field)]⟩]⟩

/-- A run with a key that starts another one, counts that others use up, a second version, a
deletion, a deletion and a write that are refused, and a return. -/
def countingEvents : List (Event Script) :=
  [.request (.upsert (counting "station" "a")),
   .request (.upsert (counting "stations" "b")),
   .request (.upsert (counting "station" "c")),
   .skip 300,
   .request (.delete "station"),
   .request (.delete "station"),
   .request (.upsert ⟨"station", "", []⟩),
   .request (.upsert (counting "station" "d")),
   .request (.delete "stations"),
   .request .list]

theorem admissible_countingEvents (request : Request String Script)
    (h : .request request ∈ countingEvents) : request.Admissible := by
  simp only [countingEvents, List.mem_cons, Event.request.injEq, reduceCtorEq, List.not_mem_nil,
    or_false, false_or] at h
  refine ⟨?named, ?restorable⟩
  case named =>
    intro key hkey
    have hkeys : key = "station" ∨ key = "stations" := by
      rcases h with rfl | rfl | rfl | rfl | rfl | rfl | rfl | rfl | rfl <;> cases hkey <;>
        first | exact Or.inl rfl | exact Or.inr rfl
    rcases hkeys with rfl | rfl <;> decide
  case restorable =>
    rintro d rfl
    have hds : d = ⟨"station", "", []⟩ ∨ ∃ name field, d = counting name field := by
      simp only [Request.upsert.injEq, reduceCtorEq, or_false, false_or] at h
      rcases h with rfl | rfl | rfl | rfl | rfl
      · exact Or.inr ⟨_, _, rfl⟩
      · exact Or.inr ⟨_, _, rfl⟩
      · exact Or.inr ⟨_, _, rfl⟩
      · exact Or.inl rfl
      · exact Or.inr ⟨_, _, rfl⟩
    rcases hds with rfl | ⟨name, field, rfl⟩
    · exact ⟨rfl, rfl⟩
    · exact ⟨rfl, rfl⟩

theorem versions_kept_sample :
    let s := ((persistent .empty : DefinitionStore Script).follow countingEvents).2
    (∀ request, .request request ∈ countingEvents → request.Admissible) ∧
      s.counted ≤ 2 ^ 64 ∧ s.list = .ok [counting "station" "d"] ∧
      s.history "station" = .ok [⟨"station", .updated, counting "station" "a"⟩,
        ⟨"station", .deleted, counting "station" "c"⟩] ∧
      ∃ (log : List (Request String Script × Answer Script)) (t : DefinitionStore Script),
        (memory .empty).follow countingEvents = (log, t) ∧
          (persistent .empty).follow countingEvents = (log, s) ∧
          Faithful log t ∧ Faithful log s := by
  intro s
  have hcount : s.counted ≤ 2 ^ 64 := by
    have hcounted : s.counted = 303 := rfl
    omega
  obtain ⟨log, t, s', ht, hs, hmemory, hpersistent⟩ :=
    versions_kept countingEvents admissible_countingEvents hcount
  have hsame : s' = s := congrArg Prod.snd hs.symm
  subst hsame
  exact ⟨admissible_countingEvents, hcount, rfl, rfl, log, t, ht, hs, hmemory, hpersistent⟩

end Samples

end DefinitionStore

end QuerySets
