import QuerySets.Proofs.Definition.History
import QuerySets.Proofs.Definition.Mask
import QuerySets.Proofs.Definition.Requests

/-!
Masks under their keys. A write in a definition store leaves the histories of all other keys as
they are, as long as no key has a zero character; keys of masks have none, since they are JSON
texts. So what a registry answers about a mask is changed only by requests that write this
mask, however similar the names of other masks are.
-/

namespace QuerySets

namespace DefinitionStore

variable {α : Type} [Definition α] {s s' : DefinitionStore α} {key other : String}

/-- The store after a write is the one before it with a write under one key. -/
inductive Writes (key : String) : DefinitionStore α → DefinitionStore α → Prop
  | memory (m : MemoryDefinitions α) (w : Write α) :
    Writes key (memory m) (memory (m.write key w))
  | persistent (p : PersistentDefinitions) (w : Write Json) :
    Writes key (persistent p) (persistent (p.write key w))

theorem writes_of_upsert {d : α} (h : s.upsert d = .ok s') :
    Writes (Definition.key d) s s' := by
  cases hd : Definition.validate d with
  | error e =>
    rw [s.upsert_of_invalid hd] at h
    cases h
  | ok _ =>
    cases s with
    | memory m =>
      rw [upsert, m.upsert_of_valid hd] at h
      cases h
      exact .memory m (.stored d)
    | persistent p =>
      rw [upsert, p.upsert_eq_write hd] at h
      cases h
      exact .persistent p _

theorem writes_of_delete (h : s.delete key = .ok s') : Writes key s s' := by
  cases s with
  | memory m =>
    rw [delete, m.delete_eq] at h
    split at h
    next =>
      cases h
      exact .memory m .deleted
    next => cases h
  | persistent p =>
    rw [delete, p.delete_eq_write] at h
    split at h
    next =>
      cases h
      exact .persistent p .deleted
    next => cases h

/-- A write adds to no history but that of its own key. -/
theorem Writes.history (h : Writes key s s') (hkey : '\x00' ∉ key.toList)
    (hother : '\x00' ∉ other.toList) (hne : key ≠ other) :
    s'.history other = s.history other := by
  cases h with
  | memory m w =>
    rw [DefinitionStore.history, DefinitionStore.history, m.history_write, if_neg hne]
  | persistent p w =>
    rw [DefinitionStore.history, DefinitionStore.history, PersistentDefinitions.history,
      PersistentDefinitions.history, PersistentDefinitions.scan_write_of_ne hkey hother hne]

/-- What can be read under a key is the same in two stores. -/
structure SameUnder (key : String) (s s' : DefinitionStore α) : Prop where
  get : s'.get key = s.get key
  history : s'.history key = s.history key

theorem SameUnder.refl (key : String) (s : DefinitionStore α) : SameUnder key s s := ⟨rfl, rfl⟩

theorem SameUnder.trans {s'' : DefinitionStore α} (h : SameUnder key s s')
    (h' : SameUnder key s' s'') : SameUnder key s s'' :=
  ⟨h'.get.trans h.get, h'.history.trans h.history⟩

theorem sameUnder_of_upsert {d : α} (h : s.upsert d = .ok s')
    (hown : '\x00' ∉ (Definition.key d).toList) (hother : '\x00' ∉ other.toList)
    (hne : other ≠ Definition.key d) : SameUnder other s s' :=
  ⟨get_upsert_of_ne h hne, (writes_of_upsert h).history hown hother (Ne.symm hne)⟩

/-- A deletion that is refused changes nothing, and any other one only its own key. -/
theorem sameUnder_delete (s : DefinitionStore α) (hkey : '\x00' ∉ key.toList)
    (hother : '\x00' ∉ other.toList) (hne : other ≠ key) :
    SameUnder other s (settle s () (s.delete key)).2 := by
  cases h : s.delete key with
  | error e => exact .refl other s
  | ok s' =>
    exact ⟨get_delete_of_ne h hne, (writes_of_delete h).history hkey hother (Ne.symm hne)⟩

end DefinitionStore

namespace Mask

theorem zero_not_mem_keyFor (collection field : String) :
    '\x00' ∉ (keyFor collection field).toList := by
  intro hzero
  simp only [keyFor, Json.compact, String.toList_ofList, Json.compactChars, Json.compactItems,
    List.mem_cons, List.mem_append, List.not_mem_nil, or_false] at hzero
  rcases hzero with h | h | h | h | h
  · exact absurd h (by decide)
  · exact Json.not_control_of_mem_quote h (by decide)
  · exact absurd h (by decide)
  · exact Json.not_control_of_mem_quote h (by decide)
  · exact absurd h (by decide)

end Mask

/-- The collection and the field of the mask that a request writes. -/
def Registry.Request.mask? : Registry.Request → Option (String × String)
  | .masks (.upsert m) => some (m.collection, m.field)
  | .masks (.delete key) => some key
  | _ => none

namespace Registry

open Mask (keyFor)
open DefinitionStore (SameUnder)

variable {r : Registry} {collection field : String}

theorem masks_answer (r : Registry) {request : Request}
    (h : ∀ maskRequest, request ≠ .masks maskRequest) : (r.answer request).2.masks = r.masks := by
  cases request with
  | masks request => exact absurd rfl (h request)
  | sets request => exact (spares_sets fun _ _ _ => rfl).answer r request
  | patterns request => exact (spares_patterns fun _ _ _ => rfl).answer r request
  | scripts request => exact (spares_scripts fun _ _ _ => rfl).answer r request
  | pattern name => rfl
  | fieldMasks collection => rfl

/-- Only the requests that write a mask change what is read of it. -/
theorem sameUnder_answer (r : Registry) {request : Request}
    (h : request.mask? ≠ some (collection, field)) :
    SameUnder (keyFor collection field) r.masks (r.answer request).2.masks := by
  have hne : ∀ {c f}, request.mask? = some (c, f) → keyFor collection field ≠ keyFor c f := by
    intro c f hmask hkey
    obtain ⟨rfl, rfl⟩ := Mask.keyFor_inj hkey
    exact h hmask
  have hzero := Mask.zero_not_mem_keyFor
  cases request with
  | masks request =>
    cases request with
    | upsert m =>
      change SameUnder _ _ (settle r () (r.upsertMask m)).2.masks
      rw [upsertMask]
      cases hupsert : r.masks.upsert m with
      | error e => exact .refl _ _
      | ok masks =>
        exact DefinitionStore.sameUnder_of_upsert hupsert (hzero _ _) (hzero _ _) (hne rfl)
    | delete key =>
      exact DefinitionStore.sameUnder_delete r.masks (hzero _ _) (hzero _ _) (hne rfl)
    | get _ | list | history _ => exact .refl _ _
  | sets _ | patterns _ | scripts _ | pattern _ | fieldMasks _ =>
    rw [masks_answer r (by simp)]
    exact .refl _ _

theorem sameUnder_answers (r : Registry) {requests : List Request}
    (h : ∀ request ∈ requests, request.mask? ≠ some (collection, field)) :
    SameUnder (keyFor collection field) r.masks (r.answers requests).2.masks := by
  induction requests generalizing r with
  | nil => exact .refl _ _
  | cons request rest ih =>
    obtain ⟨hfirst, hrest⟩ := List.forall_mem_cons.mp h
    exact (sameUnder_answer r hfirst).trans (ih _ hrest)

/-- The key of a mask belongs to one collection and one field, whatever their names contain. So
the definition and the history of a mask stay the same, in either kind of store, as long as no
request writes this very mask. -/
theorem masks_apart :
    (∀ c f c' f', keyFor c f = keyFor c' f' → c = c' ∧ f = f') ∧
      ∀ (r : Registry) (requests : List Request) (c f : String),
        (∀ request ∈ requests, request.mask? ≠ some (c, f)) →
          (r.answers requests).2.mask c f = r.mask c f ∧
            Catalogue.masks.history (r.answers requests).2 (c, f) =
              Catalogue.masks.history r (c, f) := by
  refine ⟨fun c f c' f' h => Mask.keyFor_inj h, ?_⟩
  intro r requests c f h
  have hsame := sameUnder_answers r h
  exact ⟨hsame.get, hsame.history⟩

/-- Two masks whose names, with a comma between them in quotes, are the same text. One of them is
written twice; then the other one is written and deleted. -/
theorem masks_apart_sample :
    let m : Mask := ⟨"a", "b\",\"c", .all⟩
    let r := ((Registry.persistent .default).answers [.masks (.upsert m), .masks (.upsert m)]).2
    let requests : List Request :=
      [.masks (.upsert ⟨"a\",\"b", "c", .remove⟩), .masks (.delete ("a\",\"b", "c"))]
    ((r.answers requests).2.mask "a" "b\",\"c").toOption.map (·.type) = some .all ∧
      (Catalogue.masks.history (r.answers requests).2 ("a", "b\",\"c")).toOption.map
        (·.map (·.action)) = some [.updated] := by
  intro m r requests
  obtain ⟨hmask, hhistory⟩ := masks_apart.2 r requests "a" "b\",\"c" (by decide)
  rw [hmask, hhistory]
  exact ⟨by decide +kernel, by decide +kernel⟩

end Registry

end QuerySets
