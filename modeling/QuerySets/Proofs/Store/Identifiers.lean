import Mathlib.Algebra.Group.Nat.Defs
import QuerySets.Store.IdSupply

/-!
Identifiers given to documents. A document that has its own identifier is left as it is; one
that has none gets a fresh one in front of its fields. Identifiers that are given in turn, in
one batch or in many, all differ until their count has gone through all of its three bytes.
-/

namespace QuerySets

/-- The document with an identifier in front of its fields. -/
def Document.withId (d : Document) (id : ObjectId) : Document :=
  ⟨("_id", .objectId id) :: d.entries⟩

/-- The last three bytes of an identifier tell the numbers apart that it is made of. -/
theorem ObjectId.mod_eq_of_ofNat_eq {m n : Nat} (h : ofNat m = ofNat n) :
    m % 2 ^ 24 = n % 2 ^ 24 := by
  have hbyte : ∀ i : Fin 12,
      m / 2 ^ (8 * (11 - i.val)) % 256 = n / 2 ^ (8 * (11 - i.val)) % 256 := by
    intro i
    have hget : (ofNat m).bytes[i] = (ofNat n).bytes[i] := by rw [h]
    have hvalue := congrArg UInt8.toNat hget
    simpa [ofNat, Nat.shiftRight_eq_div_pow] using hvalue
  have hhigh : m / 65536 % 256 = n / 65536 % 256 := hbyte 9
  have hmiddle : m / 256 % 256 = n / 256 % 256 := hbyte 10
  have hlow : m / 1 % 256 = n / 1 % 256 := hbyte 11
  omega

namespace IdSupply

/-- The documents on the right are those on the left in their order, each with its own
identifier or with the next one of those that are given. -/
inductive Identified : List Document → List ObjectId → List Document → Prop
  | nil : Identified [] [] []
  | own {d : Document} {docs kept : List Document} {given : List ObjectId}
      (h : d.contains "_id" = true) (rest : Identified docs given kept) :
      Identified (d :: docs) given (d :: kept)
  | given {d : Document} {docs kept : List Document} {given : List ObjectId} (id : ObjectId)
      (h : d.contains "_id" = false) (rest : Identified docs given kept) :
      Identified (d :: docs) (id :: given) (d.withId id :: kept)

theorem Identified.length_eq {docs kept : List Document} {given : List ObjectId}
    (h : Identified docs given kept) : kept.length = docs.length := by
  induction h with
  | nil => rfl
  | own _ _ ih => rw [List.length_cons, List.length_cons, ih]
  | given _ _ _ ih => rw [List.length_cons, List.length_cons, ih]

/-- What documents have, and keep with an identifier in front, the identified ones have. -/
theorem Identified.forall_mem {docs kept : List Document} {given : List ObjectId}
    (h : Identified docs given kept) {P : Document → Prop} (hdocs : ∀ d ∈ docs, P d)
    (hid : ∀ d id, d.contains "_id" = false → P d → P (d.withId id)) : ∀ d ∈ kept, P d := by
  induction h with
  | nil => exact hdocs
  | own _ _ ih =>
    obtain ⟨hfirst, hrest⟩ := List.forall_mem_cons.mp hdocs
    exact List.forall_mem_cons.mpr ⟨hfirst, ih hrest⟩
  | given id hnone _ ih =>
    obtain ⟨hfirst, hrest⟩ := List.forall_mem_cons.mp hdocs
    exact List.forall_mem_cons.mpr ⟨hid _ id hnone hfirst, ih hrest⟩

/-- What an identifier in front makes no difference to, all documents have before and after. -/
theorem Identified.forall_mem_iff {docs kept : List Document} {given : List ObjectId}
    (h : Identified docs given kept) {P : Document → Prop} (hid : ∀ d id, P (d.withId id) ↔ P d) :
    (∀ d ∈ kept, P d) ↔ ∀ d ∈ docs, P d := by
  induction h with
  | nil => exact Iff.rfl
  | own _ _ ih => rw [List.forall_mem_cons, List.forall_mem_cons, ih]
  | given id _ _ ih => rw [List.forall_mem_cons, List.forall_mem_cons, ih, hid]

/-- The next identifiers of a supply. -/
def upcoming (s : IdSupply) : Nat → List ObjectId
  | 0 => []
  | n + 1 => s.current :: upcoming s.advance n

/-- How many documents have no identifier of their own. -/
def lacking (docs : List Document) : Nat := docs.countP fun d => !d.contains "_id"

/-- The identifiers that are given to the documents that have none. -/
def given (s : IdSupply) (docs : List Document) : List ObjectId := s.upcoming (lacking docs)

/-- As many identifiers are used up as there are documents without one. -/
theorem identified_assign (s : IdSupply) (docs : List Document) :
    Identified docs (s.given docs) (s.assign docs).2 ∧
      (s.assign docs).1.next = s.next + lacking docs := by
  induction docs generalizing s with
  | nil => exact ⟨.nil, rfl⟩
  | cons d rest ih =>
    by_cases hown : d.contains "_id" = true
    · have hfirst : s.assignOne d = (s, d) := if_pos hown
      have hlacking : lacking (d :: rest) = lacking rest :=
        List.countP_cons_of_neg (by simp [hown])
      obtain ⟨hrest, hnext⟩ := ih s
      simp only [assign, hfirst, given, hlacking]
      exact ⟨.own hown hrest, hnext⟩
    · have hfirst : s.assignOne d = (s.advance, d.withId s.current) := if_neg hown
      have hlacking : lacking (d :: rest) = lacking rest + 1 :=
        List.countP_cons_of_pos (by simp [hown])
      obtain ⟨hrest, hnext⟩ := ih s.advance
      simp only [assign, hfirst, given, hlacking, upcoming]
      refine ⟨.given s.current (Bool.eq_false_iff.mpr hown) hrest, ?_⟩
      have hcount : s.advance.next = s.next + 1 := rfl
      omega

/-- As many documents are identified as there are. -/
theorem length_assign (s : IdSupply) (docs : List Document) :
    (s.assign docs).2.length = docs.length :=
  (s.identified_assign docs).1.length_eq

section Fresh

/-- The identifier is made of a count, at whatever time and by whichever process. -/
def Tells (id : ObjectId) (count : Nat) : Prop :=
  ∃ second process, id = current ⟨second, process, count⟩

/-- An identifier tells the count that it was made of, up to its three bytes. -/
theorem Tells.mod_eq {id : ObjectId} {m n : Nat} (hm : Tells id m) (hn : Tells id n) :
    m % 2 ^ 24 = n % 2 ^ 24 := by
  obtain ⟨_, _, rfl⟩ := hm
  obtain ⟨_, _, hsame⟩ := hn
  have hmod := ObjectId.mod_eq_of_ofNat_eq hsame
  simp only [Nat.shiftLeft_eq] at hmod
  omega

theorem tells_of_mem_upcoming {s : IdSupply} {n : Nat} {id : ObjectId} (h : id ∈ s.upcoming n) :
    ∃ count, s.next ≤ count ∧ count < s.next + n ∧ Tells id count := by
  induction n generalizing s with
  | zero => cases h
  | succ n ih =>
    rcases List.mem_cons.mp h with rfl | hrest
    · exact ⟨s.next, Nat.le_refl _, by omega, s.second, s.process, rfl⟩
    · obtain ⟨count, hleast, hmost, htells⟩ := ih hrest
      have hnext : s.advance.next = s.next + 1 := rfl
      exact ⟨count, by omega, by omega, htells⟩

theorem nodup_upcoming (s : IdSupply) {n : Nat} (h : n ≤ 2 ^ 24) : (s.upcoming n).Nodup := by
  induction n generalizing s with
  | zero => exact List.nodup_nil
  | succ n ih =>
    refine List.nodup_cons.mpr ⟨?_, ih s.advance (by omega)⟩
    intro hmem
    obtain ⟨count, hleast, hmost, htells⟩ := tells_of_mem_upcoming hmem
    have hnext : s.advance.next = s.next + 1 := rfl
    have hmod := htells.mod_eq ⟨s.second, s.process, rfl⟩
    omega

/-- Batches take their identifiers in turn: each starts at the count where the one before it
stopped, or further on, and none goes beyond the bound. -/
def InTurn (bound : Nat) : Nat → List (IdSupply × List Document) → Prop
  | next, [] => next ≤ bound
  | next, (s, docs) :: rest => next ≤ s.next ∧ InTurn bound (s.assign docs).1.next rest

/-- All identifiers that batches are given. -/
def drawn (batches : List (IdSupply × List Document)) : List ObjectId :=
  batches.flatMap fun batch => batch.1.given batch.2

theorem InTurn.le_bound {bound next : Nat} {batches : List (IdSupply × List Document)}
    (h : InTurn bound next batches) : next ≤ bound := by
  induction batches generalizing next with
  | nil => exact h
  | cons batch rest ih =>
    obtain ⟨hstart, hrest⟩ := h
    have hafter := ih hrest
    have hnext := (batch.1.identified_assign batch.2).2
    omega

theorem InTurn.tells {bound next : Nat} {batches : List (IdSupply × List Document)}
    (h : InTurn bound next batches) {id : ObjectId} (hid : id ∈ drawn batches) :
    ∃ count, next ≤ count ∧ count < bound ∧ Tells id count := by
  induction batches generalizing next with
  | nil => cases hid
  | cons batch rest ih =>
    obtain ⟨hstart, hrest⟩ := h
    have hnext := (batch.1.identified_assign batch.2).2
    have hbound := hrest.le_bound
    rcases List.mem_append.mp hid with hfirst | hlater
    · obtain ⟨count, hleast, hmost, htells⟩ := tells_of_mem_upcoming hfirst
      exact ⟨count, by omega, by omega, htells⟩
    · obtain ⟨count, hleast, hmost, htells⟩ := ih hrest hlater
      exact ⟨count, by omega, hmost, htells⟩

/-- Identifiers that are drawn in turn are all different, so that each is a fresh one. -/
theorem InTurn.nodup {bound next : Nat} {batches : List (IdSupply × List Document)}
    (h : InTurn bound next batches) (hbound : bound ≤ next + 2 ^ 24) : (drawn batches).Nodup := by
  induction batches generalizing next with
  | nil => exact List.nodup_nil
  | cons batch rest ih =>
    obtain ⟨hstart, hrest⟩ := h
    have hnext := (batch.1.identified_assign batch.2).2
    have hend := hrest.le_bound
    refine List.nodup_append.mpr ⟨batch.1.nodup_upcoming (by omega), ih hrest (by omega), ?_⟩
    rintro id hfirst _ hlater rfl
    obtain ⟨m, hleast, hmost, hm⟩ := tells_of_mem_upcoming hfirst
    obtain ⟨n, hleast', hmost', hn⟩ := hrest.tells hlater
    have hmod := hm.mod_eq hn
    omega

end Fresh

end IdSupply

end QuerySets
