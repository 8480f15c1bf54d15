import Mathlib.Data.List.Forall2
import Mathlib.Data.List.Perm.Basic

/-!
Lists whose members are read one by one, up to the first error. What is read is related to
the list member by member, so that statements on lists are those on their members.
-/

namespace QuerySets

variable {α β γ ε : Type}

theorem map_eq_ok_iff {f : α → β} {result : Except ε α} {b : β} :
    result.map f = .ok b ↔ ∃ a, result = .ok a ∧ f a = b := by
  cases result with
  | error e => simp [Except.map]
  | ok a => simp [Except.map]

theorem exists_map_eq_ok_iff {f : α → β} {result : Except ε α} :
    (∃ b, result.map f = .ok b) ↔ ∃ a, result = .ok a := by
  simp only [map_eq_ok_iff]
  constructor
  · rintro ⟨b, a, ha, -⟩
    exact ⟨a, ha⟩
  · rintro ⟨a, ha⟩
    exact ⟨f a, a, ha, rfl⟩

/-- Relations that agree on the members of a list relate the list alike. -/
theorem forall₂_congr_of_mem {R S : α → β → Prop} {as : List α} {bs : List β}
    (h : ∀ a ∈ as, ∀ b, R a b ↔ S a b) : List.Forall₂ R as bs ↔ List.Forall₂ S as bs := by
  induction as generalizing bs with
  | nil => rw [List.forall₂_nil_left_iff, List.forall₂_nil_left_iff]
  | cons a rest ih =>
    obtain ⟨ha, hrest⟩ := List.forall_mem_cons.mp h
    simp only [List.forall₂_cons_left_iff, ha, ih hrest]

/-- Where lists are related, so is every member of the first one. -/
theorem exists_related {R : α → β → Prop} {as : List α} {bs : List β}
    (h : List.Forall₂ R as bs) {a : α} (ha : a ∈ as) : ∃ b ∈ bs, R a b := by
  induction h with
  | nil => cases ha
  | cons hfirst _ ih =>
    rcases List.mem_cons.mp ha with rfl | hrest
    · exact ⟨_, List.mem_cons_self, hfirst⟩
    · obtain ⟨b, hb, hrelated⟩ := ih hrest
      exact ⟨b, List.mem_cons_of_mem _ hb, hrelated⟩

/-- Where lists are related, so is every member of the second one. -/
theorem exists_relating {R : α → β → Prop} {as : List α} {bs : List β}
    (h : List.Forall₂ R as bs) {b : β} (hb : b ∈ bs) : ∃ a ∈ as, R a b :=
  exists_related h.flip hb

/-- Reading a list gives what is read of each of its members. -/
theorem mapM_eq_ok_iff {read : β → Except ε α} {bs : List β} {as : List α} :
    bs.mapM read = .ok as ↔ List.Forall₂ (fun b a => read b = .ok a) bs as := by
  induction bs generalizing as with
  | nil => cases as <;> simp [pure, Except.pure]
  | cons b rest ih =>
    rw [List.mapM_cons, List.forall₂_cons_left_iff]
    cases hread : read b with
    | error e => simp [bind, Except.bind]
    | ok a =>
      cases hrest : rest.mapM read with
      | error e => simp [bind, Except.bind, ← ih, hrest]
      | ok others => simp [bind, Except.bind, pure, Except.pure, ← ih, hrest, eq_comm]

/-- What is written so that it is read back can be read back as a list. -/
theorem mapM_map_eq_ok {read : β → Except ε α} {write : α → β} {as : List α}
    (h : ∀ a ∈ as, read (write a) = .ok a) : (as.map write).mapM read = .ok as :=
  mapM_eq_ok_iff.mpr (List.forall₂_map_left_iff.mpr (List.forall₂_same.mpr h))

/-- What each member is read as is what the list is read as. -/
theorem mapM_eq_ok_self {read : α → Except ε α} {as : List α} (h : ∀ a ∈ as, read a = .ok a) :
    as.mapM read = .ok as :=
  mapM_eq_ok_iff.mpr (List.forall₂_same.mpr h)

/-- Where each member can be read, and read as something related, so can the list. -/
theorem exists_mapM_forall₂ {read : β → Except ε α} {R : β → α → Prop}
    {bs : List β} (h : ∀ b ∈ bs, ∃ a, read b = .ok a ∧ R b a) :
    ∃ as, bs.mapM read = .ok as ∧ List.Forall₂ (fun b a => read b = .ok a ∧ R b a) bs as := by
  induction bs with
  | nil => exact ⟨[], rfl, .nil⟩
  | cons b rest ih =>
    obtain ⟨a, ha, hrelated⟩ := h b List.mem_cons_self
    obtain ⟨as, has, hrest⟩ := ih fun c hc => h c (List.mem_cons_of_mem _ hc)
    refine ⟨a :: as, ?_, .cons ⟨ha, hrelated⟩ hrest⟩
    rw [List.mapM_cons, ha, has]
    rfl

/-- A list can be read exactly if each member can. -/
theorem exists_mapM_eq_ok_iff {read : β → Except ε α} {bs : List β} :
    (∃ as, bs.mapM read = .ok as) ↔ ∀ b ∈ bs, ∃ a, read b = .ok a := by
  constructor
  · rintro ⟨as, has⟩ b hb
    obtain ⟨a, -, hread⟩ := exists_related (mapM_eq_ok_iff.mp has) hb
    exact ⟨a, hread⟩
  · intro h
    have hread : ∀ b ∈ bs, ∃ a, read b = .ok a ∧ True := by simpa using h
    obtain ⟨as, has, -⟩ := exists_mapM_forall₂ hread
    exact ⟨as, has⟩

/-- A result that is there and has a property. -/
def Gives (P : α → Prop) (result : Except ε α) : Prop := ∃ a, result = .ok a ∧ P a

theorem gives_ok {P : α → Prop} {a : α} : Gives P (.ok a : Except ε α) ↔ P a := by
  constructor
  · rintro ⟨_, hok, hP⟩
    cases hok
    exact hP
  · intro hP
    exact ⟨a, rfl, hP⟩

theorem not_gives_error {P : α → Prop} {e : ε} : ¬ Gives P (.error e : Except ε α) := by
  rintro ⟨_, hok, -⟩
  cases hok

theorem gives_map {f : α → β} {P : β → Prop} {result : Except ε α} :
    Gives P (result.map f) ↔ Gives (fun a => P (f a)) result := by
  cases result with
  | error e => simp only [Except.map, not_gives_error]
  | ok a => simp only [Except.map, gives_ok]

theorem gives_bind {f : α → Except ε β} {P : β → Prop} {result : Except ε α} :
    Gives P (result.bind f) ↔ Gives (fun a => Gives P (f a)) result := by
  cases result with
  | error e => simp only [Except.bind, not_gives_error]
  | ok a => simp only [Except.bind, gives_ok]

theorem gives_ite_error {c : Prop} [Decidable c] {P : α → Prop} {e : ε} {a : α} :
    Gives P (if c then .error e else .ok a) ↔ ¬ c ∧ P a := by
  by_cases hc : c
  · simp only [hc, if_true, not_gives_error, not_true_eq_false, false_and]
  · simp only [hc, if_false, gives_ok, not_false_eq_true, true_and]

/-- What is read of a list has a property of all members exactly if each member is read with
this property. -/
theorem gives_mapM {read : β → Except ε α} {P : α → Prop} {bs : List β} :
    Gives (fun as => ∀ a ∈ as, P a) (bs.mapM read) ↔ ∀ b ∈ bs, Gives P (read b) := by
  constructor
  · rintro ⟨as, has, hP⟩ b hb
    obtain ⟨a, ha, hread⟩ := exists_related (mapM_eq_ok_iff.mp has) hb
    exact ⟨a, hread, hP a ha⟩
  · intro h
    obtain ⟨as, has, hrelated⟩ := exists_mapM_forall₂ h
    refine ⟨as, has, fun a ha => ?_⟩
    obtain ⟨_, -, -, hP⟩ := exists_relating hrelated ha
    exact hP

theorem forall_mem_mapM {read : β → Except ε α} {P : α → Prop} {bs : List β} {as : List α}
    (h : bs.mapM read = .ok as) : (∀ a ∈ as, P a) ↔ ∀ b ∈ bs, Gives P (read b) := by
  rw [← gives_mapM, h, gives_ok]

/-- Some member of what is read of a list has a property exactly if some member is read with
this property. -/
theorem exists_mem_mapM {read : β → Except ε α} {P : α → Prop} {bs : List β} {as : List α}
    (h : bs.mapM read = .ok as) : (∃ a ∈ as, P a) ↔ ∃ b ∈ bs, Gives P (read b) := by
  have hrelated := mapM_eq_ok_iff.mp h
  constructor
  · rintro ⟨a, ha, hP⟩
    obtain ⟨b, hb, hread⟩ := exists_relating hrelated ha
    exact ⟨b, hb, a, hread, hP⟩
  · rintro ⟨b, hb, a, hread, hP⟩
    obtain ⟨other, hother, hsame⟩ := exists_related hrelated hb
    obtain rfl : a = other := Except.ok.inj (hread.symm.trans hsame)
    exact ⟨a, hother, hP⟩

/-- Lists whose members are read alike are read alike, also up to an error. -/
theorem mapM_eq_of_forall₂ {read : β → Except ε α} {other : γ → Except ε α} {bs : List β}
    {cs : List γ} (h : List.Forall₂ (fun b c => read b = other c) bs cs) :
    bs.mapM read = cs.mapM other := by
  induction h with
  | nil => rfl
  | cons hread _ ih => rw [List.mapM_cons, List.mapM_cons, hread, ih]

/-- What can be read in one order can be read in any other. -/
theorem exists_mapM_of_perm {read : β → Except ε α} {bs bs' : List β}
    {as : List α} (h : bs.mapM read = .ok as) (hperm : bs'.Perm bs) :
    ∃ as', bs'.mapM read = .ok as' ∧ as'.Perm as := by
  obtain ⟨as', hread, hsame⟩ := List.perm_comp_forall₂ hperm (mapM_eq_ok_iff.mp h)
  exact ⟨as', mapM_eq_ok_iff.mpr hread, hsame⟩

theorem mapM_eq_ok_of_perm {read : β → Except ε α} {write : α → β}
    (h : ∀ a, read (write a) = .ok a) {bs : List β} {as : List α} (hperm : bs.Perm (as.map write)) :
    ∃ as', bs.mapM read = .ok as' ∧ as'.Perm as :=
  exists_mapM_of_perm (mapM_map_eq_ok fun a _ => h a) hperm

end QuerySets
