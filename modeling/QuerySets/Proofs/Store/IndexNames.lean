import QuerySets.Proofs.Store.Memory

/-!
What the name of an index says about its key. A name joins paths and directions with
underscores, and a path may have underscores too, so the name is the list of its pieces and not
the key: an index on two paths can share its name with an index on one. Where no piece of a path
reads as a direction, each direction ends a path and the name tells the key.
-/

namespace QuerySets

namespace Index

def descends (part : String) : Bool := part.toList.head? == some '-'

/-- The path and the direction of each part of the key. -/
def directed (i : Index) : List (String × Bool) :=
  i.key.map fun part => (fieldOf part, descends part)

/-- The path of a part as the name spells it, where some of its signs may stay. -/
def spelled (part : String) : List Char :=
  match part.toList with
  | '-' :: rest => rest
  | cs => cs.dropWhile (· = '+')

def direction (part : String) : List Char := if descends part then ['-', '1'] else ['1']

def IsDirection (piece : List Char) : Prop := piece = ['1'] ∨ piece = ['-', '1']

instance (piece : List Char) : Decidable (IsDirection piece) :=
  inferInstanceAs (Decidable (_ ∨ _))

/-- The pieces of the name, between its underscores. -/
def pieces (i : Index) : List (List Char) :=
  i.key.flatMap fun part => (spelled part).splitOn '_' ++ [direction part]

/-- No piece of a path reads as a direction. -/
def Plain (i : Index) : Prop :=
  ∀ part ∈ i.key, ∀ piece ∈ (spelled part).splitOn '_', ¬ IsDirection piece

instance (i : Index) : Decidable i.Plain :=
  inferInstanceAs (Decidable (∀ part ∈ i.key, ∀ piece ∈ (spelled part).splitOn '_', _))

section Parts

theorem toList_partName (part : String) :
    (partName part).toList = spelled part ++ '_' :: direction part := by
  unfold partName spelled direction descends
  split
  next h => simp [h]
  next h =>
    have hhead : part.toList.head? ≠ some '-' := by
      intro hhead
      obtain ⟨rest, hrest⟩ := List.head?_eq_some_iff.mp hhead
      exact h rest hrest
    simp [hhead]

theorem isDirection_direction (part : String) : IsDirection (direction part) := by
  unfold direction
  split
  · exact .inr rfl
  · exact .inl rfl

theorem direction_inj {p q : String} : direction p = direction q ↔ descends p = descends q := by
  unfold direction
  cases descends p <;> cases descends q <;> decide

/-- The signs that the name leaves in front of a path are no part of the field. -/
theorem fieldOf_eq (part : String) :
    fieldOf part = String.ofList ((spelled part).dropWhile isSign) := by
  unfold fieldOf spelled
  congr 1
  split
  next rest h => rw [h]; rfl
  next =>
    induction part.toList with
    | nil => rfl
    | cons c cs ih =>
      by_cases hc : c = '+'
      · simpa [hc, isSign] using ih
      · simp [hc]

end Parts

section Names

theorem splitOn_inj {xs ys : List Char} : xs.splitOn '_' = ys.splitOn '_' ↔ xs = ys := by
  constructor
  · intro h
    have hjoined := congrArg (List.intercalate ['_']) h
    rwa [List.intercalate_splitOn, List.intercalate_splitOn] at hjoined
  · intro h
    rw [h]

theorem splitOn_direction (part : String) : (direction part).splitOn '_' = [direction part] := by
  unfold direction
  split <;> rfl

theorem splitOn_partName (part : String) :
    (partName part).toList.splitOn '_' = (spelled part).splitOn '_' ++ [direction part] := by
  rw [toList_partName, List.splitOn_append_cons_self, splitOn_direction]

theorem splitOn_name {i : Index} (h : i.key ≠ []) : i.name.toList.splitOn '_' = i.pieces := by
  obtain ⟨key, unique⟩ := i
  simp only [name, pieces]
  induction key with
  | nil => exact absurd rfl h
  | cons part rest ih =>
    cases rest with
    | nil => simp [splitOn_partName]
    | cons next others =>
      rw [List.flatMap_cons, ← ih (List.cons_ne_nil _ _), ← splitOn_partName,
        ← List.splitOn_append_cons_self]
      simp

theorem direction_mem_pieces {i : Index} {part : String} (h : part ∈ i.key) :
    direction part ∈ i.pieces :=
  List.mem_flatMap_of_mem h (List.mem_append_right _ List.mem_cons_self)

theorem name_ne_empty {i : Index} (h : i.key ≠ []) : i.name ≠ "" := by
  intro hname
  obtain ⟨part, hpart⟩ := List.exists_mem_of_ne_nil _ h
  have hmem := direction_mem_pieces hpart
  rw [← splitOn_name h, hname, String.toList_empty, List.splitOn_nil, List.mem_singleton] at hmem
  rcases isDirection_direction part with hascending | hdescending
  · simp [hmem] at hascending
  · simp [hmem] at hdescending

/-- Indexes have the same name exactly if their names have the same pieces. -/
theorem name_eq_iff {i j : Index} : i.name = j.name ↔ i.pieces = j.pieces := by
  have hnone : ∀ {k : Index}, k.key = [] → k.name = "" ∧ k.pieces = [] := by
    intro k hk
    simp [name, pieces, hk]
  have hsome : ∀ {k : Index}, k.key ≠ [] → k.pieces ≠ [] := by
    intro k hk
    obtain ⟨part, hpart⟩ := List.exists_mem_of_ne_nil _ hk
    exact List.ne_nil_of_mem (direction_mem_pieces hpart)
  by_cases hi : i.key = []
  · by_cases hj : j.key = []
    · simp [hnone hi, hnone hj]
    · simp [hnone hi, (name_ne_empty hj).symm, (hsome hj).symm]
  · by_cases hj : j.key = []
    · simp [hnone hj, name_ne_empty hi, hsome hi]
    · rw [← splitOn_name hi, ← splitOn_name hj, splitOn_inj, String.toList_inj]

/-- Up to the first element with the property the two lists are the same. -/
theorem append_cons_inj {α : Type} {P : α → Prop} {xs ys rest others : List α} {a b : α}
    (hxs : ∀ x ∈ xs, ¬ P x) (hys : ∀ y ∈ ys, ¬ P y) (ha : P a) (hb : P b)
    (h : xs ++ a :: rest = ys ++ b :: others) : xs = ys ∧ a = b ∧ rest = others := by
  rcases List.append_eq_append_iff.mp h with ⟨more, rfl, hrest⟩ | ⟨more, rfl, hrest⟩
  · cases more with
    | nil => simpa using hrest
    | cons y more =>
      obtain ⟨rfl, -⟩ := List.cons.inj hrest
      exact absurd ha (hys a (by simp))
  · cases more with
    | nil => simpa [eq_comm] using hrest
    | cons x more =>
      obtain ⟨rfl, -⟩ := List.cons.inj hrest
      exact absurd hb (hxs b (by simp))

/-- Plain indexes on different paths or directions have different names. -/
theorem name_ne {i j : Index} (hi : i.Plain) (hj : j.Plain) (h : i.directed ≠ j.directed) :
    i.name ≠ j.name := by
  intro hname
  refine h ?_
  have hpieces := name_eq_iff.mp hname
  obtain ⟨key, _⟩ := i
  obtain ⟨other, _⟩ := j
  clear h hname
  simp only [directed, pieces, Plain] at hi hj hpieces ⊢
  induction key generalizing other with
  | nil =>
    cases other with
    | nil => rfl
    | cons q others => simp at hpieces
  | cons p rest ih =>
    cases other with
    | nil => simp at hpieces
    | cons q others =>
      simp only [List.flatMap_cons, List.append_assoc, List.singleton_append] at hpieces
      -- Neither path has a direction among its pieces, so both end at the first one.
      obtain ⟨hpath, hdirection, hrest⟩ := append_cons_inj (hi p List.mem_cons_self)
        (hj q List.mem_cons_self) (isDirection_direction p) (isDirection_direction q) hpieces
      have hothers := ih (fun part hpart => hi part (List.mem_cons_of_mem _ hpart)) others
        (fun part hpart => hj part (List.mem_cons_of_mem _ hpart)) hrest
      rw [List.map_cons, List.map_cons, hothers, fieldOf_eq, fieldOf_eq, splitOn_inj.mp hpath,
        direction_inj.mp hdirection]

end Names

end Index

namespace MemoryStore

variable {s : MemoryStore} {name : String}

/-- A collection without documents takes every declaration, and keeps one with a new name. -/
theorem ensureIndex_of_documents_eq_nil (hempty : s.documents name = []) (i : Index) :
    ∃ s', s.ensureIndex name i = .ok s' ∧ s'.documents name = [] ∧
      ∀ k, k ∈ s'.indexes name ↔
        k ∈ s.indexes name ∨ k = i ∧ ∀ l ∈ s.indexes name, l.name ≠ i.name := by
  have hcheck : Index.checkUnique name [i] [] (s.documents name) = .ok () := by
    simp [hempty, Index.checkUnique, Index.clash?]
  have hknown : (s.indexes name).any (·.name == i.name) = true ↔
      ¬ ∀ l ∈ s.indexes name, l.name ≠ i.name := by
    simp
  rw [ensureIndex_eq, hcheck]
  by_cases hnew : ∀ l ∈ s.indexes name, l.name ≠ i.name
  · rw [if_neg fun h => hknown.mp h hnew]
    refine ⟨_, rfl, ?_, fun k => ?_⟩
    · rw [documents_put, if_pos rfl, hempty]
    · rw [indexes_put, if_pos rfl, List.mem_append, List.mem_singleton, and_iff_left hnew]
  · rw [if_pos (hknown.mpr hnew)]
    exact ⟨s, rfl, hempty, fun k => by simp only [hnew, and_false, or_false]⟩

/-- Two indexes on different paths or directions are accepted on a collection without documents,
and each one is kept exactly if it was there or its name is new. If no piece of a path reads as a
direction, the names differ, and both are kept where nothing was declared on their paths and
directions before. -/
theorem indexes_of_ensureIndex_twice (hempty : s.documents name = []) {i j : Index}
    (hdiffer : i.directed ≠ j.directed) :
    ∃ s₁ s₂, s.ensureIndex name i = .ok s₁ ∧ s₁.ensureIndex name j = .ok s₂ ∧
      (i ∈ s₂.indexes name ↔
        i ∈ s.indexes name ∨ ∀ k ∈ s.indexes name, k.name ≠ i.name) ∧
      (j ∈ s₂.indexes name ↔
        j ∈ s.indexes name ∨ i.name ≠ j.name ∧ ∀ k ∈ s.indexes name, k.name ≠ j.name) ∧
      (i.Plain → j.Plain → i.name ≠ j.name ∧
        ((∀ k ∈ s.indexes name, k.Plain ∧ k.directed ≠ i.directed ∧ k.directed ≠ j.directed) →
          i ∈ s₂.indexes name ∧ j ∈ s₂.indexes name)) := by
  have hne : i ≠ j := fun heq => hdiffer (congrArg Index.directed heq)
  obtain ⟨s₁, hfirst, hempty₁, hkept₁⟩ := ensureIndex_of_documents_eq_nil hempty i
  obtain ⟨s₂, hsecond, -, hkept₂⟩ := ensureIndex_of_documents_eq_nil hempty₁ j
  have hi : i ∈ s₂.indexes name ↔
      i ∈ s.indexes name ∨ ∀ k ∈ s.indexes name, k.name ≠ i.name := by
    simp [hkept₂, hkept₁, hne]
  have hj : j ∈ s₂.indexes name ↔
      j ∈ s.indexes name ∨ i.name ≠ j.name ∧ ∀ k ∈ s.indexes name, k.name ≠ j.name := by
    -- Where the first index was not kept, one of its name is there, and this one counts.
    have hnew : (∀ k ∈ s₁.indexes name, k.name ≠ j.name) ↔
        i.name ≠ j.name ∧ ∀ k ∈ s.indexes name, k.name ≠ j.name := by
      simp only [hkept₁]
      constructor
      · intro h
        refine ⟨fun hname => ?_, fun k hk => h k (.inl hk)⟩
        refine h i (.inr ⟨rfl, fun l hl => ?_⟩) hname
        rw [hname]
        exact h l (.inl hl)
      · rintro ⟨hname, hothers⟩ k (hk | ⟨rfl, -⟩)
        · exact hothers k hk
        · exact hname
    rw [hkept₂, hnew, hkept₁]
    simp [hne.symm]
  refine ⟨s₁, s₂, hfirst, hsecond, hi, hj, fun hplain hplain' => ?_⟩
  have hname := Index.name_ne hplain hplain' hdiffer
  refine ⟨hname, fun hearlier => ⟨hi.mpr (.inr fun k hk => ?_),
    hj.mpr (.inr ⟨hname, fun k hk => ?_⟩)⟩⟩
  · exact Index.name_ne (hearlier k hk).1 hplain (hearlier k hk).2.1
  · exact Index.name_ne (hearlier k hk).1 hplain' (hearlier k hk).2.2

/-- The second index is accepted and not declared, as the name of the first one is its name. -/
theorem second_index_lost :
    ∃ s, ensureIndex .empty "stations" ⟨["region", "name"], false⟩ = .ok s ∧
      s.ensureIndex "stations" ⟨["region_1_name"], false⟩ = .ok s ∧
      Index.directed ⟨["region", "name"], false⟩ ≠ Index.directed ⟨["region_1_name"], false⟩ ∧
      ⟨["region_1_name"], false⟩ ∉ s.indexes "stations" := by
  refine ⟨_, rfl, rfl, by decide, fun h => ?_⟩
  have hkey := congrArg Index.key (List.mem_singleton.mp h)
  exact absurd hkey (by decide)

theorem indexes_of_ensureIndex_twice_stations :
    ∃ s s₁ s₂, ensureIndex .empty "stations" ⟨["gust"], false⟩ = .ok s ∧
      s.ensureIndex "stations" ⟨["station_id", "-name"], false⟩ = .ok s₁ ∧
      s₁.ensureIndex "stations" ⟨["station", "id_name"], true⟩ = .ok s₂ ∧
      ⟨["station_id", "-name"], false⟩ ∈ s₂.indexes "stations" ∧
      ⟨["station", "id_name"], true⟩ ∈ s₂.indexes "stations" := by
  obtain ⟨s, hs⟩ : ∃ s, ensureIndex .empty "stations" ⟨["gust"], false⟩ = .ok s := ⟨_, rfl⟩
  have hempty : s.documents "stations" = [] := by
    cases hs
    rfl
  have hindexes : s.indexes "stations" = [⟨["gust"], false⟩] := by
    cases hs
    rfl
  obtain ⟨s₁, s₂, hfirst, hsecond, -, -, hplain⟩ := indexes_of_ensureIndex_twice hempty
    (i := ⟨["station_id", "-name"], false⟩) (j := ⟨["station", "id_name"], true⟩) (by decide)
  obtain ⟨-, hkept⟩ := hplain (by decide) (by decide)
  refine ⟨s, s₁, s₂, hs, hfirst, hsecond, hkept fun k hk => ?_⟩
  rw [hindexes, List.mem_singleton] at hk
  rw [hk]
  decide

end MemoryStore

end QuerySets
