import QuerySets.Proofs.Document.Removal

/-!
The laws of reading, writing and taking away at paths. What is written is read back, and the later
of two writings counts. As long as there are only documents on the way, what is taken away is what
was read, paths beside the edited one lead to what they led to, and each document on the way has
its fields in the order that it had.
-/

namespace QuerySets

namespace Fields

variable {α : Type} {key : String} {d : Fields α}

/-- One field is written: in the place of the old one, or else as the last one. All others stay as
they are, in their order. -/
def Writes (key : String) (d out : Fields α) : Prop :=
  ∃ content, (∃ before old after, d.entries = before ++ (key, old) :: after ∧
      out.entries = before ++ (key, content) :: after) ∨
    key ∉ d.keys ∧ out.entries = d.entries ++ [(key, content)]

/-- One field is taken out. All others stay as they are, in their order. -/
def TakesOut (key : String) (d out : Fields α) : Prop :=
  ∃ before old after, d.entries = before ++ (key, old) :: after ∧ out.entries = before ++ after

theorem put_of_mem {entries : List (String × α)} (h : key ∈ entries.map (·.1)) (content : α) :
    ∃ before old after, entries = before ++ (key, old) :: after ∧
      put key content entries = before ++ (key, content) :: after := by
  induction entries with
  | nil => cases h
  | cons entry rest ih =>
    obtain ⟨k, old⟩ := entry
    by_cases hk : k = key
    · subst hk
      exact ⟨[], old, rest, rfl, if_pos rfl⟩
    · have hrest : key ∈ rest.map (·.1) := (List.mem_cons.mp h).resolve_left (Ne.symm hk)
      obtain ⟨before, found, after, hentries, hput⟩ := ih hrest
      refine ⟨(k, old) :: before, found, after, by rw [hentries]; rfl, ?_⟩
      rw [put, if_neg hk, hput]
      rfl

theorem writes_insert (d : Fields α) (key : String) (content : α) :
    Writes key d (d.insert key content) := by
  refine ⟨content, ?_⟩
  by_cases hkey : key ∈ d.keys
  · exact Or.inl (put_of_mem hkey content)
  · exact Or.inr ⟨hkey, keys_put_of_notMem hkey⟩

theorem takesOut_erase {content : α} (h : d.get? key = some content) :
    TakesOut key d (d.erase key) := by
  obtain ⟨⟨k, old⟩, before, after, -, hk, hentries, herase⟩ :=
    List.exists_of_eraseP (p := (·.1 == key)) (Association.mem_of_lookup h) (by simp)
  obtain rfl : k = key := by simpa using hk
  exact ⟨before, old, after, hentries, herase⟩

end Fields

namespace Document

open QuerySets.Path (Apart)

/-- All that the beginnings of a path lead to are documents. -/
def Clear (d : Document) (p : Path) : Prop :=
  ∀ r v, r <+: p → r ≠ p → d.at? r = some v → ∃ child, v = .document child

theorem clear_iff_inits {d : Document} {p : Path} :
    Clear d p ↔ ∀ r ∈ p.inits, r ≠ p → (d.at? r).all (·.document?.isSome) = true := by
  simp only [Clear, List.mem_inits, Option.all_eq_true]
  constructor
  · intro h r hr hne v hat
    obtain ⟨child, rfl⟩ := h r v hr hne hat
    rfl
  · intro h r v hr hne hat
    have hdocument := h r hr hne v hat
    cases v <;> cases hdocument
    exact ⟨_, rfl⟩

instance (d : Document) (p : Path) : Decidable (Clear d p) :=
  decidable_of_iff _ clear_iff_inits.symm

/-- Below a document a path leads on as it does in it. -/
theorem at?_append {d level : Document} {front : Path}
    (h : d.at? front = some (.document level)) (back : Path) :
    d.at? (front ++ back) = level.at? back := by
  rw [at?, Value.at?_append, ← at?, h]
  rfl

section Clear

variable {d level : Document} {key : String} {p rest front back : Path}

theorem clear_empty (p : Path) : Clear Fields.empty p := by
  intro r v _ _ hat
  by_cases hr : r = []
  · subst hr
    exact ⟨_, (Option.some.inj hat).symm⟩
  · rw [at?_empty hr] at hat
    cases hat

theorem Clear.below (h : Clear d (front ++ back)) (hat : d.at? front = some (.document level)) :
    Clear level back := by
  intro r v hr hne hv
  refine h (front ++ r) v ((List.prefix_append_right_inj front).mpr hr) ?_ ?_
  · exact fun heq => hne (List.append_cancel_left heq)
  · rw [at?_append hat]
    exact hv

/-- At its first segment a path that is longer finds nothing or goes on in a document. -/
theorem Clear.cases (h : Clear d (key :: rest)) (hrest : rest ≠ []) :
    d.get? key = none ∨ ∃ child, d.get? key = some (.document child) ∧ Clear child rest := by
  cases hfield : d.get? key with
  | none => exact Or.inl rfl
  | some v =>
    have hat : d.at? [key] = some v := by
      rw [at?_cons, hfield]
      rfl
    have hne : [key] ≠ key :: rest := fun heq => hrest (List.cons.inj heq).2.symm
    obtain ⟨child, rfl⟩ := h [key] v (List.prefix_append [key] rest) hne hat
    have hbeyond : Clear d ([key] ++ rest) := h
    exact Or.inr ⟨child, rfl, hbeyond.below hat⟩

theorem Clear.not_displaces (h : Clear d p) (q : Path) : ¬ Displaces d p q := by
  rintro ⟨r, v, hr, hne, -, hat, hv⟩
  obtain ⟨child, rfl⟩ := h r v hr hne hat
  cases hv

theorem Clear.not_meetsArray (h : Clear d p) : ¬ Value.MeetsArray p (.document d) := by
  rintro ⟨r, items, hr, hne, harray⟩
  obtain ⟨child, hchild⟩ := h r _ hr hne (Value.at?_of_within? harray)
  cases hchild

/-- The document that is come to on the way is edited where the rest of the path leads. -/
theorem Clear.at?_set (h : Clear d (front ++ back)) (hback : back ≠ []) (v : Value) :
    at? (d.set (front ++ back) v) front =
      some (.document (set (Value.asDocument (d.at? front)) back v)) := by
  induction front generalizing d with
  | nil => rfl
  | cons key rest ih =>
    have hne : rest ++ back ≠ [] := fun hnil => hback (List.append_eq_nil_iff.mp hnil).2
    rw [List.cons_append, at?_set_cons hne]
    rcases h.cases hne with hnone | ⟨child, hchild, hclear⟩
    · rw [at?_cons, hnone]
      -- The documents that are made on the way start from the empty one.
      refine (ih (clear_empty _)).trans ?_
      cases rest with
      | nil => rfl
      | cons segment rest => rfl
    · rw [at?_cons_document hchild, hchild]
      exact ih hclear

theorem Clear.at?_remove (h : Clear d (front ++ back)) (hback : back ≠ [])
    (hat : d.at? front = some (.document level)) :
    at? (d.remove (front ++ back)).2 front = some (.document (remove level back).2) := by
  induction front generalizing d with
  | nil =>
    cases hat
    rfl
  | cons key rest ih =>
    have hne : rest ++ back ≠ [] := fun hnil => hback (List.append_eq_nil_iff.mp hnil).2
    rcases h.cases hne with hnone | ⟨below, hbelow, hclear⟩
    · rw [at?_cons, hnone] at hat
      cases hat
    · rw [at?_cons_document hbelow] at hat
      rw [List.cons_append, remove_cons hne hbelow, at?_insert_self]
      exact ih hclear hat

/-- What is taken away is what was read. -/
theorem Clear.remove_fst (h : Clear d p) (hp : p ≠ []) : (d.remove p).1 = d.at? p := by
  induction p generalizing d with
  | nil => exact absurd rfl hp
  | cons key rest ih =>
    by_cases hrest : rest = []
    · subst hrest
      rw [at?_cons]
      exact (Option.bind_fun_some (d.get? key)).symm
    · rcases h.cases hrest with hnone | ⟨child, hchild, hclear⟩
      · rw [remove_blocked hrest (by rw [hnone]; nofun), at?_cons, hnone]
        rfl
      · rw [remove_cons hrest hchild, at?_cons_document hchild]
        exact ih hclear hrest

/-- The beginnings of a path that leads to a value lead to values. -/
theorem Clear.exists_document (h : Clear d (front ++ back)) (hback : back ≠ [])
    (hfound : d.at? (front ++ back) ≠ none) :
    ∃ child, d.at? front = some (.document child) := by
  cases hat : d.at? front with
  | none =>
    rw [at?, Value.at?_append, ← at?, hat] at hfound
    exact absurd rfl hfound
  | some v =>
    have hne : front ≠ front ++ back := fun heq => hback (List.append_right_eq_self.mp heq.symm)
    obtain ⟨child, rfl⟩ := h front v (List.prefix_append front back) hne hat
    exact ⟨child, rfl⟩

theorem Clear.remove (h : Clear d p) : Clear (d.remove p).2 p := by
  by_cases hfound : d.at? p = none
  · rw [remove_of_missing hfound]
    exact h
  · rintro r v ⟨back, rfl⟩ hne hat
    have hback : back ≠ [] := fun hnil => hne (by rw [hnil, List.append_nil])
    obtain ⟨child, hchild⟩ := h.exists_document hback hfound
    rw [h.at?_remove hback hchild] at hat
    exact ⟨_, (Option.some.inj hat).symm⟩

/-- Nothing is read where a value was taken away. -/
theorem Clear.at?_removed (h : Clear d p) (hproper : d.Proper) (hp : p ≠ []) :
    at? (d.remove p).2 p = none := by
  rw [at?, Value.at?_eq_within? h.remove.not_meetsArray]
  exact within?_remove_of_prefix hp List.prefix_rfl hproper

end Clear

section Order

variable {d : Document} {key : String} {front back : Path}

/-- The later of two writings counts. -/
theorem set_set (d : Document) (p : Path) (v w : Value) : (d.set p v).set p w = d.set p w := by
  induction p generalizing d with
  | nil => rfl
  | cons key rest ih =>
    cases rest with
    | nil => exact Fields.insert_insert d key v w
    | cons segment rest =>
      have hne : segment :: rest ≠ [] := List.cons_ne_nil _ _
      rw [set_cons hne, set_cons hne, set_cons hne, Fields.get?_insert, if_pos rfl,
        Fields.insert_insert]
      exact congrArg (fun child => d.insert key (.document child)) (ih _)

theorem writes_set (d : Document) (key : String) (rest : Path) (v : Value) :
    Fields.Writes key d (d.set (key :: rest) v) := by
  cases rest with
  | nil => exact Fields.writes_insert d key v
  | cons segment rest =>
    rw [set_cons (List.cons_ne_nil _ _)]
    exact Fields.writes_insert d key _

/-- The fields of the document that a value is taken out of, or that leads to such a one. -/
theorem edits_remove {rest : Path} (h : Clear d (key :: rest))
    (hfound : d.at? (key :: rest) ≠ none) :
    if rest = [] then Fields.TakesOut key d (d.remove (key :: rest)).2
    else Fields.Writes key d (d.remove (key :: rest)).2 := by
  split
  next hrest =>
    subst hrest
    obtain ⟨v, hat⟩ := Option.ne_none_iff_exists'.mp hfound
    rw [at?_cons] at hat
    have hfield : d.get? key = some v := (Option.bind_fun_some (d.get? key)).symm.trans hat
    exact Fields.takesOut_erase hfield
  next hrest =>
    rcases h.cases hrest with hnone | ⟨child, hchild, -⟩
    · rw [at?_cons, hnone] at hfound
      exact absurd rfl hfound
    · rw [remove_cons hrest hchild]
      exact Fields.writes_insert d key _

end Order

/-- What is written at a path is read there, and the later of two writings counts. If all that the
beginnings of the path lead to are documents, then paths beside it lead to what they led to, what
is taken away is what was read, and nothing is read there afterwards. Each document on the way
keeps all other fields in their order, with the written field in its old place or, if it is new,
at the end; what is not found is not taken away. -/
theorem path_laws (d : Document) (hproper : d.Proper) (path : String) (v w : Value) :
    (d.setPath path v).getPath? path = some v ∧
    (d.setPath path v).setPath path w = d.setPath path w ∧
    (Clear d (Path.ofString path) →
      (∀ q, Apart (Path.ofString path) (Path.ofString q) →
        (d.setPath path v).getPath? q = d.getPath? q ∧
          (d.removePath path).2.getPath? q = d.getPath? q) ∧
      (d.removePath path).1 = d.getPath? path ∧
      (d.removePath path).2.getPath? path = none ∧
      (d.getPath? path = none → (d.removePath path).2 = d) ∧
      ∀ front key back, Path.ofString path = front ++ key :: back →
        (∃ out, (d.setPath path v).at? front = some (.document out) ∧
          Fields.Writes key (Value.asDocument (d.at? front)) out) ∧
        (d.getPath? path ≠ none →
          ∃ level out, d.at? front = some (.document level) ∧
            (d.removePath path).2.at? front = some (.document out) ∧
            if back = [] then Fields.TakesOut key level out else Fields.Writes key level out)) := by
  have hpath : Path.ofString path ≠ [] := Path.ofString_ne_nil path
  refine ⟨at?_set hpath d v, set_set d _ v w, fun hclear => ⟨fun q hq => ⟨?_, ?_⟩, ?_, ?_, ?_, ?_⟩⟩
  · exact (at?_set_of_apart hq d v).1 (hclear.not_displaces _)
  · exact at?_remove_of_apart hq d
  · exact hclear.remove_fst hpath
  · exact hclear.at?_removed hproper hpath
  · exact remove_of_missing
  · intro front key back hsplit
    have hback : key :: back ≠ [] := List.cons_ne_nil key back
    rw [hsplit] at hclear
    constructor
    · rw [setPath, hsplit]
      exact ⟨_, hclear.at?_set hback v, writes_set _ key back v⟩
    · intro hfound
      rw [getPath?, hsplit] at hfound
      obtain ⟨level, hlevel⟩ := hclear.exists_document hback hfound
      refine ⟨level, (remove level (key :: back)).2, hlevel, ?_, ?_⟩
      · rw [removePath, hsplit]
        exact hclear.at?_remove hback hlevel
      · rw [at?_append hlevel] at hfound
        exact edits_remove (hclear.below hlevel) hfound

/-- A buoy with what it measured last. -/
def buoy : Document :=
  ⟨[("_id", .int 7), ("last", .document ⟨[("wind", .int 3), ("state", .string "FL")]⟩),
    ("gusts", .array [.int 5, .int 9])]⟩

theorem path_laws_buoy :
    buoy.Proper ∧ Clear buoy (Path.ofString "last.wind") ∧
      Apart (Path.ofString "last.wind") (Path.ofString "gusts.1") ∧
      (buoy.setPath "last.wind" (.int 4)).getPath? "last.wind" = some (.int 4) ∧
      (buoy.setPath "last.wind" (.int 4)).getPath? "gusts.1" = some (.int 9) ∧
      (buoy.removePath "last.wind").1 = some (.int 3) ∧
      (buoy.removePath "last.wind").2.getPath? "last.wind" = none := by
  have hproper : buoy.Proper := by decide
  have hclear : Clear buoy (Path.ofString "last.wind") := by decide
  have hapart : Apart (Path.ofString "last.wind") (Path.ofString "gusts.1") := by decide
  obtain ⟨hset, -, hlaws⟩ := path_laws buoy hproper "last.wind" (.int 4) .null
  obtain ⟨hbeside, hremoved, hgone, -, -⟩ := hlaws hclear
  exact ⟨hproper, hclear, hapart, hset, (hbeside "gusts.1" hapart).1, hremoved, hgone⟩

end Document

end QuerySets
