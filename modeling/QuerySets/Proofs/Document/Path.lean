import Mathlib.Data.List.Infix
import QuerySets.Document.Path
import QuerySets.Proofs.Fields
import QuerySets.Proofs.Text.Split

/-!
Reading after writing at paths. What is written is found at its path. Another path, of which
neither leads through the other, still leads to what it led to, unless the writing had to
replace a value that is no document and that both paths lead through: then all that was in
that value is lost.
-/

namespace QuerySets

namespace Path

/-- Neither of two paths leads through the other. -/
def Apart (p q : Path) : Prop := ¬ p <+: q ∧ ¬ q <+: p

instance (p q : Path) : Decidable (Apart p q) := inferInstanceAs (Decidable (_ ∧ _))

theorem Apart.symm {p q : Path} (h : Apart p q) : Apart q p := ⟨h.2, h.1⟩

theorem not_apart_nil (q : Path) : ¬ Apart [] q := fun h => h.1 List.nil_prefix

theorem Apart.exists_cons {p q : Path} (h : Apart p q) : ∃ key rest, q = key :: rest := by
  cases q with
  | nil => exact absurd h.symm (not_apart_nil p)
  | cons key rest => exact ⟨key, rest, rfl⟩

theorem apart_cons_self {key : String} {p q : Path} :
    Apart (key :: p) (key :: q) ↔ Apart p q := by
  simp only [Apart, List.cons_prefix_cons, true_and]

/-- A path is apart from the beginnings of another one that it does not begin with. -/
theorem Apart.beginning {p q r : Path} (h : Apart p q) (hr : r <+: q) (hne : ¬ r <+: p) :
    Apart p r :=
  ⟨fun hp => h.1 (hp.trans hr), hne⟩

/-- Of paths that are apart from each other, each is apart from those before and after it. -/
theorem apart_of_split {α : Type} {path : α → Path} {entries before after : List α} {a : α}
    (hapart : (entries.map path).Pairwise Apart) (hsplit : entries = before ++ a :: after) :
    (∀ b ∈ before, Apart (path b) (path a)) ∧ ∀ b ∈ after, Apart (path b) (path a) := by
  rw [hsplit, List.map_append, List.pairwise_append, List.map_cons, List.pairwise_cons,
    List.forall_mem_map] at hapart
  obtain ⟨-, ⟨hafter, -⟩, hbefore⟩ := hapart
  refine ⟨fun b hb => ?_, fun b hb => (hafter b hb).symm⟩
  exact hbefore _ (List.mem_map_of_mem hb) _ List.mem_cons_self

theorem ofString_ne_nil (text : String) : Path.ofString text ≠ [] := by
  intro h
  exact Text.splitChars_ne_nil '.' text.toList (List.map_eq_nil_iff.mp h)

/-- A text without dots is one segment. -/
theorem ofString_of_not_mem {text : String} (h : '.' ∉ text.toList) :
    Path.ofString text = [text] := by
  rw [Path.ofString, Text.split_of_not_mem h]

end Path

/-- A path leads on from where its beginning leads to. -/
theorem Value.at?_append (front back : Path) (v : Value) :
    v.at? (front ++ back) = (v.at? front).bind (Value.at? back) := by
  induction front generalizing v with
  | nil => rfl
  | cons segment rest ih =>
    rw [List.cons_append, Value.at?, Value.at?, Option.bind_assoc]
    congr 1
    funext w
    exact ih w

namespace Document

open QuerySets.Path (Apart)

/-- Both paths lead through a value that is no document. Writing at the first one puts a
document in its place. -/
def Displaces (d : Document) (p q : Path) : Prop :=
  ∃ r v, r <+: p ∧ r ≠ p ∧ r <+: q ∧ d.at? r = some v ∧ v.document? = none

theorem displaces_iff_inits {d : Document} {p q : Path} :
    Displaces d p q ↔
      ∃ r ∈ p.inits, r ≠ p ∧ r <+: q ∧ (d.at? r).any (·.document?.isNone) = true := by
  simp only [Displaces, List.mem_inits, Option.any_eq_true, Option.isNone_iff_eq_none]
  constructor
  · rintro ⟨r, v, hp, hne, hq, hat, hv⟩
    exact ⟨r, hp, hne, hq, v, hat, hv⟩
  · rintro ⟨r, hp, hne, hq, v, hat, hv⟩
    exact ⟨r, v, hp, hne, hq, hat, hv⟩

instance (d : Document) (p q : Path) : Decidable (Displaces d p q) :=
  decidable_of_iff _ displaces_iff_inits.symm

theorem at?_nil (d : Document) : d.at? [] = some (.document d) := rfl

theorem at?_cons (d : Document) (key : String) (rest : Path) :
    d.at? (key :: rest) = (d.get? key).bind (Value.at? rest) := rfl

theorem getPath?_of_not_mem {field : String} (h : '.' ∉ field.toList) (d : Document) :
    d.getPath? field = d.get? field := by
  rw [getPath?, Path.ofString_of_not_mem h, at?_cons]
  exact Option.bind_fun_some (d.get? field)

theorem at?_cons_document {d child : Document} {key : String}
    (h : d.get? key = some (.document child)) (rest : Path) :
    d.at? (key :: rest) = child.at? rest := by
  rw [at?_cons, h]
  rfl

theorem at?_empty {p : Path} (h : p ≠ []) : at? Fields.empty p = none := by
  cases p with
  | nil => exact absurd rfl h
  | cons key rest => rfl

theorem at?_insert_self (d : Document) (key : String) (v : Value) (rest : Path) :
    at? (d.insert key v) (key :: rest) = Value.at? rest v := by
  rw [at?_cons, Fields.get?_insert, if_pos rfl]
  rfl

theorem at?_insert_of_ne {d : Document} {key other : String} (h : key ≠ other) (v : Value)
    (rest : Path) : at? (d.insert key v) (other :: rest) = d.at? (other :: rest) := by
  rw [at?_cons, Fields.get?_insert, if_neg h, ← at?_cons]

theorem set_cons {rest : Path} (h : rest ≠ []) (d : Document) (key : String) (v : Value) :
    d.set (key :: rest) v =
      d.insert key (.document (set (Value.asDocument (d.get? key)) rest v)) := by
  cases rest with
  | nil => exact absurd rfl h
  | cons segment rest => rw [set]

theorem at?_set_cons {rest : Path} (h : rest ≠ []) (d : Document) (key : String) (v : Value)
    (q : Path) : at? (d.set (key :: rest) v) (key :: q) =
      at? (set (Value.asDocument (d.get? key)) rest v) q := by
  rw [set_cons h, at?_insert_self]
  rfl

/-- What is written at a path is found there. -/
theorem at?_set {p : Path} (h : p ≠ []) (d : Document) (v : Value) :
    at? (d.set p v) p = some v := by
  induction p generalizing d with
  | nil => exact absurd rfl h
  | cons key rest ih =>
    cases rest with
    | nil => exact at?_insert_self d key v []
    | cons segment rest =>
      rw [at?_set_cons (List.cons_ne_nil _ _)]
      exact ih (List.cons_ne_nil _ _) _

/-- On the way to what is written there are documents. -/
theorem exists_document_of_set {p r : Path} (hr : r <+: p) (hne : r ≠ p) (d : Document)
    (v : Value) : ∃ child, at? (d.set p v) r = some (.document child) := by
  induction r generalizing p d with
  | nil => exact ⟨_, at?_nil _⟩
  | cons key r ih =>
    obtain ⟨rest, rfl⟩ := hr
    have hrest : r ++ rest ≠ [] := by
      intro hnil
      obtain ⟨rfl, rfl⟩ := List.append_eq_nil_iff.mp hnil
      exact hne rfl
    rw [List.cons_append, at?_set_cons hrest]
    exact ih (List.prefix_append r rest) (fun heq => hne (congrArg (key :: ·) heq)) _

section Displaces

variable {d : Document} {key : String} {p q : Path}

theorem not_displaces_of_ne {other : String} (h : key ≠ other) :
    ¬ Displaces d (key :: p) (other :: q) := by
  rintro ⟨r, v, hp, -, hq, hat, hv⟩
  cases r with
  | nil =>
    cases hat
    cases hv
  | cons segment r =>
    exact h ((List.cons_prefix_cons.mp hp).1.symm.trans (List.cons_prefix_cons.mp hq).1)

theorem not_displaces_empty (p q : Path) : ¬ Displaces Fields.empty p q := by
  rintro ⟨r, v, -, -, -, hat, hv⟩
  cases r with
  | nil =>
    cases hat
    cases hv
  | cons segment r =>
    rw [at?_empty (List.cons_ne_nil _ _)] at hat
    cases hat

theorem displaces_cons_document {child : Document} (h : d.get? key = some (.document child)) :
    Displaces d (key :: p) (key :: q) ↔ Displaces child p q := by
  constructor
  · rintro ⟨r, v, hp, hne, hq, hat, hv⟩
    cases r with
    | nil =>
      cases hat
      cases hv
    | cons segment r =>
      obtain ⟨rfl, hp'⟩ := List.cons_prefix_cons.mp hp
      rw [at?_cons_document h] at hat
      exact ⟨r, v, hp', fun heq => hne (congrArg (segment :: ·) heq),
        (List.cons_prefix_cons.mp hq).2, hat, hv⟩
  · rintro ⟨r, v, hp, hne, hq, hat, hv⟩
    refine ⟨key :: r, v, List.cons_prefix_cons.mpr ⟨rfl, hp⟩,
      fun heq => hne (List.cons.inj heq).2, List.cons_prefix_cons.mpr ⟨rfl, hq⟩, ?_, hv⟩
    rw [at?_cons_document h]
    exact hat

/-- The value of a field that is no document stands in the way of all paths through it. -/
theorem displaces_cons_of_value {v : Value} (h : d.get? key = some v) (hv : v.document? = none)
    (hp : p ≠ []) : Displaces d (key :: p) (key :: q) := by
  refine ⟨[key], v, List.cons_prefix_cons.mpr ⟨rfl, List.nil_prefix⟩, ?_,
    List.cons_prefix_cons.mpr ⟨rfl, List.nil_prefix⟩, ?_, hv⟩
  · intro heq
    exact hp (List.cons.inj heq).2.symm
  · rw [at?_cons, h]
    rfl

theorem not_displaces_missing (h : d.get? key = none) : ¬ Displaces d (key :: p) (key :: q) := by
  rintro ⟨r, v, hp, -, -, hat, hv⟩
  cases r with
  | nil =>
    cases hat
    cases hv
  | cons segment r =>
    obtain ⟨rfl, -⟩ := List.cons_prefix_cons.mp hp
    rw [at?_cons, h] at hat
    cases hat

end Displaces

/-- Apart from what is written, a path leads to what it led to, and to nothing if a value that
it led through has been replaced. -/
theorem at?_set_of_apart {p q : Path} (h : Apart p q) (d : Document) (v : Value) :
    (¬ Displaces d p q → at? (d.set p v) q = d.at? q) ∧
      (Displaces d p q → at? (d.set p v) q = none) := by
  induction p generalizing d q with
  | nil => exact absurd h (Path.not_apart_nil q)
  | cons key rest ih =>
    obtain ⟨other, q, rfl⟩ := h.exists_cons
    by_cases hkey : key = other
    · subst hkey
      have hrest : Apart rest q := Path.apart_cons_self.mp h
      obtain ⟨segment, rest, rfl⟩ := hrest.symm.exists_cons
      obtain ⟨other, q, rfl⟩ := hrest.exists_cons
      -- Below the field the paths go on in a document: its own, or an empty one.
      have hfresh : at? (set Fields.empty (segment :: rest) v) (other :: q) = none :=
        (ih hrest Fields.empty).1 (not_displaces_empty _ _)
      rw [at?_set_cons (List.cons_ne_nil _ _)]
      cases hfield : d.get? key with
      | none =>
        refine ⟨fun _ => ?_, fun hlost => absurd hlost (not_displaces_missing hfield)⟩
        rw [at?_cons d, hfield]
        exact hfresh
      | some w =>
        cases hw : w.document? with
        | some child =>
          obtain rfl : w = .document child := by
            cases w <;> cases hw
            rfl
          rw [displaces_cons_document hfield, at?_cons_document hfield]
          exact ih hrest child
        | none =>
          have hlost : Displaces d (key :: segment :: rest) (key :: other :: q) :=
            displaces_cons_of_value hfield hw (List.cons_ne_nil _ _)
          refine ⟨fun hkept => absurd hlost hkept, fun _ => ?_⟩
          cases w with
          | document child => cases hw
          | _ => exact hfresh
    · have hkept : at? (d.set (key :: rest) v) (other :: q) = d.at? (other :: q) := by
        cases rest with
        | nil => exact at?_insert_of_ne hkey v q
        | cons segment rest =>
          rw [set_cons (List.cons_ne_nil _ _)]
          exact at?_insert_of_ne hkey _ q
      exact ⟨fun _ => hkept, fun hlost => absurd hlost (not_displaces_of_ne hkey)⟩

/-- Writing at the first path changes nothing of what the second one leads to. -/
def Spares (d : Document) (p q : Path) : Prop := Apart p q ∧ ¬ Displaces d p q

instance (d : Document) (p q : Path) : Decidable (Spares d p q) :=
  inferInstanceAs (Decidable (_ ∧ _))

section Spares

variable {d : Document} {p q other : Path}

theorem at?_set_of_spares (h : Spares d p q) (v : Value) : at? (d.set p v) q = d.at? q :=
  (at?_set_of_apart h.1 d v).1 h.2

/-- Only the document itself stands above a field. -/
theorem spares_field {key : String} (h : Apart p [key]) (d : Document) : Spares d p [key] := by
  refine ⟨h, ?_⟩
  rintro ⟨r, v, hp, -, hq, hat, hv⟩
  cases r with
  | nil =>
    cases hat
    cases hv
  | cons segment r =>
    obtain ⟨rfl, hnil⟩ := List.cons_prefix_cons.mp hq
    rw [List.prefix_nil.mp hnil] at hp
    exact h.2 hp

/-- What would spare a path still does so after other writing that spares it. -/
theorem Spares.set (h : Spares d p q) (hother : Spares d other q) (v : Value) :
    Spares (d.set p v) other q := by
  refine ⟨hother.1, ?_⟩
  rintro ⟨r, w, hr, hne, hq, hat, hw⟩
  by_cases hbelow : r <+: p
  · have hproper : r ≠ p := fun heq => h.1.1 (heq ▸ hq)
    obtain ⟨child, hchild⟩ := exists_document_of_set hbelow hproper d v
    rw [hchild] at hat
    cases hat
    cases hw
  · have hspared : Spares d p r := by
      refine ⟨h.1.beginning hq hbelow, ?_⟩
      rintro ⟨s, u, hs, hsne, hsr, hsat, hu⟩
      exact h.2 ⟨s, u, hs, hsne, hsr.trans hq, hsat, hu⟩
    rw [at?_set_of_spares hspared] at hat
    exact hother.2 ⟨r, w, hr, hne, hq, hat, hw⟩

/-- On the way to what has been written there are only documents, so no other writing takes it
away. -/
theorem spares_of_set (h : Apart other p) (d : Document) (v : Value) :
    Spares (d.set p v) other p := by
  refine ⟨h, ?_⟩
  rintro ⟨r, w, hr, -, hp, hat, hw⟩
  have hproper : r ≠ p := fun heq => h.2 (heq ▸ hr)
  obtain ⟨child, hchild⟩ := exists_document_of_set hp hproper d v
  rw [hchild] at hat
  cases hat
  cases hw

end Spares

section Writes

variable {α : Type} {write : Document → α → Document} {path : α → Path}

/-- Each step writes at its path or changes nothing. -/
def WritesAt (write : Document → α → Document) (path : α → Path) : Prop :=
  ∀ d a, write d a = d ∨ ∃ v, write d a = d.set (path a) v

/-- Steps that spare a path leave what it leads to, one after the other. -/
theorem at?_foldl_of_spares (hwrite : WritesAt write path) {steps : List α} {d : Document}
    {q : Path} (h : ∀ a ∈ steps, Spares d (path a) q) : at? (steps.foldl write d) q = d.at? q := by
  induction steps generalizing d with
  | nil => rfl
  | cons a rest ih =>
    obtain ⟨ha, hrest⟩ := List.forall_mem_cons.mp h
    rw [List.foldl_cons]
    rcases hwrite d a with hsame | ⟨v, hset⟩
    · rw [hsame]
      exact ih hrest
    · rw [hset, ih fun b hb => ha.set (hrest b hb) v, at?_set_of_spares ha]

/-- Nothing comes to a path by writing beside it. -/
theorem at?_foldl_eq_none (hwrite : WritesAt write path) {steps : List α} {d : Document}
    {q : Path} (h : ∀ a ∈ steps, Apart (path a) q) (hd : d.at? q = none) :
    at? (steps.foldl write d) q = none := by
  induction steps generalizing d with
  | nil => exact hd
  | cons a rest ih =>
    obtain ⟨ha, hrest⟩ := List.forall_mem_cons.mp h
    refine ih hrest ?_
    rcases hwrite d a with hsame | ⟨v, hset⟩
    · rw [hsame, hd]
    · rw [hset]
      by_cases hlost : Displaces d (path a) q
      · exact (at?_set_of_apart ha d v).2 hlost
      · rw [(at?_set_of_apart ha d v).1 hlost, hd]

/-- What one of the steps writes is found in the end, if all later ones write elsewhere. -/
theorem at?_foldl_of_written (hwrite : WritesAt write path) {before after : List α} {a : α}
    {d : Document} {v : Value} (hne : path a ≠ [])
    (ha : write (before.foldl write d) a = set (before.foldl write d) (path a) v)
    (hafter : ∀ b ∈ after, Apart (path b) (path a)) :
    at? ((before ++ a :: after).foldl write d) (path a) = some v := by
  rw [List.foldl_append, List.foldl_cons, ha,
    at?_foldl_of_spares hwrite fun b hb => spares_of_set (hafter b hb) _ v, at?_set hne]

end Writes

end Document

end QuerySets
