import QuerySets.Proofs.Expression
import QuerySets.Proofs.Stage.Inclusion
import QuerySets.Stage.Basic

/-!
Computed fields. A projection computes all of them from the document that comes in. Added
fields are written one after the other, and an expression sees what the entries before it have
written. So an added field has the value that a projection computes as long as no entry before
it touches what its expression reads, and the entries can change places as long as none
touches what another one reads.
-/

namespace QuerySets

open QuerySets.Path (Apart)
open Document (Spares WritesAt)

namespace Stage

open Expression (evaluate references)

/-- None of the paths is written over what the expression reads. -/
def Untouched (d : Document) (x : Value) (paths : List String) : Prop :=
  ∀ q ∈ references x, ∀ path ∈ paths, Spares d (Path.ofString path) (Path.ofString q)

instance (d : Document) (x : Value) (paths : List String) : Decidable (Untouched d x paths) :=
  inferInstanceAs (Decidable (∀ q ∈ references x, ∀ path ∈ paths, _))

/-- No entry writes over what another one reads. -/
def Independent (d : Document) (fields : Document) : Prop :=
  ∀ entry ∈ fields.entries, Untouched d entry.2 (fields.keys.filter (· ≠ entry.1))

section AddedFields

variable {d fields : Document} {before after : List (String × Value)} {path : String} {x : Value}

def addOne (out : Document) (entry : String × Value) : Document :=
  out.setPath entry.1 (evaluate out entry.2)

theorem addTo_eq (fields d : Document) : addTo fields d = fields.entries.foldl addOne d := rfl

theorem writesAt_addOne : WritesAt addOne fun entry => Path.ofString entry.1 :=
  fun _ _ => Or.inr ⟨_, rfl⟩

theorem pairwise_entries (hapart : (fields.keys.map Path.ofString).Pairwise Apart) :
    (fields.entries.map (Path.ofString ·.1)).Pairwise Apart := by
  rwa [Fields.keys, List.map_map] at hapart

/-- An entry's value is computed from what the entries before it leave. -/
theorem getPath?_addTo (h : fields.entries = before ++ (path, x) :: after)
    (hapart : (fields.keys.map Path.ofString).Pairwise Apart) :
    (addTo fields d).getPath? path = some (evaluate (addTo ⟨before⟩ d) x) := by
  rw [addTo_eq, h]
  exact Document.at?_foldl_of_written writesAt_addOne (Path.ofString_ne_nil path) rfl
    (Path.apart_of_split (pairwise_entries hapart) h).2

theorem evaluate_addTo_of_untouched (h : Untouched d x (before.map (·.1))) :
    evaluate (addTo ⟨before⟩ d) x = evaluate d x := by
  apply Expression.evaluate_eq_of_readsAlike
  intro q hq
  apply Document.at?_foldl_of_spares writesAt_addOne
  intro entry hentry
  exact h q hq entry.1 (List.mem_map_of_mem hentry)

theorem keys_before_ne (h : fields.entries = before ++ (path, x) :: after)
    (hapart : (fields.keys.map Path.ofString).Pairwise Apart) :
    ∀ key ∈ before.map (·.1), key ≠ path := by
  rw [List.forall_mem_map]
  intro entry hentry hsame
  have hself := (Path.apart_of_split (pairwise_entries hapart) h).1 entry hentry
  exact hself.1 (hsame ▸ List.prefix_rfl)

theorem Independent.untouched (h : Independent d fields) {others : List (String × Value)}
    (hperm : others.Perm fields.entries) (hsplit : others = before ++ (path, x) :: after)
    (hapart : (Fields.keys ⟨others⟩ |>.map Path.ofString).Pairwise Apart) :
    Untouched d x (before.map (·.1)) := by
  intro q hq key hkey
  have hentries : Fields.entries ⟨others⟩ = before ++ (path, x) :: after := hsplit
  have hne : key ≠ path := keys_before_ne hentries hapart key hkey
  have hentry : (path, x) ∈ fields.entries :=
    hperm.subset (hsplit ▸ List.mem_append_right before List.mem_cons_self)
  have hkeys : key ∈ fields.keys := by
    apply (hperm.map (·.1)).subset
    rw [hsplit, List.map_append]
    exact List.mem_append_left _ hkey
  exact h _ hentry q hq key (List.mem_filter.mpr ⟨hkeys, by simpa using hne⟩)

end AddedFields

/-- Each added field has the value of its expression in the document as the entries before it
have left it. This is its value in the document that comes in, and the one that a projection
computes, if these entries write over nothing that it reads. If no entry writes over what
another one reads, that is so in whatever order the entries stand. -/
theorem added_values (fields d : Document)
    (hapart : (fields.keys.map Path.ofString).Pairwise Apart) :
    (addFields fields).run [d] = [addTo fields d] ∧
    (∀ before path x after, fields.entries = before ++ (path, x) :: after →
      (addTo fields d).getPath? path = some (evaluate (addTo ⟨before⟩ d) x) ∧
      (Untouched d x (before.map (·.1)) →
        (addTo fields d).getPath? path = some (evaluate d x))) ∧
    (∀ path x (p : Projection) paths, p.mode = .keep paths →
      (paths.map (Path.ofString ·.1)).Pairwise Apart → (path, .computed x) ∈ paths →
        (p.apply d).getPath? path = some (evaluate d x)) ∧
    (Independent d fields → ∀ others, others.Perm fields.entries →
      ∀ path x, (path, x) ∈ fields.entries →
        (addTo ⟨others⟩ d).getPath? path = some (evaluate d x)) := by
  refine ⟨rfl, ?_, ?_, ?_⟩
  · intro before path x after hsplit
    refine ⟨getPath?_addTo hsplit hapart, fun huntouched => ?_⟩
    rw [getPath?_addTo hsplit hapart, evaluate_addTo_of_untouched huntouched]
  · intro path x p paths hkeep hpaths hmem
    exact Projection.getPath?_computed hkeep hpaths hmem d
  · intro hindependent others hperm path x hmem
    have hothers : (Fields.keys ⟨others⟩ |>.map Path.ofString).Pairwise Apart :=
      ((hperm.map _).map _).pairwise_iff Apart.symm |>.mpr hapart
    obtain ⟨before, after, hsplit⟩ := List.append_of_mem (hperm.symm.subset hmem)
    have hentries : Fields.entries ⟨others⟩ = before ++ (path, x) :: after := hsplit
    have huntouched := hindependent.untouched hperm hsplit hothers
    rw [getPath?_addTo hentries hothers, evaluate_addTo_of_untouched huntouched]

/-- A station with its last winds. -/
def gauge : Document :=
  ⟨[("name", .string "C14"), ("at", .document ⟨[("winds", .array [.int 3, .int 7])]⟩)]⟩

/-- Fields that read beside what they write. -/
def gaugeFields : Document :=
  ⟨[("at.low", .string "$at.winds.0"),
    ("at.high", .document ⟨[("$ifNull", .array [.string "$at.winds.2", .string "$at.winds.1"])]⟩),
    ("label", .document ⟨[("$concat", .array [.string "station ", .string "$name"])]⟩)]⟩

theorem added_values_gauge :
    (gaugeFields.keys.map Path.ofString).Pairwise Apart ∧ Independent gauge gaugeFields ∧
      (addTo ⟨gaugeFields.entries.reverse⟩ gauge).getPath? "at.high" = some (.int 7) ∧
      (addTo gaugeFields gauge).getPath? "label" = some (.string "station C14") := by
  have hapart : (gaugeFields.keys.map Path.ofString).Pairwise Apart := by decide
  have hindependent : Independent gauge gaugeFields := by
    unfold Independent
    decide
  obtain ⟨-, -, -, hvalues⟩ := added_values gaugeFields gauge hapart
  have hvalues := hvalues hindependent
  refine ⟨hapart, hindependent, ?_, ?_⟩
  · exact hvalues _ (List.reverse_perm gaugeFields.entries) "at.high" _
      (List.mem_cons_of_mem _ List.mem_cons_self)
  · exact hvalues _ (List.Perm.refl gaugeFields.entries) "label" _
      (List.mem_cons_of_mem _ (List.mem_cons_of_mem _ List.mem_cons_self))

/-- An entry that reads what the one before it writes does not see the document that came in, as
it would in a projection, or if it came first. -/
theorem later_entry_sees_earlier :
    let d : Document := ⟨[("wind", .int 0)]⟩
    let entries := [("wind", Value.int 1), ("before", .string "$wind")]
    ((entries.map (·.1)).map Path.ofString).Pairwise Apart ∧
      evaluate d (.string "$wind") = .int 0 ∧
      (addTo ⟨entries⟩ d).getPath? "before" = some (.int 1) ∧
      (addTo ⟨entries.reverse⟩ d).getPath? "before" = some (.int 0) ∧
      (Projection.apply ⟨false, .keep [("before", .computed (.string "$wind"))]⟩ d).getPath?
        "before" = some (.int 0) := by
  refine ⟨by decide, rfl, rfl, rfl, rfl⟩

end Stage

end QuerySets
