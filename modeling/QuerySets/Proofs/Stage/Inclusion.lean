import Mathlib.Data.List.Basic
import Mathlib.Data.List.Pairwise
import QuerySets.Proofs.Document.Path
import QuerySets.Stage.Projection

/-!
Projections that name what they keep. Paths that do not lead through each other are written beside
each other, so each of them holds in the end what it held in the document that came in, or what
was computed from that, and there is nothing at any path beside them. What is kept this way is
kept again.
-/

namespace QuerySets.Projection

open QuerySets.Path (Apart)
open Document (WritesAt)
open Expression (evaluate)

/-- What a kept path is to hold, if anything. -/
def Source.read (d : Document) (path : String) : Source → Option Value
  | .found => d.getPath? path
  | .computed x => some (evaluate d x)

/-- The paths that a specification spells, with their values. -/
def spelled (specification : Document) : List (String × Value) :=
  flattenEntries "" specification.entries

/-- The paths that a specification lists to be kept: those that it spells and does not switch off,
and the identifier if it is not spelled. -/
def listed (specification : Document) : List String :=
  let kept := ((spelled specification).filter (switch? ·.2 != some false)).map (·.1)
  if (spelled specification).any (·.1 == "_id") then kept else "_id" :: kept

variable {p : Projection} {paths : List (String × Source)} {path : String} {source : Source}
  {specification d : Document} {x : Value}

section Write

theorem write_of_read {v : Value} (h : source.read d path = some v) (out : Document) :
    write d out (path, source) = out.setPath path v := by
  cases source with
  | computed x =>
    cases h
    rfl
  | found =>
    change d.getPath? path = some v at h
    rw [write, h]

theorem write_of_unread (h : source.read d path = none) (out : Document) :
    write d out (path, source) = out := by
  cases source with
  | computed x => cases h
  | found =>
    change d.getPath? path = none at h
    rw [write, h]

theorem writesAt_write (d : Document) : WritesAt (write d) fun entry => Path.ofString entry.1 := by
  rintro out ⟨path, source⟩
  cases hread : source.read d path with
  | none => exact Or.inl (write_of_unread hread out)
  | some v => exact Or.inr ⟨v, write_of_read hread out⟩

theorem getPath?_written (hkeep : p.mode = .keep paths)
    (hapart : (paths.map (Path.ofString ·.1)).Pairwise Apart) (h : (path, source) ∈ paths)
    {v : Value} (hread : source.read d path = some v) : (p.apply d).getPath? path = some v := by
  obtain ⟨before, after, hsplit⟩ := List.append_of_mem h
  rw [apply, hkeep, hsplit]
  exact Document.at?_foldl_of_written (writesAt_write d) (Path.ofString_ne_nil path)
    (write_of_read hread _) (Path.apart_of_split hapart hsplit).2

/-- A projection computes its fields from the document that it is applied to. -/
theorem getPath?_computed (hkeep : p.mode = .keep paths)
    (hapart : (paths.map (Path.ofString ·.1)).Pairwise Apart) (h : (path, .computed x) ∈ paths)
    (d : Document) : (p.apply d).getPath? path = some (evaluate d x) :=
  getPath?_written hkeep hapart h rfl

theorem getPath?_unread (hkeep : p.mode = .keep paths)
    (hapart : (paths.map (Path.ofString ·.1)).Pairwise Apart) (h : (path, source) ∈ paths)
    (hread : source.read d path = none) (hbase : (p.base d).getPath? path = none) :
    (p.apply d).getPath? path = none := by
  obtain ⟨before, after, hsplit⟩ := List.append_of_mem h
  obtain ⟨hbefore, hafter⟩ := Path.apart_of_split hapart hsplit
  rw [apply, hkeep, hsplit]
  simp only [List.foldl_append, List.foldl_cons]
  rw [write_of_unread hread]
  apply Document.at?_foldl_eq_none (writesAt_write d) hafter
  exact Document.at?_foldl_eq_none (writesAt_write d) hbefore hbase

end Write

section Listed

/-- A specification is compiled to what it keeps or to what it leaves out, never to both. -/
theorem compile_cases (h : compile specification = .ok p) :
    p.withoutId = (spelled specification).any isIdExclusion ∧
      (p.mode = .keep ((spelled specification).filterMap kept?) ∨
        p.mode = .leaveOut ((spelled specification).filterMap leftOut?) ∧
          (spelled specification).filterMap kept? = []) := by
  simp only [compile] at h
  split at h
  next hkept hleft =>
    split at h
    next hid =>
      cases h
      exact ⟨hid.symm, Or.inr ⟨congrArg Mode.leaveOut hleft.symm, hkept⟩⟩
    next => cases h
  next hkept _ =>
    cases h
    exact ⟨rfl, Or.inr ⟨rfl, hkept⟩⟩
  next =>
    cases h
    exact ⟨rfl, Or.inl rfl⟩
  next => cases h

theorem map_fst_kept (entries : List (String × Value)) :
    (entries.filterMap kept?).map (·.1) =
      (entries.filter (switch? ·.2 != some false)).map (·.1) := by
  induction entries with
  | nil => rfl
  | cons e rest ih =>
    cases hswitch : switch? e.2 with
    | none => simp [kept?, hswitch, ih]
    | some keep => cases keep <;> simp [kept?, hswitch, ih]

theorem id_mem_listed (hcompile : compile specification = .ok p) (hid : p.withoutId = false) :
    "_id" ∈ listed specification := by
  unfold listed
  split
  next hspelled =>
    obtain ⟨⟨spelling, x⟩, hmem, hname⟩ := List.any_eq_true.mp hspelled
    obtain rfl : spelling = "_id" := by simpa using hname
    rw [(compile_cases hcompile).1, List.any_eq_false] at hid
    refine List.mem_map.mpr ⟨("_id", x), List.mem_filter.mpr ⟨hmem, ?_⟩, rfl⟩
    simpa [isIdExclusion] using hid _ hmem
  next => exact List.mem_cons_self

variable (hcompile : compile specification = .ok p) (hkeep : p.mode = .keep paths)

include hcompile hkeep

theorem paths_of_compile : paths = (spelled specification).filterMap kept? := by
  rcases (compile_cases hcompile).2 with hmode | ⟨hmode, -⟩
  · exact Mode.keep.inj (hkeep.symm.trans hmode)
  · rw [hkeep] at hmode
    cases hmode

theorem mem_paths_of_plain (h : (path, x) ∈ spelled specification)
    (hswitch : switch? x = some true) :
    (path, .found) ∈ paths := by
  rw [paths_of_compile hcompile hkeep, List.mem_filterMap]
  exact ⟨(path, x), h, by rw [kept?, hswitch]⟩

theorem mem_paths_of_computed (h : (path, x) ∈ spelled specification) (hswitch : switch? x = none) :
    (path, .computed x) ∈ paths := by
  rw [paths_of_compile hcompile hkeep, List.mem_filterMap]
  exact ⟨(path, x), h, by rw [kept?, hswitch]⟩

theorem exists_spelled (h : (path, source) ∈ paths) :
    ∃ x, (path, x) ∈ spelled specification ∧
      ((switch? x = some true ∧ source = .found) ∨ (switch? x = none ∧ source = .computed x)) := by
  rw [paths_of_compile hcompile hkeep] at h
  obtain ⟨⟨spelling, x⟩, hmem, hkept⟩ := List.mem_filterMap.mp h
  unfold kept? at hkept
  split at hkept
  next hswitch =>
    cases hkept
    exact ⟨x, hmem, Or.inl ⟨hswitch, rfl⟩⟩
  next => cases hkept
  next hswitch =>
    cases hkept
    exact ⟨x, hmem, Or.inr ⟨hswitch, rfl⟩⟩

/-- The paths that are kept are listed. -/
theorem map_fst_sublist_listed : (paths.map (·.1)).Sublist (listed specification) := by
  rw [paths_of_compile hcompile hkeep, map_fst_kept, listed]
  split
  · exact List.Sublist.refl _
  · exact List.sublist_cons_self _ _

end Listed

section Base

theorem getPath?_id (d : Document) : d.getPath? "_id" = d.get? "_id" :=
  Document.getPath?_of_not_mem (by decide) d

theorem base_of_excluded (hid : p.withoutId = true) (d : Document) : p.base d = Fields.empty := by
  unfold base
  split
  · exact if_pos hid
  · rfl

theorem base_of_missing (hmissing : d.get? "_id" = none) : p.base d = Fields.empty := by
  rw [base, hmissing]

theorem base_of_present (hid : p.withoutId = false) {id : Value} (h : d.get? "_id" = some id) :
    p.base d = Fields.empty.insert "_id" id := by
  rw [base, h]
  exact if_neg (Bool.eq_false_iff.mp hid)

/-- The base holds nothing beside the identifier. -/
theorem getPath?_base_of_apart {q : String}
    (h : p.withoutId = false → Apart (Path.ofString "_id") (Path.ofString q)) :
    (p.base d).getPath? q = none := by
  have hempty : Document.getPath? Fields.empty q = none :=
    Document.at?_empty (Path.ofString_ne_nil q)
  cases hid : p.withoutId with
  | true => rw [base_of_excluded hid, hempty]
  | false =>
    cases hfield : d.get? "_id" with
    | none => rw [base_of_missing hfield, hempty]
    | some id =>
      obtain ⟨key, rest, hq⟩ := (h hid).exists_cons
      have hne : "_id" ≠ key := by
        rintro rfl
        exact (h hid).1 (hq ▸ List.prefix_append ["_id"] rest)
      rw [base_of_present hid hfield, Document.getPath?, hq, Document.at?_insert_of_ne hne,
        Document.at?_empty (List.cons_ne_nil _ _)]

end Base

section Kept

theorem apart_of_listed (hapart : ((listed specification).map Path.ofString).Pairwise Apart)
    {q : String} (hpath : path ∈ listed specification)
    (hq : q ∈ listed specification) (hne : path ≠ q) :
    Apart (Path.ofString path) (Path.ofString q) := by
  have hsymm : Std.Symm fun path q : String => Apart (Path.ofString path) (Path.ofString q) :=
    ⟨fun _ _ h => h.symm⟩
  exact (List.pairwise_map.mp hapart).forall hpath hq hne

/-- Nothing is found beside what is listed. -/
theorem getPath?_unlisted (hcompile : compile specification = .ok p)
    (hkeep : p.mode = .keep paths) {q : String}
    (h : ∀ path ∈ listed specification, Apart (Path.ofString path) (Path.ofString q))
    (d : Document) : (p.apply d).getPath? q = none := by
  rw [apply, hkeep]
  apply Document.at?_foldl_eq_none (writesAt_write d)
  · intro entry hentry
    exact h _ ((map_fst_sublist_listed hcompile hkeep).subset (List.mem_map_of_mem hentry))
  · exact getPath?_base_of_apart fun hid => h "_id" (id_mem_listed hcompile hid)

variable (hcompile : compile specification = .ok p) (hkeep : p.mode = .keep paths)
  (hapart : ((listed specification).map Path.ofString).Pairwise Apart)

include hcompile hkeep hapart

theorem pairwise_paths : (paths.map (Path.ofString ·.1)).Pairwise Apart := by
  have hsublist := (map_fst_sublist_listed hcompile hkeep).map Path.ofString
  rw [List.map_map] at hsublist
  exact hapart.sublist hsublist

/-- A kept path holds what it is to hold. -/
theorem getPath?_kept (h : (path, source) ∈ paths) (d : Document) :
    (p.apply d).getPath? path = source.read d path := by
  have hpaths := pairwise_paths hcompile hkeep hapart
  cases hread : source.read d path with
  | some v => exact getPath?_written hkeep hpaths h hread
  | none =>
    refine getPath?_unread hkeep hpaths h hread ?_
    have hlisted : path ∈ listed specification :=
      (map_fst_sublist_listed hcompile hkeep).subset (List.mem_map_of_mem h)
    by_cases hname : path = "_id"
    · subst hname
      have hmissing : d.get? "_id" = none := by
        cases source with
        | found => exact (getPath?_id d).symm.trans hread
        | computed x => cases hread
      rw [base_of_missing hmissing]
      rfl
    · refine getPath?_base_of_apart fun hid => ?_
      exact apart_of_listed hapart (id_mem_listed hcompile hid) hlisted (Ne.symm hname)

/-- The identifier stays what it was unless it is excluded or computed. -/
theorem get?_id_kept (h : ∀ e ∈ spelled specification, e.1 = "_id" → switch? e.2 = some true)
    (d : Document) : (p.apply d).get? "_id" = d.get? "_id" := by
  rw [← getPath?_id, ← getPath?_id]
  by_cases hspelled : ∃ x, ("_id", x) ∈ spelled specification
  · obtain ⟨x, hx⟩ := hspelled
    have hplain := mem_paths_of_plain hcompile hkeep hx (h _ hx rfl)
    exact getPath?_kept hcompile hkeep hapart hplain d
  · have hid : p.withoutId = false := by
      rw [(compile_cases hcompile).1, List.any_eq_false]
      rintro ⟨spelling, x⟩ hmem hexcluded
      obtain rfl : spelling = "_id" := by
        simp only [isIdExclusion, Bool.and_eq_true, beq_iff_eq] at hexcluded
        exact hexcluded.1
      exact hspelled ⟨x, hmem⟩
    have hbeside : ∀ entry ∈ paths, Apart (Path.ofString entry.1) (Path.ofString "_id") := by
      intro entry hentry
      refine apart_of_listed hapart ?_ (id_mem_listed hcompile hid) ?_
      · exact (map_fst_sublist_listed hcompile hkeep).subset (List.mem_map_of_mem hentry)
      · intro hname
        obtain ⟨x, hx, -⟩ := exists_spelled hcompile hkeep hentry
        exact hspelled ⟨x, hname ▸ hx⟩
    rw [apply, hkeep]
    cases hfield : d.get? "_id" with
    | none =>
      rw [getPath?_id d, hfield, base_of_missing hfield]
      exact Document.at?_foldl_eq_none (writesAt_write d) hbeside rfl
    | some id =>
      rw [getPath?_id d, hfield, base_of_present hid hfield]
      exact Document.at?_foldl_of_spares (writesAt_write d) fun entry hentry =>
        Document.spares_field (hbeside entry hentry) _

/-- Where nothing is computed, what has been kept is kept again. -/
theorem apply_apply (h : ∀ e ∈ spelled specification, switch? e.2 ≠ none) (d : Document) :
    p.apply (p.apply d) = p.apply d := by
  have hbase : p.base (p.apply d) = p.base d := by
    cases hid : p.withoutId with
    | true => rw [base_of_excluded hid, base_of_excluded hid]
    | false =>
      have hsame : (p.apply d).get? "_id" = d.get? "_id" := by
        refine get?_id_kept hcompile hkeep hapart (fun e he hname => ?_) d
        rw [(compile_cases hcompile).1, List.any_eq_false] at hid
        have hkept := hid e he
        cases hswitch : switch? e.2 with
        | none => exact absurd hswitch (h e he)
        | some keep =>
          cases keep with
          | true => rfl
          | false => simp [isIdExclusion, hname, hswitch] at hkept
      rw [base, base, hsame]
  -- What is written depends on what is read alone, and at a kept path that is the same again.
  have hwrite : ∀ out, ∀ entry ∈ paths, write (p.apply d) out entry = write d out entry := by
    rintro out ⟨path, source⟩ hentry
    obtain ⟨x, hx, ⟨-, rfl⟩ | ⟨hswitch, -⟩⟩ := exists_spelled hcompile hkeep hentry
    · have hsame : (p.apply d).getPath? path = d.getPath? path :=
        getPath?_kept hcompile hkeep hapart hentry d
      rw [write, write, hsame]
    · exact absurd hswitch (h _ hx)
  conv_lhs => rw [apply, hkeep]
  conv_rhs => rw [apply, hkeep]
  simp only [hbase]
  exact List.foldl_ext _ _ _ hwrite

end Kept

/-- A specification that says what to keep, with paths of which none leads through another: each
path that is switched on holds what it held, each other path that is spelled holds the value of
its expression in the document that came in, the identifier stays unless it is switched off or
computed, and nothing is found beside what is listed. If nothing is computed, a second projection
changes nothing. -/
theorem included (specification : Document) (p : Projection) (paths : List (String × Source))
    (hcompile : compile specification = .ok p) (hkeep : p.mode = .keep paths)
    (hapart : ((listed specification).map Path.ofString).Pairwise Apart) (d : Document) :
    (∀ path x, (path, x) ∈ spelled specification →
      (switch? x = some true → (p.apply d).getPath? path = d.getPath? path) ∧
      (switch? x = none → (p.apply d).getPath? path = some (evaluate d x))) ∧
    ((∀ e ∈ spelled specification, e.1 = "_id" → switch? e.2 = some true) →
      (p.apply d).get? "_id" = d.get? "_id") ∧
    (∀ q, (∀ path ∈ listed specification, Apart (Path.ofString path) (Path.ofString q)) →
      (p.apply d).getPath? q = none) ∧
    ((∀ e ∈ spelled specification, switch? e.2 ≠ none) →
      p.apply (p.apply d) = p.apply d) := by
  refine ⟨fun path x hx => ⟨fun hswitch => ?_, fun hswitch => ?_⟩, fun h => ?_, fun q h => ?_,
    fun h => ?_⟩
  · exact getPath?_kept hcompile hkeep hapart (mem_paths_of_plain hcompile hkeep hx hswitch) d
  · exact getPath?_kept hcompile hkeep hapart (mem_paths_of_computed hcompile hkeep hx hswitch) d
  · exact get?_id_kept hcompile hkeep hapart h d
  · exact getPath?_unlisted hcompile hkeep h d
  · exact apply_apply hcompile hkeep hapart h d

/-- A station whose winds are kept in a list. -/
def harbour : Document :=
  ⟨[("name", .string "C14"), ("at", .document ⟨[("state", .string "FL"), ("wind", .int 3)]⟩),
    ("gusts", .array [.int 5, .int 9]), ("_id", .int 7)]⟩

def stationLabel : Value :=
  .document ⟨[("$concat", .array [.string "station ", .string "$name"])]⟩

/-- The state, the second of the gusts and a label. -/
def harbourReport : Document :=
  ⟨[("at", .document ⟨[("state", .bool true)]⟩), ("gusts.1", .int 1), ("label", stationLabel)]⟩

theorem included_harbour :
    ((listed harbourReport).map Path.ofString).Pairwise Apart ∧
      ∃ p, compile harbourReport = .ok p ∧
        (p.apply harbour).getPath? "gusts.1" = some (.int 9) ∧
        (p.apply harbour).getPath? "label" = some (.string "station C14") ∧
        (p.apply harbour).get? "_id" = some (.int 7) ∧
        (p.apply harbour).getPath? "at.wind" = none := by
  have hspelled : spelled harbourReport =
      [("at.state", .bool true), ("gusts.1", .int 1), ("label", stationLabel)] := rfl
  have hapart : ((listed harbourReport).map Path.ofString).Pairwise Apart := by decide
  obtain ⟨p, paths, hcompile, hkeep⟩ : ∃ p paths, compile harbourReport = .ok p ∧
      p.mode = .keep paths := ⟨_, _, rfl, rfl⟩
  obtain ⟨hvalues, hid, hbeside, -⟩ :=
    included harbourReport p paths hcompile hkeep hapart harbour
  refine ⟨hapart, p, hcompile, ?_, ?_, ?_, hbeside "at.wind" (by decide)⟩
  · exact (hvalues "gusts.1" (.int 1) (by simp [hspelled])).1 rfl
  · exact (hvalues "label" stationLabel (by simp [hspelled])).2 rfl
  · refine hid fun e he hname => ?_
    simp only [hspelled, List.mem_cons, List.not_mem_nil, or_false] at he
    rcases he with rfl | rfl | rfl <;> exact absurd hname (by decide)

end QuerySets.Projection
