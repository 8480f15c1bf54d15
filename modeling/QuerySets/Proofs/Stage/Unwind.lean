import QuerySets.Pipeline
import QuerySets.Proofs.Document.Path
import QuerySets.Proofs.Expression
import QuerySets.Proofs.Stage.Group

/-!
Unwinding arrays. Each item takes the place of the array in its own copy of the document, and
what the document holds beside the path stays as it is, as long as the path leads there
through documents alone: an array on the way gives place to a document with the item. Grouping
the copies by their identifier again puts the items back into arrays.
-/

namespace QuerySets

namespace Stage

open Document (Displaces)
open QuerySets.Path (Apart)

section Unwind

variable {path : String} {d : Document} {items : List Value}

/-- Both paths lead through an array, by the numbers of items in it. -/
def ShareArray (d : Document) (p q : Path) : Prop :=
  ∃ r items, r <+: p ∧ r ≠ p ∧ r <+: q ∧ d.at? r = some (.array items)

theorem unwindOne_of_items (h : d.getPath? path = some (.array items)) (hne : items ≠ [])
    (keepEmpty : Bool) : unwindOne path keepEmpty d = items.map (d.setPath path) := by
  cases items with
  | nil => exact absurd rfl hne
  | cons item rest => rw [unwindOne, h]

/-- On the way to a value there are documents and arrays, so only arrays can be displaced. -/
theorem displaces_iff_shareArray {p q : Path} {v : Value} (h : d.at? p = some v) :
    Displaces d p q ↔ ShareArray d p q := by
  constructor
  · rintro ⟨r, w, hp, hne, hq, hat, hw⟩
    obtain ⟨back, rfl⟩ := hp
    obtain ⟨segment, back, rfl⟩ : ∃ segment rest, back = segment :: rest := by
      apply List.exists_cons_of_ne_nil
      rintro rfl
      exact hne (List.append_nil r).symm
    refine ⟨r, ?_⟩
    rw [Document.at?, Value.at?_append, ← Document.at?, hat] at h
    cases w with
    | array items => exact ⟨items, List.prefix_append _ _, hne, hq, hat⟩
    | document child => cases hw
    | _ => cases h
  · rintro ⟨r, items, hp, hne, hq, hat⟩
    exact ⟨r, .array items, hp, hne, hq, hat, rfl⟩

/-- One document comes of each item, in their order, with the item in the place of the array.
All paths beside it lead to what they led to, but those through an array that the path leads
through lead nowhere. -/
theorem unwound_beside (path : String) (keepEmpty : Bool) (d : Document) (items : List Value)
    (h : d.getPath? path = some (.array items)) (hne : items ≠ []) :
    List.Forall₂ (fun item out => out.getPath? path = some item ∧
        ∀ q : String, Apart (Path.ofString path) (Path.ofString q) →
          (¬ ShareArray d (Path.ofString path) (Path.ofString q) →
            out.getPath? q = d.getPath? q) ∧
          (ShareArray d (Path.ofString path) (Path.ofString q) → out.getPath? q = none))
      items ((unwind path keepEmpty).run [d]) := by
  rw [run, List.flatMap_singleton, unwindOne_of_items h hne, List.forall₂_map_right_iff,
    List.forall₂_same]
  intro item _
  refine ⟨Document.at?_set (Path.ofString_ne_nil path) d item, fun q hq => ?_⟩
  rw [← displaces_iff_shareArray h]
  exact Document.at?_set_of_apart hq d item

/-- A station with the winds of two days. -/
def windLog : Document :=
  ⟨[("at", .document ⟨[("winds", .array [.array [.int 3, .int 7], .array [.int 5]]),
    ("state", .string "FL")]⟩)]⟩

theorem unwound_beside_windLog :
    windLog.getPath? "at.winds" = some (.array [.array [.int 3, .int 7], .array [.int 5]]) ∧
      ∃ first second, (unwind "at.winds" false).run [windLog] = [first, second] ∧
        second.getPath? "at.winds" = some (.array [.int 5]) ∧
        second.getPath? "at.state" = some (.string "FL") := by
  have hwinds : windLog.getPath? "at.winds" =
      some (.array [.array [.int 3, .int 7], .array [.int 5]]) := rfl
  have hbeside : ¬ ShareArray windLog (Path.ofString "at.winds") (Path.ofString "at.state") := by
    rw [← displaces_iff_shareArray hwinds]
    decide
  have hunwound := unwound_beside "at.winds" false windLog _ hwinds (List.cons_ne_nil _ _)
  obtain ⟨first, rest, -, hsecond, hrun⟩ := List.forall₂_cons_left_iff.mp hunwound
  obtain ⟨second, rest, ⟨hitem, hothers⟩, hnil, rfl⟩ := List.forall₂_cons_left_iff.mp hsecond
  rw [List.forall₂_nil_left_iff.mp hnil] at hrun
  exact ⟨hwinds, first, second, hrun, hitem, (hothers "at.state" (by decide)).1 hbeside⟩

/-- Unwinding the first item of an array loses the others. -/
theorem other_items_lost :
    windLog.getPath? "at.winds.0" = some (.array [.int 3, .int 7]) ∧
      Apart (Path.ofString "at.winds.0") (Path.ofString "at.winds.1") ∧
      windLog.getPath? "at.winds.1" = some (.array [.int 5]) ∧
      ∀ out ∈ (unwind "at.winds.0" false).run [windLog], out.getPath? "at.winds.1" = none := by
  refine ⟨rfl, by decide, rfl, ?_⟩
  intro out hout
  have hcopies : (unwind "at.winds.0" false).run [windLog] =
      [windLog.setPath "at.winds.0" (.int 3), windLog.setPath "at.winds.0" (.int 7)] := rfl
  rw [hcopies] at hout
  rcases List.mem_pair.mp hout with rfl | rfl <;> rfl

end Unwind

section Regroup

variable {field : String}

/-- The stage that unwinds a field. -/
def unwinding (field : String) : Document := ⟨[("$unwind", .string ("$" ++ field))]⟩

/-- The stage that groups by the identifier and collects a field. -/
def regrouping (field : String) : Document :=
  ⟨[("$group", .document ⟨[("_id", .string "$_id"),
    (field, .document ⟨[("$push", .string ("$" ++ field))]⟩)]⟩)]⟩

/-- The group that the stage is compiled to. -/
def collecting (field : String) : Group :=
  ⟨.string "$_id", [⟨field, .push, .string ("$" ++ field)⟩]⟩

/-- The identifier, or null without one. -/
def idOf (d : Document) : Value := (d.get? "_id").getD .null

theorem compile_unwinding (h : field ≠ "") :
    compile (unwinding field) = .ok (unwind field false) := by
  have hpath : fieldPath "$unwind" (.string ("$" ++ field)) = .ok field := by
    rw [fieldPath, Value.string?, Option.bind_some, Text.unmark?_mark]
    simp [h]
  change (fieldPath "$unwind" (.string ("$" ++ field))).map (unwind · false) = _
  rw [hpath]
  rfl

theorem compile_collecting (h : field ≠ "_id") :
    Group.compile ⟨[("_id", .string "$_id"),
      (field, .document ⟨[("$push", .string ("$" ++ field))]⟩)]⟩ = .ok (collecting field) := by
  have hid : Fields.get? ⟨[("_id", Value.string "$_id"),
      (field, .document ⟨[("$push", .string ("$" ++ field))]⟩)]⟩ "_id" =
      some (.string "$_id") := rfl
  have hentries : [("_id", Value.string "$_id"),
      (field, .document ⟨[("$push", .string ("$" ++ field))]⟩)].filter (·.1 != "_id") =
      [(field, .document ⟨[("$push", .string ("$" ++ field))]⟩)] := by
    simp [h]
  rw [Group.compile, hid]
  dsimp only
  rw [hentries]
  rfl

theorem compile_regrouping (h : field ≠ "_id") :
    compile (regrouping field) = .ok (group (collecting field)) := by
  change (do return group (← Group.compile _)) = _
  rw [compile_collecting h]
  rfl

theorem keyOf_collecting (field : String) (d : Document) :
    (collecting field).keyOf d = idOf d := by
  have hid : d.getPath? "_id" = d.get? "_id" := Document.getPath?_of_not_mem (by decide) d
  change (d.getPath? "_id").getD .null = _
  rw [hid]
  rfl

/-- An item in the place of the array changes nothing of the identifier. -/
theorem idOf_setPath (hdot : '.' ∉ field.toList) (hid : field ≠ "_id") (d : Document)
    (item : Value) : idOf (d.setPath field item) = idOf d := by
  rw [idOf, Document.setPath, Path.ofString_of_not_mem hdot, Document.set, Fields.get?_insert,
    if_neg hid]
  rfl

/-- What is collected of the copies of a document is its array again. -/
theorem document_collecting (hmark : Text.isMarked field = false) (hid : field ≠ "_id")
    {d : Document} {items : List Value} (h : d.get? field = some (.array items))
    (hpresent : ∀ v ∈ items, v ≠ .null) :
    (collecting field).document ⟨idOf d, items.map (d.setPath field)⟩ =
      ⟨[("_id", idOf d), (field, (d.get? field).getD .null)]⟩ := by
  have hnamed : (collecting field).Named := by
    simpa [Group.Named, collecting] using Ne.symm hid
  have hitems : (items.map (d.setPath field)).map
      (fun copy => Expression.evaluate copy (.string ("$" ++ field))) = items := by
    rw [List.map_map]
    refine (List.map_congr_left fun item _ => ?_).trans (List.map_id items)
    have hset : (d.setPath field item).getPath? field = some item :=
      Document.at?_set (Path.ofString_ne_nil field) d item
    rw [Function.comp_apply, Expression.evaluate_reference hmark, hset]
    rfl
  have hkept : Accumulator.present items = items :=
    List.filter_eq_self.mpr fun v hv => by
      have hne := hpresent v hv
      cases v <;> first | rfl | exact absurd rfl hne
  have hvalue : Group.Field.value ⟨field, .push, .string ("$" ++ field)⟩
      (items.map (d.setPath field)) = .array items := by
    rw [Group.Field.value, hitems, Accumulator.accumulate, hkept]
  have hentries := Group.entries_document hnamed ⟨idOf d, items.map (d.setPath field)⟩
  rw [h, Option.getD_some, ← hvalue]
  exact congrArg Fields.mk hentries

/-- Unwinding a field and grouping the copies by their identifiers gives one document of each
one that came in, in the same order, with its identifier, or null without one, and its
array. -/
theorem regrouped (field : String) (hne : field ≠ "") (hdot : '.' ∉ field.toList)
    (hmark : Text.isMarked field = false) (hid : field ≠ "_id") (docs : List Document)
    (harrays : ∀ d ∈ docs, ∃ items, d.get? field = some (.array items) ∧ items ≠ [] ∧
      ∀ v ∈ items, v ≠ .null)
    (hids : docs.Pairwise fun d e => (idOf d).looseEq (idOf e) = false) :
    ∃ pipeline, Pipeline.compile [unwinding field, regrouping field] = .ok pipeline ∧
      pipeline.run docs =
        docs.map fun d => ⟨[("_id", idOf d), (field, (d.get? field).getD .null)]⟩ := by
  have hcompile : Pipeline.compile [unwinding field, regrouping field] =
      .ok ⟨[unwind field false, group (collecting field)]⟩ := by
    rw [Pipeline.compile, List.mapM_cons, List.mapM_cons, compile_unwinding hne,
      compile_regrouping hid]
    rfl
  refine ⟨_, hcompile, ?_⟩
  have hcopies : ∀ d ∈ docs, ∃ items, d.get? field = some (.array items) ∧
      (∀ v ∈ items, v ≠ .null) ∧ items ≠ [] ∧
        unwindOne field false d = items.map (d.setPath field) := by
    intro d hd
    obtain ⟨items, hitems, hsome, hpresent⟩ := harrays d hd
    refine ⟨items, hitems, hpresent, hsome, unwindOne_of_items ?_ hsome false⟩
    rw [Document.getPath?_of_not_mem hdot, hitems]
  have hbuckets : (collecting field).buckets (docs.flatMap (unwindOne field false)) =
      docs.map fun d => ⟨idOf d, unwindOne field false d⟩ := by
    apply Group.buckets_flatMap ?_ ?_ hids
    · intro d hd
      obtain ⟨items, -, -, hsome, hcopies⟩ := hcopies d hd
      rw [hcopies]
      exact fun hnil => hsome (List.map_eq_nil_iff.mp hnil)
    · intro d hd copy hcopy
      obtain ⟨items, -, -, -, hcopies⟩ := hcopies d hd
      rw [hcopies] at hcopy
      obtain ⟨item, -, rfl⟩ := List.mem_map.mp hcopy
      rw [keyOf_collecting, idOf_setPath hdot hid]
  change ((collecting field).buckets (docs.flatMap (unwindOne field false))).map _ = _
  rw [hbuckets, List.map_map]
  apply List.map_congr_left
  intro d hd
  obtain ⟨items, hitems, hpresent, -, hcopies⟩ := hcopies d hd
  rw [Function.comp_apply, hcopies]
  exact document_collecting hmark hid hitems hpresent

/-- Tags of stations, one of them without an identifier. -/
def tagged : List Document :=
  [⟨[("_id", .int 2), ("tags", .array [.string "buoy", .array [], .string "buoy"])]⟩,
    ⟨[("tags", .array [.int 5])]⟩, ⟨[("tags", .array [.bool false, .int 7]), ("_id", .int 1)]⟩]

theorem regrouped_tagged :
    (∀ d ∈ tagged, ∃ items, d.get? "tags" = some (.array items) ∧ items ≠ [] ∧
      ∀ v ∈ items, v ≠ .null) ∧
    (tagged.Pairwise fun d e => (idOf d).looseEq (idOf e) = false) ∧
    ∃ pipeline, Pipeline.compile [unwinding "tags", regrouping "tags"] = .ok pipeline ∧
      pipeline.run tagged =
        [⟨[("_id", .int 2), ("tags", .array [.string "buoy", .array [], .string "buoy"])]⟩,
          ⟨[("_id", .null), ("tags", .array [.int 5])]⟩,
          ⟨[("_id", .int 1), ("tags", .array [.bool false, .int 7])]⟩] := by
  have harrays : ∀ d ∈ tagged, ∃ items, d.get? "tags" = some (.array items) ∧ items ≠ [] ∧
      ∀ v ∈ items, v ≠ .null := by
    intro d hd
    simp only [tagged, List.mem_cons, List.not_mem_nil, or_false] at hd
    rcases hd with rfl | rfl | rfl <;> exact ⟨_, rfl, by simp, by simp⟩
  have hids : tagged.Pairwise fun d e => (idOf d).looseEq (idOf e) = false := by
    decide +kernel
  exact ⟨harrays, hids,
    regrouped "tags" (by decide) (by decide) rfl (by decide) tagged harrays hids⟩

end Regroup

end Stage

end QuerySets
