import QuerySets.Proofs.Sorting
import QuerySets.Proofs.Value.Equality
import QuerySets.Stage.Basic

/-!
Sorting documents. The keys decide one after the other, each by the values that its path
leads to, and documents that no key tells apart keep their order. Where these values have no
floats in them this is a stable sort, so that sorting twice is sorting once by the keys of
the second sort and then by those keys of the first one whose paths are new.
-/

namespace QuerySets

namespace Consistent

theorem swap {ab bc ac : Ordering} (h : Consistent ab bc ac) :
    Consistent ab.swap bc.swap ac.swap where
  left heq := congrArg Ordering.swap (h.left (Ordering.swap_eq_eq.mp heq))
  right heq := congrArg Ordering.swap (h.right (Ordering.swap_eq_eq.mp heq))
  lt hab hbc := Ordering.swap_eq_lt.mpr
    (h.gt (Ordering.swap_eq_lt.mp hab) (Ordering.swap_eq_lt.mp hbc))
  gt hab hbc := Ordering.swap_eq_gt.mpr
    (h.lt (Ordering.swap_eq_gt.mp hab) (Ordering.swap_eq_gt.mp hbc))

end Consistent

namespace Stage

open Sorting

/-- No float is sorted by. A path that leads nowhere counts as null. -/
def Sortable (keys : List SortKey) (docs : List Document) : Prop :=
  ∀ d ∈ docs, ∀ k ∈ keys, (k.value d).FloatFree

instance (keys : List SortKey) (docs : List Document) : Decidable (Sortable keys docs) :=
  inferInstanceAs (Decidable (∀ d ∈ docs, ∀ k ∈ keys, (k.value d).FloatFree))

/-- Documents with equal values under all keys. -/
def sameUnder (keys : List SortKey) (d e : Document) : Bool :=
  keys.all fun k => (k.value d).looseEq (k.value e)

/-- The first key that tells two documents apart has a smaller value in the first one, or a
greater one if it is descending. -/
def Precedes (keys : List SortKey) (d e : Document) : Prop :=
  ∃ front k back, keys = front ++ k :: back ∧ sameUnder front d e = true ∧
    (k.value d).order (k.value e) = if k.ascending then .lt else .gt

/-- Those keys that read other paths than the keys before them. -/
def lacking (keys others : List SortKey) : List SortKey :=
  others.filter fun k => !keys.any (·.path == k.path)

section Order

variable {keys others : List SortKey}

theorem SortKey.order_swap (k : SortKey) (d e : Document) : k.order e d = (k.order d e).swap := by
  have hvalue : (k.value e).order (k.value d) = ((k.value d).order (k.value e)).swap :=
    Value.order_swap _ _
  unfold SortKey.order
  rw [hvalue]
  split <;> rfl

theorem sortOrder_swap (keys : List SortKey) (d e : Document) :
    sortOrder keys e d = (sortOrder keys d e).swap := by
  induction keys with
  | nil => rfl
  | cons k rest ih => rw [sortOrder, sortOrder, Ordering.swap_then, k.order_swap d e, ih]

instance : Std.OrientedCmp (sortOrder keys) where
  eq_swap := sortOrder_swap keys _ _

theorem SortKey.order_eq_eq_iff {k : SortKey} {d e : Document} :
    k.order d e = .eq ↔ (k.value d).looseEq (k.value e) = true := by
  unfold SortKey.order Value.looseEq
  rw [beq_iff_eq]
  split
  · exact Iff.rfl
  · exact Ordering.swap_eq_eq

theorem SortKey.order_eq_lt_iff {k : SortKey} {d e : Document} :
    k.order d e = .lt ↔ (k.value d).order (k.value e) = if k.ascending then .lt else .gt := by
  unfold SortKey.order
  split
  · exact Iff.rfl
  · exact Ordering.swap_eq_lt

theorem sameUnder_cons {k : SortKey} {rest : List SortKey} {d e : Document} :
    sameUnder (k :: rest) d e = true ↔
      (k.value d).looseEq (k.value e) = true ∧ sameUnder rest d e = true := by
  rw [sameUnder, List.all_cons, Bool.and_eq_true]
  rfl

theorem sortOrder_eq_eq_iff {d e : Document} :
    sortOrder keys d e = .eq ↔ sameUnder keys d e = true := by
  induction keys with
  | nil => exact ⟨fun _ => rfl, fun _ => rfl⟩
  | cons k rest ih =>
    rw [sortOrder, Ordering.then_eq_eq, ih, SortKey.order_eq_eq_iff, sameUnder_cons]

theorem precedes_of_sortOrder {d e : Document} (h : sortOrder keys d e = .lt) :
    Precedes keys d e := by
  induction keys with
  | nil => cases h
  | cons k rest ih =>
    rcases Ordering.then_eq_lt.mp h with hfirst | ⟨heq, hrest⟩
    · exact ⟨[], k, rest, rfl, rfl, SortKey.order_eq_lt_iff.mp hfirst⟩
    · obtain ⟨front, key, back, rfl, hsame, hkey⟩ := ih hrest
      have hfront : sameUnder (k :: front) d e = true :=
        sameUnder_cons.mpr ⟨SortKey.order_eq_eq_iff.mp heq, hsame⟩
      exact ⟨k :: front, key, back, rfl, hfront, hkey⟩

theorem tied_sortOrder (d : Document) : tied (sortOrder keys) d = sameUnder keys d := by
  funext e
  rw [Bool.eq_iff_iff, tied_iff, sortOrder_eq_eq_iff]

theorem SortKey.consistent_order {k : SortKey} {a b c : Document} (ha : (k.value a).FloatFree)
    (hb : (k.value b).FloatFree) (hc : (k.value c).FloatFree) :
    Consistent (k.order a b) (k.order b c) (k.order a c) := by
  have hvalues := Value.consistent_of_floatFree ha hb hc
  unfold SortKey.order
  split
  · exact hvalues
  · exact hvalues.swap

theorem consistentOn_sortOrder (keys : List SortKey) :
    ConsistentOn (sortOrder keys) fun d => ∀ k ∈ keys, (k.value d).FloatFree := by
  intro a b c ha hb hc
  induction keys with
  | nil => exact .of_compare 0 0 0
  | cons k rest ih =>
    obtain ⟨ha, ha'⟩ := List.forall_mem_cons.mp ha
    obtain ⟨hb, hb'⟩ := List.forall_mem_cons.mp hb
    obtain ⟨hc, hc'⟩ := List.forall_mem_cons.mp hc
    exact (SortKey.consistent_order ha hb hc).andThen (ih ha' hb' hc')

theorem stablySorted_run {docs : List Document} (h : Sortable keys docs) :
    StablySorted (sortOrder keys) docs ((sort keys).run docs) :=
  stablySorted_stable (consistentOn_sortOrder keys) h

end Order

section Twice

variable {keys others : List SortKey}

theorem sortOrder_append (keys others : List SortKey) (d e : Document) :
    sortOrder (keys ++ others) d e = (sortOrder keys d e).then (sortOrder others d e) := by
  induction keys with
  | nil => rfl
  | cons k rest ih =>
    rw [List.cons_append, sortOrder, sortOrder, ih, Ordering.then_assoc]

/-- A key whose path has been read before decides nothing more. -/
theorem sortOrder_lacking {d e : Document} (h : sortOrder keys d e = .eq) :
    sortOrder (lacking keys others) d e = sortOrder others d e := by
  induction others with
  | nil => rfl
  | cons k rest ih =>
    by_cases hread : keys.any (·.path == k.path) = true
    · obtain ⟨key, hkey, hpath⟩ := List.any_eq_true.mp hread
      have hsame : (key.value d).looseEq (key.value e) = true :=
        List.all_eq_true.mp (sortOrder_eq_eq_iff.mp h) key hkey
      have hequal : k.order d e = .eq := by
        rw [SortKey.order_eq_eq_iff]
        unfold SortKey.value at hsame ⊢
        rwa [← beq_iff_eq.mp hpath]
      rw [sortOrder, hequal, lacking, List.filter_cons_of_neg (by simpa using hread)]
      exact ih
    · have hfree : lacking keys (k :: rest) = k :: lacking keys rest :=
        List.filter_cons_of_pos (by simpa using hread)
      rw [hfree, sortOrder, sortOrder, ih]

theorem sortOrder_append_lacking :
    sortOrder (keys ++ lacking keys others) =
      fun d e => (sortOrder keys d e).then (sortOrder others d e) := by
  funext d e
  rw [sortOrder_append]
  cases h : sortOrder keys d e with
  | lt | gt => rfl
  | eq => exact sortOrder_lacking h

theorem Sortable.append_lacking {docs : List Document} (h : Sortable keys docs)
    (hothers : Sortable others docs) : Sortable (keys ++ lacking keys others) docs := by
  intro d hd k hk
  rcases List.mem_append.mp hk with hk | hk
  · exact h d hd k hk
  · exact hothers d hd k (List.mem_filter.mp hk).1

theorem run_sort_twice {docs : List Document} (h : Sortable keys docs)
    (hothers : Sortable others docs) :
    (sort keys).run ((sort others).run docs) = (sort (keys ++ lacking keys others)).run docs := by
  have hearlier : StablySorted (sortOrder others) docs ((sort others).run docs) :=
    stablySorted_run hothers
  have hsortable : Sortable keys ((sort others).run docs) := fun d hd =>
    h d (hearlier.perm.subset hd)
  have htwice := hearlier.twice (stablySorted_run hsortable)
  rw [← sortOrder_append_lacking] at htwice
  exact htwice.unique (stablySorted_run (h.append_lacking hothers))

end Twice

/-- Sorting rearranges the documents so that the first key that tells two of them apart has
them in order, and it moves no document past one that no key tells from it. So documents that
are sorted again have only those earlier keys left that the later ones do not read. -/
theorem sort_stable (keys : List SortKey) (docs : List Document) (h : Sortable keys docs) :
    ((sort keys).run docs).Perm docs ∧
      ((sort keys).run docs).Pairwise
        (fun d e => Precedes keys d e ∨ sameUnder keys d e = true) ∧
      (∀ d ∈ docs, ((sort keys).run docs).filter (sameUnder keys d) =
        docs.filter (sameUnder keys d)) ∧
      ∀ others : List SortKey, Sortable others docs →
        (sort keys).run ((sort others).run docs) =
          (sort (keys ++ lacking keys others)).run docs := by
  have hsorted := stablySorted_run h
  refine ⟨hsorted.perm, ?_, ?_, fun others hothers => run_sort_twice h hothers⟩
  · refine hsorted.ordered.imp ?_
    intro d e hle
    cases horder : sortOrder keys d e with
    | lt => exact Or.inl (precedes_of_sortOrder horder)
    | eq => exact Or.inr (sortOrder_eq_eq_iff.mp horder)
    | gt => rw [horder] at hle; cases hle
  · intro d hd
    rw [← tied_sortOrder]
    exact hsorted.kept d hd

/-- A station with its state and its wind, in whole numbers. -/
def windyStation (id : Int64) (state : String) (wind : Int64) : Document :=
  ⟨[("_id", .int id), ("state", .string state), ("wind", .array [.int wind])]⟩

def windyStations : List Document :=
  [windyStation 1 "FL" 12, windyStation 2 "CA" 20, ⟨[("_id", .int 3), ("wind", .null)]⟩,
    windyStation 4 "FL" 15, windyStation 5 "CA" 20]

theorem sort_stable_stations :
    let byState : List SortKey := [⟨"state", true⟩]
    let byWind : List SortKey := [⟨"wind.0", false⟩, ⟨"state", false⟩]
    Sortable byState windyStations ∧ Sortable byWind windyStations ∧
      ((sort byState).run ((sort byWind).run windyStations)).map (·.get? "_id") =
        [some (.int 3), some (.int 2), some (.int 5), some (.int 4), some (.int 1)] ∧
      (sort byState).run ((sort byWind).run windyStations) =
        (sort [⟨"state", true⟩, ⟨"wind.0", false⟩]).run windyStations := by
  intro byState byWind
  have hstate : Sortable byState windyStations := by decide +kernel
  have hwind : Sortable byWind windyStations := by decide +kernel
  have htwice := (sort_stable byState windyStations hstate).2.2.2 byWind hwind
  refine ⟨hstate, hwind, ?_, htwice⟩
  rw [htwice]
  rfl

end Stage

end QuerySets
