import QuerySets.Proofs.Value.Order

/-!
Equality by size. It holds of a value and itself and either way round, but where floats are
compared with rounded numbers it does not carry on from one value to the next. Among values
without floats it is the equality of values, and their order is one without any condition.
-/

namespace QuerySets.Value

/-- Every value is equal to itself by size. -/
theorem order_self (v : Value) : order v v = .eq := by
  have hswap : order v v = (order v v).swap := order_swap v v
  cases h : order v v with
  | eq => rfl
  | lt | gt => rw [h] at hswap; cases hswap

theorem looseEq_self (v : Value) : v.looseEq v = true := by
  rw [looseEq, order_self]
  rfl

/-- Equality by size holds either way round or neither way. -/
theorem looseEq_comm (v w : Value) : v.looseEq w = w.looseEq v := by
  have hswap : w.order v = (v.order w).swap := order_swap v w
  unfold looseEq
  rw [hswap]
  cases v.order w <;> rfl

section FirstSeen

/-- The place of the first of some values that is equal to a value by size, or their number if
there is none. -/
def firstSeen (values : List Value) (v : Value) : Nat := values.findIdx (·.looseEq v)

theorem firstSeen_lt_iff {values : List Value} {v : Value} :
    firstSeen values v < values.length ↔ values.any (·.looseEq v) = true := by
  rw [firstSeen, List.findIdx_lt_length, List.any_eq_true]

theorem firstSeen_lt {values : List Value} {v : Value} (h : v ∈ values) :
    firstSeen values v < values.length :=
  List.findIdx_lt_length.mpr ⟨v, h, looseEq_self v⟩

theorem exists_firstSeen {values : List Value} {v : Value}
    (h : firstSeen values v < values.length) :
    ∃ w, values[firstSeen values v]? = some w ∧ w.looseEq v = true := by
  have hlt : values.findIdx (·.looseEq v) < values.length := h
  exact ⟨_, List.getElem?_eq_getElem hlt, List.findIdx_getElem (w := hlt)⟩

theorem firstSeen_append {values more : List Value} {v : Value}
    (h : firstSeen values v < values.length) :
    firstSeen (values ++ more) v = firstSeen values v := by
  have hlt : values.findIdx (·.looseEq v) < values.length := h
  rw [firstSeen, firstSeen, List.findIdx_append, if_pos hlt]

theorem firstSeen_of_unseen {values : List Value} {v : Value}
    (h : values.any (·.looseEq v) = false) : firstSeen values v = values.length := by
  rw [firstSeen, List.findIdx_eq_length]
  intro w hw
  rw [Bool.eq_false_iff] at h ⊢
  exact fun hequal => h (List.any_eq_true.mpr ⟨w, hw, hequal⟩)

theorem firstSeen_concat {values : List Value} {v : Value}
    (h : values.any (·.looseEq v) = false) : firstSeen (values ++ [v]) v = values.length := by
  have hnone : values.findIdx (·.looseEq v) = values.length := firstSeen_of_unseen h
  have hself : [v].findIdx (·.looseEq v) = 0 := by
    rw [List.findIdx_cons, looseEq_self]
    rfl
  rw [firstSeen, List.findIdx_append, hnone, if_neg (Nat.lt_irrefl _), hself, Nat.zero_add]

end FirstSeen

section FloatFree

/-- There is no float in the value, at any depth. -/
def FloatFree (v : Value) : Prop := ∀ n ∈ v.numbers, ∃ m, n = int m

instance : ∀ n : Value, Decidable (∃ m, n = int m)
  | int m => .isTrue ⟨m, rfl⟩
  | null | bool _ | float _ | string _ | date _ | objectId _ | regex _ _ | array _ | document _ =>
    .isFalse nofun

instance (v : Value) : Decidable v.FloatFree :=
  inferInstanceAs (Decidable (∀ n ∈ v.numbers, ∃ m, n = int m))

theorem not_floatFree_float (x : Float) : ¬ (float x).FloatFree := by
  intro h
  obtain ⟨m, hm⟩ := h (float x) List.mem_cons_self
  cases hm

theorem floatFree_array_cons {v : Value} {rest : List Value} :
    (array (v :: rest)).FloatFree ↔ v.FloatFree ∧ (array rest).FloatFree :=
  List.forall_mem_append

theorem floatFree_document_cons {key : String} {v : Value} {rest : List (String × Value)} :
    (document ⟨(key, v) :: rest⟩).FloatFree ↔ v.FloatFree ∧ (document ⟨rest⟩).FloatFree :=
  List.forall_mem_append

/-- Without floats nothing is rounded, so the order is consistent. -/
theorem consistent_of_floatFree {a b c : Value} (ha : a.FloatFree) (hb : b.FloatFree)
    (hc : c.FloatFree) : Consistent (order a b) (order b c) (order a c) := by
  have hwhole : Comparable (a.numbers ++ b.numbers ++ c.numbers) :=
    Or.inr (List.forall_mem_append.mpr ⟨List.forall_mem_append.mpr ⟨ha, hb⟩, hc⟩)
  apply consistent_order hwhole
  · exact List.subset_append_of_subset_left _ (List.subset_append_left _ _)
  · exact List.subset_append_of_subset_left _ (List.subset_append_right _ _)
  · exact List.subset_append_right _ _

theorem eq_of_dateOrder_eq {s t : Time.Instant} (h : s.order t = .eq) : s = t := by
  obtain ⟨hseconds, hnanos⟩ := Ordering.then_eq_eq.mp h
  cases s
  cases t
  congr 1
  · exact Std.LawfulEqOrd.eq_of_compare hseconds
  · exact Std.LawfulEqOrd.eq_of_compare hnanos

-- By the recursion of the order itself: on the value, the items and the entries.
mutual
/-- Values without floats that compare equal are the same. -/
theorem eq_of_order_eq : ∀ v w : Value, v.FloatFree → w.FloatFree → order v w = .eq → v = w
  | .null, w, _, _, h => by cases w <;> first | rfl | cases h
  | .bool a, w, _, _, h => by
    cases w with
    | bool b => exact congrArg bool (Std.LawfulEqOrd.eq_of_compare h)
    | _ => cases h
  | .int m, w, _, hw, h => by
    cases w with
    | int n => exact congrArg int (Int64.toInt_inj.mp (Std.LawfulEqOrd.eq_of_compare h))
    | float y => exact absurd hw (not_floatFree_float y)
    | _ => cases h
  | .float x, _, hv, _, _ => absurd hv (not_floatFree_float x)
  | .string s, w, _, _, h => by
    cases w with
    | string t => exact congrArg string (Std.LawfulEqOrd.eq_of_compare h)
    | _ => cases h
  | .date s, w, _, _, h => by
    cases w with
    | date t => exact congrArg date (eq_of_dateOrder_eq h)
    | _ => cases h
  | .objectId a, w, _, _, h => by
    cases w with
    | objectId b =>
      have hbytes : a.bytes.toList = b.bytes.toList := Std.LawfulEqOrd.eq_of_compare h
      exact congrArg objectId (congrArg ObjectId.mk (Vector.toList_inj.mp hbytes))
    | _ => cases h
  | .regex p o, w, _, _, h => by
    cases w with
    | regex q u =>
      obtain ⟨hpattern, hoptions⟩ := Ordering.then_eq_eq.mp h
      rw [Std.LawfulEqOrd.eq_of_compare hpattern, Std.LawfulEqOrd.eq_of_compare hoptions]
    | _ => cases h
  | .array xs, w, hv, hw, h => by
    cases w with
    | array ys => exact congrArg array (eq_of_itemsOrder_eq xs ys hv hw h)
    | _ => cases h
  | .document ⟨xs⟩, w, hv, hw, h => by
    cases w with
    | document d =>
      exact congrArg document (congrArg Fields.mk (eq_of_entriesOrder_eq xs d.entries hv hw h))
    | _ => cases h

theorem eq_of_itemsOrder_eq : ∀ xs ys : List Value, (array xs).FloatFree → (array ys).FloatFree →
    itemsOrder xs ys = .eq → xs = ys
  | [], [], _, _, _ => rfl
  | [], _ :: _, _, _, h => nomatch h
  | _ :: _, [], _, _, h => nomatch h
  | x :: xs, y :: ys, hx, hy, h => by
    obtain ⟨hfirst, hrest⟩ := Ordering.then_eq_eq.mp h
    obtain ⟨hx, hxs⟩ := floatFree_array_cons.mp hx
    obtain ⟨hy, hys⟩ := floatFree_array_cons.mp hy
    rw [eq_of_order_eq x y hx hy hfirst, eq_of_itemsOrder_eq xs ys hxs hys hrest]

theorem eq_of_entriesOrder_eq : ∀ xs ys : List (String × Value), (document ⟨xs⟩).FloatFree →
    (document ⟨ys⟩).FloatFree → entriesOrder xs ys = .eq → xs = ys
  | [], [], _, _, _ => rfl
  | [], _ :: _, _, _, h => nomatch h
  | _ :: _, [], _, _, h => nomatch h
  | (k, x) :: xs, (l, y) :: ys, hx, hy, h => by
    obtain ⟨hfirst, hrest⟩ := Ordering.then_eq_eq.mp h
    obtain ⟨hkey, hvalue⟩ := Ordering.then_eq_eq.mp hfirst
    obtain ⟨hx, hxs⟩ := floatFree_document_cons.mp hx
    obtain ⟨hy, hys⟩ := floatFree_document_cons.mp hy
    rw [Std.LawfulEqOrd.eq_of_compare hkey, eq_of_order_eq x y hx hy hvalue,
      eq_of_entriesOrder_eq xs ys hxs hys hrest]
end

/-- Without floats, equality by size is equality. -/
theorem looseEq_iff_eq {v w : Value} (hv : v.FloatFree) (hw : w.FloatFree) :
    v.looseEq w = true ↔ v = w := by
  rw [looseEq, beq_iff_eq]
  constructor
  · exact eq_of_order_eq v w hv hw
  · rintro rfl
    exact order_self v

end FloatFree

section AtMost

/-- How values stand to each other by size, less or equal. -/
def AtMost (v w : Value) : Prop := (v.order w).isLE = true

theorem atMost_self (v : Value) : AtMost v v := by
  rw [AtMost, order_self]
  rfl

theorem atMost_trans {a b c : Value} (ha : a.FloatFree) (hb : b.FloatFree) (hc : c.FloatFree)
    (hab : AtMost a b) (hbc : AtMost b c) : AtMost a c :=
  (consistent_of_floatFree ha hb hc).isLE hab hbc

theorem atMost_of_gt {v w : Value} (h : v.order w = .gt) : AtMost w v := by
  have hswap : w.order v = (v.order w).swap := order_swap v w
  rw [AtMost, hswap, h]
  rfl

theorem atMost_of_not_gt {v w : Value} (h : v.order w ≠ .gt) : AtMost v w := by
  unfold AtMost
  cases horder : v.order w with
  | gt => exact absurd horder h
  | lt | eq => rfl

/-- Values that are at most each other are the same. -/
theorem eq_of_atMost {v w : Value} (hv : v.FloatFree) (hw : w.FloatFree) (hvw : AtMost v w)
    (hwv : AtMost w v) : v = w := by
  have hswap : w.order v = (v.order w).swap := order_swap v w
  rw [AtMost, hswap] at hwv
  apply eq_of_order_eq v w hv hw
  cases horder : v.order w with
  | eq => rfl
  | lt => rw [horder] at hwv; cases hwv
  | gt => rw [AtMost, horder] at hvw; cases hvw

end AtMost

end QuerySets.Value
