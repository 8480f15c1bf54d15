import QuerySets.Proofs.Value.Nodes
import QuerySets.Proofs.Value.Restored

/-!
Which values come back from JSON as they were. A float has to be finite and a date has to be
read from its own text. Of the documents only those are lost that are written as an object
which is read as something wrapped, at whatever depth they lie.
-/

namespace QuerySets

open Time

namespace Text.Hex

/-- A digit of either case. -/
def IsDigit (c : Char) : Prop :=
  c.isDigit ∨ ('a' ≤ c ∧ c ≤ 'f') ∨ ('A' ≤ c ∧ c ≤ 'F')

theorem isSome_value?_iff {c : Char} : (value? c).isSome ↔ IsDigit c := by
  unfold value? IsDigit
  split
  · simp_all
  · split
    · simp_all
    · split <;> simp_all

end Text.Hex

namespace ObjectId

open Text (Hex.IsDigit)

/-- Bytes are read from twice as many digits, and from nothing else. -/
theorem exists_bytesOfHex?_iff {n : Nat} {cs : List Char} :
    (∃ bytes, bytesOfHex? cs = some bytes ∧ bytes.length = n) ↔
      cs.length = 2 * n ∧ ∀ c ∈ cs, Hex.IsDigit c := by
  induction n generalizing cs with
  | zero =>
    match cs with
    | [] => simp [bytesOfHex?]
    | [_] => simp [bytesOfHex?]
    | high :: low :: rest =>
      simp only [bytesOfHex?, bind, Option.bind_eq_some_iff]
      constructor
      · rintro ⟨bytes, ⟨h, -, l, -, others, -, hbytes⟩, hlength⟩
        cases hbytes
        simp at hlength
      · simp
  | succ n ih =>
    match cs with
    | [] => simp [bytesOfHex?]
    | [_] =>
      simp only [bytesOfHex?, List.length_singleton]
      constructor
      · rintro ⟨_, h, -⟩
        cases h
      · rintro ⟨h, -⟩
        omega
    | high :: low :: rest =>
      have hrest := @ih rest
      simp only [bytesOfHex?, bind, Option.bind_eq_some_iff, List.forall_mem_cons,
        List.length_cons]
      constructor
      · rintro ⟨bytes, ⟨h, hhigh, l, hlow, others, hothers, hbytes⟩, hlength⟩
        cases hbytes
        obtain ⟨hlen, hdigits⟩ := hrest.mp ⟨others, hothers, by simpa using hlength⟩
        refine ⟨by omega, ?_, ?_, hdigits⟩
        · exact Text.Hex.isSome_value?_iff.mp (by rw [hhigh]; rfl)
        · exact Text.Hex.isSome_value?_iff.mp (by rw [hlow]; rfl)
      · rintro ⟨hlength, hhigh, hlow, hdigits⟩
        obtain ⟨others, hothers, hlen⟩ := hrest.mpr ⟨by omega, hdigits⟩
        obtain ⟨h, hhigh⟩ := Option.isSome_iff_exists.mp (Text.Hex.isSome_value?_iff.mpr hhigh)
        obtain ⟨l, hlow⟩ := Option.isSome_iff_exists.mp (Text.Hex.isSome_value?_iff.mpr hlow)
        exact ⟨_, ⟨h, hhigh, l, hlow, others, hothers, rfl⟩, by simpa using hlen⟩

/-- Identifiers are read from twenty-four digits, and from nothing else. -/
theorem isSome_ofHex?_iff {text : String} :
    (ofHex? text).isSome ↔ text.toList.length = 24 ∧ ∀ c ∈ text.toList, Hex.IsDigit c := by
  have hbytes := @exists_bytesOfHex?_iff 12 text.toList
  rw [← hbytes, ofHex?]
  cases hread : bytesOfHex? text.toList with
  | none => simp
  | some bytes =>
    by_cases hlength : bytes.length = 12
    · simp [hlength]
    · simp [hlength]

end ObjectId

/-- Milliseconds make an instant if its day can be stored. -/
theorem Time.Instant.isSome_ofMillis?_iff {millis : Int} :
    (ofMillis? millis).isSome ↔ -8334601228800000 ≤ millis ∧ millis ≤ 8210266876799999 := by
  have hleast : Date.leastDays = -96465292 := by decide
  have hgreatest : Date.greatestDays = 95026236 := by decide
  have hrange : ∀ i : Instant, i.InRange ↔
      -96465292 ≤ i.seconds / 86400 ∧ i.seconds / 86400 ≤ 95026236 := by
    intro i
    rw [← hleast, ← hgreatest]
    rfl
  have hsome : (ofMillis? millis).isSome ↔
      (Instant.mk (millis / 1000) ((millis % 1000).toNat * 1000000)).InRange := by
    simp only [ofMillis?]
    split <;> simp_all
  rw [hsome, hrange]
  dsimp only
  omega

namespace Value

/-- A document that JSON cannot tell from something wrapped. -/
inductive LooksWrapped : Document → Prop
  | date {text : String} (h : (Instant.readRfc3339? text).isSome) :
      LooksWrapped ⟨[("$date", string text)]⟩
  | millis {n : Int64} (h : -8334601228800000 ≤ n.toInt ∧ n.toInt ≤ 8210266876799999) :
      LooksWrapped ⟨[("$date", int n)]⟩
  | objectId {text : String} (length : text.toList.length = 24)
      (digits : ∀ c ∈ text.toList, Text.Hex.IsDigit c) : LooksWrapped ⟨[("$oid", string text)]⟩
  | regex (pattern options : String) :
      LooksWrapped ⟨[("$regex", string pattern), ("$options", string options)]⟩
  | regexReversed (pattern options : String) :
      LooksWrapped ⟨[("$options", string options), ("$regex", string pattern)]⟩

theorem toMembers_eq_map (entries : List (String × Value)) :
    toMembers entries = entries.map fun e => (e.1, e.2.toJson) := by
  induction entries with
  | nil => rfl
  | cons e rest ih => rw [toMembers, ih, List.map_cons]

/-- Only strings are written as strings. -/
theorem eq_string_of_toJson {v : Value} {s : String} (h : v.toJson = .string s) :
    v = string s := by
  cases v with
  | string t =>
    cases h
    rfl
  | float x =>
    simp only [toJson, ofFloat] at h
    split at h <;> cases h
  | _ => cases h

/-- Only whole numbers are written as whole numbers. -/
theorem eq_int_of_toJson {v : Value} {n : Int} (h : v.toJson = .number (.whole n)) :
    ∃ m : Int64, v = int m ∧ m.toInt = n := by
  cases v with
  | int m =>
    cases h
    exact ⟨m, rfl, rfl⟩
  | float x =>
    simp only [toJson, ofFloat] at h
    split at h <;> cases h
  | _ => cases h

/-- A document is written as an object that wraps something exactly if it looks wrapped. -/
theorem isSome_unwrap?_iff {entries : List (String × Value)} :
    (unwrap? (toMembers entries)).isSome ↔ LooksWrapped ⟨entries⟩ := by
  constructor
  · intro hsome
    obtain ⟨w, h⟩ := Option.isSome_iff_exists.mp hsome
    rw [toMembers_eq_map] at h
    -- One case for each shape of members that is unwrapped.
    unfold unwrap? at h
    split at h
    next key s hmembers =>
      obtain ⟨⟨_, v⟩, rfl, hentry⟩ := List.map_eq_singleton_iff.mp hmembers
      obtain ⟨rfl, hv⟩ := Prod.mk.inj hentry
      obtain rfl := eq_string_of_toJson hv
      split at h
      next hkey =>
        subst hkey
        rw [toMembers_eq_map, hmembers, unwrap?_date, Option.isSome_map] at hsome
        exact .date hsome
      next =>
        split at h
        next hkey =>
          subst hkey
          rw [toMembers_eq_map, hmembers, unwrap?_objectId, Option.isSome_map] at hsome
          obtain ⟨hlength, hdigits⟩ := ObjectId.isSome_ofHex?_iff.mp hsome
          exact .objectId hlength hdigits
        next => cases h
    next key n hmembers =>
      obtain ⟨⟨_, v⟩, rfl, hentry⟩ := List.map_eq_singleton_iff.mp hmembers
      obtain ⟨rfl, hv⟩ := Prod.mk.inj hentry
      obtain ⟨m, rfl, rfl⟩ := eq_int_of_toJson hv
      split at h
      next hkey =>
        subst hkey
        rw [toMembers_eq_map, hmembers, unwrap?_millis, Option.isSome_map] at hsome
        exact .millis (Instant.isSome_ofMillis?_iff.mp hsome)
      next => cases h
    next key s other t hmembers =>
      obtain ⟨⟨_, v⟩, rest, rfl, hentry, hrest⟩ := List.map_eq_cons_iff.mp hmembers
      obtain ⟨⟨_, w⟩, rfl, hlast⟩ := List.map_eq_singleton_iff.mp hrest
      obtain ⟨rfl, hv⟩ := Prod.mk.inj hentry
      obtain ⟨rfl, hw⟩ := Prod.mk.inj hlast
      obtain rfl := eq_string_of_toJson hv
      obtain rfl := eq_string_of_toJson hw
      split at h
      next hkeys =>
        obtain ⟨rfl, rfl⟩ := hkeys
        exact .regex s t
      next =>
        split at h
        next hkeys =>
          obtain ⟨rfl, rfl⟩ := hkeys
          exact .regexReversed t s
        next => cases h
    next => cases h
  · intro h
    cases h with
    | @date text hread =>
      rwa [toMembers, toMembers, toJson, unwrap?_date, Option.isSome_map]
    | @millis n hrange =>
      rw [toMembers, toMembers, toJson, unwrap?_millis, Option.isSome_map]
      exact Instant.isSome_ofMillis?_iff.mpr hrange
    | @objectId text hlength hdigits =>
      rw [toMembers, toMembers, toJson, unwrap?_objectId, Option.isSome_map]
      exact ObjectId.isSome_ofHex?_iff.mpr ⟨hlength, hdigits⟩
    | regex pattern options => rfl
    | regexReversed pattern options => rfl

/-- A scalar that JSON keeps: a finite float, a date that is read from its own text, or
anything of another kind. -/
def IsKept : Value → Prop
  | float x => (Decimal.Dyadic.ofFloat? x).isSome
  | date i => Instant.readRfc3339? i.writeRfc3339 = some i
  | _ => True

theorem ofJson_toJson_float_iff (x : Float) :
    ofJson (float x).toJson = float x ↔ (float x).IsKept := by
  rw [toJson]
  by_cases hfinite : (Decimal.Dyadic.ofFloat? x).isSome = true
  · exact iff_of_true (ofJson_ofFloat hfinite) hfinite
  · rw [ofFloat, if_neg hfinite]
    exact iff_of_false (fun h => by cases h) hfinite

theorem ofJson_toJson_date_iff (i : Instant) :
    ofJson (date i).toJson = date i ↔ (date i).IsKept := by
  rw [toJson, Json.record, ofJson, unwrap?_date, IsKept]
  cases Instant.readRfc3339? i.writeRfc3339 with
  | none => simp
  | some read => simp

theorem ofJson_toJson_scalar_iff {v : Value} (h : v.IsScalar) :
    ofJson v.toJson = v ↔ v.IsKept := by
  cases v with
  | float x => exact ofJson_toJson_float_iff x
  | date i => exact ofJson_toJson_date_iff i
  | int n => exact iff_of_true (ofNumber_int n) trivial
  | objectId id => exact iff_of_true (ofJson_objectId id) trivial
  | array _ | document _ => exact h.elim
  | _ => exact iff_of_true rfl trivial

theorem ofItems_toItems_eq_iff {items : List Value} :
    ofItems (toItems items) = items ↔ ∀ v ∈ items, ofJson v.toJson = v := by
  induction items with
  | nil => simp [toItems, ofItems]
  | cons v rest ih => rw [toItems, ofItems, List.cons.injEq, List.forall_mem_cons, ih]

theorem ofMembers_toMembers_eq_iff {entries : List (String × Value)} :
    ofMembers (toMembers entries) = entries ↔ ∀ e ∈ entries, ofJson e.2.toJson = e.2 := by
  induction entries with
  | nil => simp [toMembers, ofMembers]
  | cons e rest ih =>
    obtain ⟨key, v⟩ := e
    simp only [toMembers, ofMembers, List.cons.injEq, Prod.mk.injEq, true_and,
      List.forall_mem_cons, ih]

/-- What is unwrapped is no document. -/
theorem ofJson_toJson_document_iff {d : Document} :
    ofJson (document d).toJson = document d ↔
      ¬ LooksWrapped d ∧ ∀ e ∈ d.entries, ofJson e.2.toJson = e.2 := by
  obtain ⟨entries⟩ := d
  rw [toJson, ofJson, ← isSome_unwrap?_iff, ← ofMembers_toMembers_eq_iff]
  cases hunwrap : unwrap? (toMembers entries) with
  | some w =>
    have hne : w ≠ document ⟨entries⟩ := by
      rcases unwrap?_cases hunwrap with ⟨_, _, rfl⟩ | ⟨_, rfl⟩ | ⟨_, _, rfl⟩ <;> simp
    simp [hne]
  | none => simp

/-- All scalars in a value are kept, and none of its documents looks wrapped. -/
structure Preserved (v : Value) : Prop where
  scalars : ∀ x, v.HasScalar x → x.IsKept
  documents : ∀ node, v.HasNode node → ¬ LooksWrapped node

theorem preserved_scalar_iff {v : Value} (h : v.IsScalar) : v.Preserved ↔ v.IsKept := by
  constructor
  · intro hv
    exact hv.scalars v (.here h)
  · intro hkept
    refine ⟨?_, fun node hnode => absurd hnode (not_hasNode_scalar h node)⟩
    intro x hx
    rwa [(hasScalar_iff_of_isScalar h).mp hx]

theorem preserved_array_iff {items : List Value} :
    (array items).Preserved ↔ ∀ v ∈ items, v.Preserved := by
  constructor
  · intro h v hv
    constructor
    · exact fun x hx => h.scalars x (.item hv hx)
    · exact fun node hnode => h.documents node (.item hv hnode)
  · intro h
    constructor
    · intro x hx
      obtain ⟨v, hv, hx⟩ := hasScalar_array.mp hx
      exact (h v hv).scalars x hx
    · intro node hnode
      obtain ⟨v, hv, hnode⟩ := hasNode_array.mp hnode
      exact (h v hv).documents node hnode

theorem preserved_document_iff {d : Document} :
    (document d).Preserved ↔ ¬ LooksWrapped d ∧ ∀ e ∈ d.entries, e.2.Preserved := by
  constructor
  · intro h
    refine ⟨h.documents d (.here d), fun e he => ⟨?_, ?_⟩⟩
    · exact fun x hx => h.scalars x (.field he hx)
    · exact fun node hnode => h.documents node (.field he hnode)
  · rintro ⟨hd, h⟩
    constructor
    · intro x hx
      obtain ⟨e, he, hx⟩ := hasScalar_document.mp hx
      exact (h e he).scalars x hx
    · intro node hnode
      rcases hasNode_document.mp hnode with rfl | ⟨e, he, hnode⟩
      · exact hd
      · exact (h e he).documents node hnode

theorem ofJson_toJson_eq_iff_preserved (v : Value) : ofJson v.toJson = v ↔ v.Preserved := by
  induction v using Value.induction with
  | scalar v h => rw [ofJson_toJson_scalar_iff h, preserved_scalar_iff h]
  | array items ih =>
    have hitems : ofJson (array items).toJson = array items ↔
        ofItems (toItems items) = items := by
      rw [toJson, ofJson, array.injEq]
    rw [hitems, ofItems_toItems_eq_iff, preserved_array_iff]
    exact forall₂_congr ih
  | document d ih =>
    rw [ofJson_toJson_document_iff, preserved_document_iff]
    exact and_congr_right fun _ => forall₂_congr ih

/-- A value that is written as JSON and read again is the same value, of the same kinds and
with its fields in their order at every depth, exactly if each float in it is finite, each date
in it is read from its own text, and no document in it, however deep, looks like something
wrapped. -/
theorem ofJson_toJson_eq_iff (v : Value) :
    ofJson v.toJson = v ↔
      (∀ x, v.HasScalar (float x) → (Decimal.Dyadic.ofFloat? x).isSome) ∧
      (∀ i, v.HasScalar (date i) → Instant.readRfc3339? i.writeRfc3339 = some i) ∧
      ∀ node, v.HasNode node → ¬ LooksWrapped node := by
  rw [ofJson_toJson_eq_iff_preserved]
  constructor
  · intro h
    exact ⟨fun x hx => h.scalars _ hx, fun i hi => h.scalars _ hi, h.documents⟩
  · rintro ⟨hfloats, hdates, hnodes⟩
    refine ⟨fun x hx => ?_, hnodes⟩
    cases x with
    | float x => exact hfloats x hx
    | date i => exact hdates i hx
    | _ => trivial

/-- Too few digits are no identifier, and the document around them is preserved. -/
example : ofJson (toJson (array [document ⟨[("$oid", string "0123")]⟩])) =
    array [document ⟨[("$oid", string "0123")]⟩] := rfl

end Value

end QuerySets
