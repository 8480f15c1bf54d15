import QuerySets.Json.Reread
import QuerySets.Proofs.Decimal.Whole
import QuerySets.Proofs.Json.Strings
import QuerySets.Proofs.Time.Rfc3339
import QuerySets.Value.Json

/-!
Values written as JSON text and read again. A value that was read from JSON comes back with its
fields in their order and its kinds at every depth, dates up to the millisecond and floats as
they are read of their texts. Only a date whose year does not have four digits comes back as the
document that holds its text, because that text is not read as a date.
-/

namespace QuerySets

namespace ObjectId

theorem bytesOfHex?_hexOfBytes (bytes : List UInt8) :
    bytesOfHex? (hexOfBytes bytes) = some bytes := by
  induction bytes with
  | nil => rfl
  | cons b rest ih =>
    have hlt := b.toNat_lt
    have hhigh := Json.Hex.value?_digit (b.toNat / 16) (by omega)
    have hlow := Json.Hex.value?_digit (b.toNat % 16) (by omega)
    have hbyte : 16 * (b.toNat / 16) + b.toNat % 16 = b.toNat := by omega
    change bytesOfHex? (Text.Hex.digit (b.toNat / 16) :: Text.Hex.digit (b.toNat % 16) ::
      hexOfBytes rest) = _
    simp only [bytesOfHex?, hhigh, hlow, ih, bind, Option.bind_some, hbyte, UInt8.ofNat_toNat]
    rfl

/-- An identifier is read back from its digits. -/
theorem ofHex?_toHex (id : ObjectId) : ofHex? id.toHex = some id := by
  simp only [ofHex?, toHex, String.toList_ofList, bytesOfHex?_hexOfBytes, bind, Option.bind_some]
  rw [dif_pos (by simp)]
  rfl

end ObjectId

namespace Json

mutual
/-- Numbers are those that JSON texts are read with: whole numbers have at most 64 bits and
floats are finite. -/
def Valid : Json → Prop
  | .number (.whole n) => -2 ^ 63 ≤ n ∧ n < 2 ^ 64
  | .number (.float x) => (Decimal.Dyadic.ofFloat? x).isSome = true
  | .array items => ValidItems items
  | .object ⟨members⟩ => ValidMembers members
  | _ => True

def ValidItems : List Json → Prop
  | [] => True
  | item :: rest => item.Valid ∧ ValidItems rest

def ValidMembers : List (String × Json) → Prop
  | [] => True
  | (_, item) :: rest => item.Valid ∧ ValidMembers rest
end

/-- Strings and whole numbers, of which objects that wrap something consist. -/
def Plain : Json → Prop
  | .string _ | .number (.whole _) => True
  | _ => False

end Json

namespace Value

open Time

mutual
/-- What a value that is kept as JSON comes back as. -/
def restored : Value → Value
  | date i =>
    if 0 ≤ i.date.year ∧ i.date.year ≤ 9999 then date i.truncated
    else document ⟨[("$date", string i.writeRfc3339)]⟩
  | array items => array (restoredItems items)
  | document ⟨entries⟩ => document ⟨restoredEntries entries⟩
  | v => v

def restoredItems : List Value → List Value
  | [] => []
  | v :: rest => v.restored :: restoredItems rest

def restoredEntries : List (String × Value) → List (String × Value)
  | [] => []
  | (key, v) :: rest => (key, v.restored) :: restoredEntries rest
end

mutual
/-- A value with its floats as they are read of their texts. -/
def reread : Value → Value
  | float x => float (Json.rereadFloat x)
  | array items => array (rereadItems items)
  | document ⟨entries⟩ => document ⟨rereadEntries entries⟩
  | v => v

def rereadItems : List Value → List Value
  | [] => []
  | v :: rest => v.reread :: rereadItems rest

def rereadEntries : List (String × Value) → List (String × Value)
  | [] => []
  | (key, v) :: rest => (key, v.reread) :: rereadEntries rest
end

mutual
/-- Floats are finite, dates can be shown by a clock, and no document is written as an
object that wraps something else. -/
def Regular : Value → Prop
  | float x => (Decimal.Dyadic.ofFloat? x).isSome = true
  | date i => i.Regular
  | array items => RegularItems items
  | document ⟨entries⟩ => unwrap? (toMembers entries) = none ∧ RegularEntries entries
  | _ => True

def RegularItems : List Value → Prop
  | [] => True
  | v :: rest => v.Regular ∧ RegularItems rest

def RegularEntries : List (String × Value) → Prop
  | [] => True
  | (_, v) :: rest => v.Regular ∧ RegularEntries rest
end

section Writing

theorem ofNumber_int (n : Int64) : ofNumber (.whole n.toInt) = int n := by
  rw [ofNumber, if_pos (Int64.toInt_le n), Int64.ofInt_toInt]

theorem ofJson_ofFloat {x : Float} (h : (Decimal.Dyadic.ofFloat? x).isSome = true) :
    ofJson (ofFloat x) = float x := by
  rw [ofFloat, if_pos h]
  rfl

theorem ofJson_reread_ofFloat {x : Float} (h : (Decimal.Dyadic.ofFloat? x).isSome = true) :
    ofJson (ofFloat x).reread = float (Json.rereadFloat x) := by
  rw [ofFloat, if_pos h]
  rfl

theorem unwrap?_date (text : String) :
    unwrap? [("$date", .string text)] = (Instant.readRfc3339? text).map date := rfl

theorem unwrap?_millis (n : Int) :
    unwrap? [("$date", .number (.whole n))] = (Instant.ofMillis? n).map date := rfl

theorem unwrap?_objectId (text : String) :
    unwrap? [("$oid", .string text)] = (ObjectId.ofHex? text).map objectId := rfl

/-- What is wrapped is not changed by reading its text again: there are no floats in it. -/
theorem unwrap?_rereadMembers : ∀ members : List (String × Json),
    unwrap? (Json.rereadMembers members) = unwrap? members
  | [] => rfl
  | [(_, item)] => by
    cases item with
    | number n => cases n <;> rfl
    | null | bool _ | string _ | array _ | object _ => rfl
  | (_, item) :: (_, other) :: rest => by
    cases item with
    | string _ =>
      cases other with
      | string _ => cases rest <;> rfl
      | null | bool _ | number _ | array _ | object _ => rfl
    | number n => cases n <;> rfl
    | null | bool _ | array _ | object _ => rfl

theorem ofJson_date {i : Instant} (h : i.Regular) :
    ofJson (date i).toJson = (date i).restored := by
  rw [toJson, Json.record, ofJson, unwrap?_date]
  by_cases hyear : 0 ≤ i.date.year ∧ i.date.year ≤ 9999
  · rw [Instant.read_write h hyear.1 hyear.2, restored, if_pos hyear]
    rfl
  · rw [Instant.read_write_of_far hyear, restored, if_neg hyear]
    rfl

theorem ofJson_objectId (id : ObjectId) : ofJson (objectId id).toJson = objectId id := by
  rw [toJson, Json.record, ofJson, unwrap?_objectId, ObjectId.ofHex?_toHex]
  rfl

-- By the recursion of the writing: on the value, the items and the entries.
mutual
/-- A regular value that is written as text and read again is restored. -/
theorem ofJson_reread_toJson : ∀ {v : Value}, v.Regular → ofJson v.toJson.reread = v.reread.restored
  | .null, _ => rfl
  | .bool _, _ => rfl
  | .int n, _ => ofNumber_int n
  | .float _, h => ofJson_reread_ofFloat h
  | .string _, _ => rfl
  | .date _, h => ofJson_date h
  | .objectId id, _ => ofJson_objectId id
  | .regex _ _, _ => rfl
  | .array items, h => congrArg array (ofItems_reread_toItems h)
  | .document ⟨entries⟩, h => by
    simp only [toJson, Json.reread, ofJson, unwrap?_rereadMembers, h.1,
      ofMembers_reread_toMembers h.2, reread, restored]

theorem ofItems_reread_toItems : ∀ {items : List Value}, RegularItems items →
    ofItems (Json.rereadItems (toItems items)) = restoredItems (rereadItems items)
  | [], _ => rfl
  | v :: rest, h => by
    simp only [toItems, Json.rereadItems, ofItems, rereadItems, restoredItems,
      ofJson_reread_toJson h.1, ofItems_reread_toItems h.2]

theorem ofMembers_reread_toMembers : ∀ {entries : List (String × Value)}, RegularEntries entries →
    ofMembers (Json.rereadMembers (toMembers entries)) = restoredEntries (rereadEntries entries)
  | [], _ => rfl
  | (key, v) :: rest, h => by
    simp only [toMembers, Json.rereadMembers, ofMembers, rereadEntries, restoredEntries,
      ofJson_reread_toJson h.1, ofMembers_reread_toMembers h.2]
end

end Writing

section Reading

/-- Only strings and whole numbers are unwrapped. -/
theorem plain_of_unwrap? {members : List (String × Json)} {v : Value}
    (h : unwrap? members = some v) : ∀ member ∈ members, member.2.Plain := by
  unfold unwrap? at h
  split at h
  next => simp [Json.Plain]
  next => simp [Json.Plain]
  next => simp [Json.Plain]
  next => cases h

/-- What is wrapped is a date that a clock can show, an identifier or a pattern. -/
theorem unwrap?_cases {members : List (String × Json)} {v : Value}
    (h : unwrap? members = some v) : (∃ i : Instant, i.Regular ∧ v = date i) ∨
      (∃ id, v = objectId id) ∨ ∃ pattern options, v = regex pattern options := by
  unfold unwrap? at h
  split at h
  next s =>
    split at h
    · obtain ⟨i, hi, rfl⟩ := Option.map_eq_some_iff.mp h
      exact Or.inl ⟨i, Instant.regular_of_read hi, rfl⟩
    · split at h
      · obtain ⟨id, -, rfl⟩ := Option.map_eq_some_iff.mp h
        exact Or.inr (Or.inl ⟨id, rfl⟩)
      · cases h
  next n =>
    split at h
    · obtain ⟨i, hi, rfl⟩ := Option.map_eq_some_iff.mp h
      exact Or.inl ⟨i, Instant.regular_ofMillis hi, rfl⟩
    · cases h
  next =>
    split at h
    · cases h
      exact Or.inr (Or.inr ⟨_, _, rfl⟩)
    · split at h
      · cases h
        exact Or.inr (Or.inr ⟨_, _, rfl⟩)
      · cases h
  next => cases h

theorem regular_of_unwrap? {members : List (String × Json)} {v : Value}
    (h : unwrap? members = some v) : v.Regular := by
  rcases unwrap?_cases h with ⟨i, hi, rfl⟩ | ⟨_, rfl⟩ | ⟨_, _, rfl⟩
  · exact hi
  · trivial
  · trivial

theorem toJson_of_unwrap? {members : List (String × Json)} {v : Value}
    (h : unwrap? members = some v) :
    ∃ written, v.toJson = .object written ∧ v.toJson.depth = 1 := by
  rcases unwrap?_cases h with ⟨_, _, rfl⟩ | ⟨_, rfl⟩ | ⟨_, _, rfl⟩ <;> exact ⟨_, rfl, rfl⟩

/-- An object is read as something that is written as an object. -/
theorem toJson_ofJson_object (members : Fields Json) :
    ∃ written, (ofJson (.object members)).toJson = .object written := by
  obtain ⟨members⟩ := members
  rw [ofJson]
  cases hunwrap : unwrap? members with
  | some v =>
    obtain ⟨written, hwritten, -⟩ := toJson_of_unwrap? hunwrap
    exact ⟨written, hwritten⟩
  | none => exact ⟨_, rfl⟩

/-- A number is written as it was read, or as the float that it was rounded to. -/
theorem toJson_ofNumber {n : Json.Number} (h : (Json.number n).Valid) :
    (ofNumber n).toJson = .number n ∨ ∃ x, (ofNumber n).toJson = .number (.float x) := by
  cases n with
  | float x => exact Or.inl (if_pos h)
  | whole n =>
    obtain ⟨hleast, hbound⟩ := h
    have hmax : Int64.maxValue.toInt = 2 ^ 63 - 1 := by decide
    by_cases hsmall : n ≤ Int64.maxValue.toInt
    · have hback : (Int64.ofInt n).toInt = n := Int64.toInt_ofInt_of_le hleast (by omega)
      rw [ofNumber, if_pos hsmall, toJson, hback]
      exact Or.inl rfl
    · rw [ofNumber, if_neg hsmall, toJson, ofFloat,
        if_pos (Decimal.isSome_ofFloat?_ofInt (by omega) hbound)]
      exact Or.inr ⟨_, rfl⟩

/-- Strings and whole numbers are written only where they were read. -/
theorem toJson_ofJson_of_plain {j : Json} (hvalid : j.Valid) (h : (ofJson j).toJson.Plain) :
    (ofJson j).toJson = j := by
  cases j with
  | number n =>
    rw [ofJson] at h ⊢
    rcases toJson_ofNumber hvalid with hsame | ⟨x, hfloat⟩
    · exact hsame
    · rw [hfloat] at h
      exact h.elim
  | object members =>
    obtain ⟨written, hwritten⟩ := toJson_ofJson_object members
    rw [hwritten] at h
    exact h.elim
  | null | bool _ | string _ => rfl
  | array _ => exact h.elim

theorem toMembers_ofMembers_of_plain {members : List (String × Json)}
    (hvalid : Json.ValidMembers members)
    (h : ∀ member ∈ toMembers (ofMembers members), member.2.Plain) :
    toMembers (ofMembers members) = members := by
  induction members with
  | nil => rfl
  | cons member rest ih =>
    obtain ⟨key, item⟩ := member
    have hitem : (ofJson item).toJson = item :=
      toJson_ofJson_of_plain hvalid.1 (h _ List.mem_cons_self)
    have hrest := ih hvalid.2 fun member hmember => h member (List.mem_cons_of_mem _ hmember)
    rw [ofMembers, toMembers, hitem, hrest]

/-- An object that wraps nothing is read as a document that is written as such an object. -/
theorem unwrap?_toMembers {members : List (String × Json)} (hvalid : Json.ValidMembers members)
    (h : unwrap? members = none) : unwrap? (toMembers (ofMembers members)) = none := by
  cases hunwrap : unwrap? (toMembers (ofMembers members)) with
  | none => rfl
  | some v =>
    have hsame : toMembers (ofMembers members) = members :=
      toMembers_ofMembers_of_plain hvalid (plain_of_unwrap? hunwrap)
    rw [hsame, h] at hunwrap
    cases hunwrap

theorem regular_ofNumber {n : Json.Number} (h : (Json.number n).Valid) : (ofNumber n).Regular := by
  cases n with
  | float x => exact h
  | whole n =>
    rw [ofNumber]
    split
    · trivial
    next hlarge =>
      have hmax : Int64.maxValue.toInt = 2 ^ 63 - 1 := by decide
      exact Decimal.isSome_ofFloat?_ofInt (by omega) h.2

mutual
/-- What is read from JSON is regular. -/
theorem regular_ofJson : ∀ {j : Json}, j.Valid → (ofJson j).Regular
  | .null, _ => trivial
  | .bool _, _ => trivial
  | .number _, h => regular_ofNumber h
  | .string _, _ => trivial
  | .array items, h => regularItems_ofItems h
  | .object ⟨members⟩, h => by
    rw [ofJson]
    cases hunwrap : unwrap? members with
    | some v => exact regular_of_unwrap? hunwrap
    | none => exact ⟨unwrap?_toMembers h hunwrap, regularEntries_ofMembers h⟩

theorem regularItems_ofItems : ∀ {items : List Json}, Json.ValidItems items →
    RegularItems (ofItems items)
  | [], _ => trivial
  | _ :: _, h => ⟨regular_ofJson h.1, regularItems_ofItems h.2⟩

theorem regularEntries_ofMembers : ∀ {members : List (String × Json)}, Json.ValidMembers members →
    RegularEntries (ofMembers members)
  | [], _ => trivial
  | _ :: _, h => ⟨regular_ofJson h.1, regularEntries_ofMembers h.2⟩
end

theorem depth_ofFloat (x : Float) : (ofFloat x).depth = 0 := by
  rw [ofFloat]
  split <;> rfl

theorem depth_toJson_ofNumber (n : Json.Number) : (ofNumber n).toJson.depth ≤ 0 := by
  cases n with
  | float x => exact Nat.le_of_eq (depth_ofFloat x)
  | whole n =>
    rw [ofNumber]
    split
    · exact Nat.le_refl 0
    · exact Nat.le_of_eq (depth_ofFloat _)

mutual
/-- Nothing that is read from JSON is nested deeper when it is written. -/
theorem depth_toJson_ofJson : ∀ j : Json, (ofJson j).toJson.depth ≤ j.depth
  | .null => Nat.le_refl _
  | .bool _ => Nat.le_refl _
  | .number n => depth_toJson_ofNumber n
  | .string _ => Nat.le_refl _
  | .array items => Nat.succ_le_succ (depth_toItems_ofItems items)
  | .object ⟨members⟩ => by
    rw [ofJson]
    cases hunwrap : unwrap? members with
    | some v =>
      obtain ⟨_, -, hdepth⟩ := toJson_of_unwrap? hunwrap
      rw [hdepth]
      exact Nat.le_add_left 1 _
    | none => exact Nat.succ_le_succ (depth_toMembers_ofMembers members)

theorem depth_toItems_ofItems : ∀ items : List Json,
    Json.depthItems (toItems (ofItems items)) ≤ Json.depthItems items
  | [] => Nat.le_refl _
  | item :: rest => by
    have hitem := depth_toJson_ofJson item
    have hrest := depth_toItems_ofItems rest
    simp only [ofItems, toItems, Json.depthItems]
    omega

theorem depth_toMembers_ofMembers : ∀ members : List (String × Json),
    Json.depthMembers (toMembers (ofMembers members)) ≤ Json.depthMembers members
  | [] => Nat.le_refl _
  | (_, item) :: rest => by
    have hitem := depth_toJson_ofJson item
    have hrest := depth_toMembers_ofMembers rest
    simp only [ofMembers, toMembers, Json.depthMembers]
    omega
end

end Reading

end Value

end QuerySets
