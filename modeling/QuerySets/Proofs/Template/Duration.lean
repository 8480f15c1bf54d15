import QuerySets.Proofs.Decimal.Nonnegative
import QuerySets.Proofs.Text.Split
import QuerySets.Template.Rendering

/-!
The durations that can be written. There may be a sign first; then follow quantities, which are
decimals with their units, one after the other, or a single zero. No unit has a digit or a point
in it, so a text can be cut into quantities in one way only, and every cut leaves less of it. What
is written is refused only where the sum of its quantities is beyond the greatest duration.
-/

namespace QuerySets.Duration

open Decimal

/-- Digits, at least one, with at most one point before, among or after them. -/
structure IsDecimal (cs : List Char) : Prop where
  amount : ∀ c ∈ cs, isAmount c = true
  points : cs.count '.' ≤ 1
  digit : ∃ c ∈ cs, c.isDigit = true

def units : List (List Char) :=
  [['n', 's'], ['u', 's'], ['\u00b5', 's'], ['\u03bc', 's'], ['m', 's'], ['s'], ['m'], ['h']]

variable {cs : List Char} {p : List Char × List Char} {x : Float} {n : Nat}

theorem isAmount_iff (c : Char) : isAmount c = true ↔ c.isDigit = true ∨ c = '.' := by
  simp [isAmount]

theorem isSome_digits? :
    (Text.Numeral.digits? cs).isSome ↔ cs ≠ [] ∧ ∀ c ∈ cs, c.isDigit = true := by
  cases cs <;> simp [Text.Numeral.digits?]

/-- The digits of a decimal are read without the point. -/
theorem isSome_plain?_eq :
    (plain? cs).isSome = (Text.Numeral.digits? (cs.erase '.')).isSome := by
  simp only [plain?, scaled?, Option.isSome_map]
  by_cases hpoint : '.' ∈ cs
  · obtain ⟨whole, fraction, rfl, hwhole⟩ := List.eq_append_cons_of_mem hpoint
    rw [Text.cutFirst?_append hwhole, List.erase_append_right _ hwhole, List.erase_cons_head]
    rfl
  · rw [Text.cutFirst?_of_not_mem hpoint, List.erase_of_not_mem hpoint]
    simp

theorem isSome_plain?_iff : (plain? cs).isSome ↔ IsDecimal cs := by
  rw [isSome_plain?_eq, isSome_digits?]
  have hcount : (cs.erase '.').count '.' = cs.count '.' - 1 := List.count_erase_self
  constructor
  · rintro ⟨hne, hdigits⟩
    refine ⟨?amount, ?points, ?digit⟩
    case amount =>
      intro c hc
      rw [isAmount_iff]
      by_cases hpoint : c = '.'
      · exact Or.inr hpoint
      · exact Or.inl (hdigits c ((List.mem_erase_of_ne hpoint).mpr hc))
    case points =>
      have hnone : '.' ∉ cs.erase '.' := fun h => absurd (hdigits '.' h) (by decide)
      rw [List.count_eq_zero_of_not_mem hnone] at hcount
      omega
    case digit =>
      obtain ⟨c, hc⟩ := List.exists_mem_of_ne_nil _ hne
      exact ⟨c, List.mem_of_mem_erase hc, hdigits c hc⟩
  · intro h
    constructor
    · obtain ⟨c, hc, hdigit⟩ := h.digit
      have hpoint : c ≠ '.' := by
        rintro rfl
        exact absurd hdigit (by decide)
      exact List.ne_nil_of_mem ((List.mem_erase_of_ne hpoint).mpr hc)
    · intro c hc
      rcases (isAmount_iff c).mp (h.amount c (List.mem_of_mem_erase hc)) with hdigit | rfl
      · exact hdigit
      · have hpos := List.count_pos_iff.mpr hc
        have hpoints := h.points
        omega

instance (cs : List Char) : Decidable (IsDecimal cs) := decidable_of_iff _ isSome_plain?_iff

theorem nonnegative_of_plain? (h : plain? cs = some x) : Nonnegative x := by
  simp only [plain?, scaled?, Option.map_eq_some_iff] at h
  obtain ⟨n, -, rfl⟩ := h
  exact nonnegative_nearest _ _

theorem isSome_unit?_iff : (unit? cs).isSome ↔ cs ∈ units := by
  constructor
  · intro h
    simp only [unit?] at h
    split at h <;> first | decide | cases h
  · intro h
    simp only [units, List.mem_cons, List.not_mem_nil, or_false] at h
    rcases h with rfl | rfl | rfl | rfl | rfl | rfl | rfl | rfl <;> rfl

theorem isPositive_of_unit? (h : unit? cs = some n) : isPositive (Float.ofNat n) := by
  simp only [unit?] at h
  split at h <;> cases h <;> decide +kernel

theorem isSome_part?_iff : (part? p).isSome ↔ IsDecimal p.1 ∧ p.2 ∈ units := by
  rw [← isSome_plain?_iff, ← isSome_unit?_iff, part?]
  cases plain? p.1 <;> cases unit? p.2 <;> simp

theorem nonnegative_of_part? (h : part? p = some x) : Nonnegative x := by
  simp only [part?, Option.bind_eq_bind, Option.bind_eq_some_iff] at h
  obtain ⟨amount, hamount, n, hunit, hx⟩ := h
  cases hx
  exact (nonnegative_of_plain? hamount).mul (isPositive_of_unit? hunit)

/-- A decimal with its unit. -/
structure Quantity where
  amount : List Char
  unit : List Char
  isDecimal : IsDecimal amount
  isUnit : unit ∈ units

namespace Quantity

variable (q : Quantity)

def text : List Char := q.amount ++ q.unit

def part : List Char × List Char := (q.amount, q.unit)

theorem isSome_part? : (part? q.part).isSome := isSome_part?_iff.mpr ⟨q.isDecimal, q.isUnit⟩

def nanos : Float := (part? q.part).get q.isSome_part?

theorem part?_part : part? q.part = some q.nanos := (Option.some_get _).symm

theorem nonnegative_nanos : Nonnegative q.nanos := nonnegative_of_part? q.part?_part

theorem amount_of_mem {c : Char} (h : c ∈ q.amount) : isAmount c = true := q.isDecimal.amount c h

theorem not_amount_of_mem {c : Char} (h : c ∈ q.unit) : isAmount c = false := by
  have hall : ∀ unit ∈ units, unit.all (!isAmount ·) = true := by decide +kernel
  simpa using List.all_eq_true.mp (hall q.unit q.isUnit) c h

theorem unit_ne_nil : q.unit ≠ [] := by
  have hall : ∀ unit ∈ units, unit ≠ [] := by decide
  exact hall q.unit q.isUnit

theorem exists_amount_cons : ∃ c rest, q.amount = c :: rest := by
  obtain ⟨c, hc, -⟩ := q.isDecimal.digit
  exact List.exists_cons_of_ne_nil (List.ne_nil_of_mem hc)

end Quantity

/-- The longest start of a text that can be an amount, and what can be its unit. -/
def firstPart (cs : List Char) : List Char × List Char :=
  (cs.takeWhile isAmount, (cs.dropWhile isAmount).takeWhile (!isAmount ·))

def afterPart (cs : List Char) : List Char := (cs.dropWhile isAmount).dropWhile (!isAmount ·)

theorem parts_of_ne_nil (h : cs ≠ []) : parts cs = firstPart cs :: parts (afterPart cs) := by
  induction cs with
  | nil => contradiction
  | cons c rest ih =>
    cases rest with
    | nil => cases hc : isAmount c <;> simp [parts, firstPart, afterPart, hc]
    | cons d more =>
      have hrest := ih (List.cons_ne_nil d more)
      rw [parts, hrest]
      cases hc : isAmount c with
      | true => simp [firstPart, afterPart, hc]
      | false =>
        -- a unit ends where the next character belongs to an amount
        cases hd : isAmount d with
        | true =>
          have hsame : afterPart (c :: d :: more) = d :: more := by simp [afterPart, hc, hd]
          rw [hsame, hrest]
          simp [firstPart, hc, hd]
        | false => simp [firstPart, afterPart, hc, hd]

theorem length_afterPart_lt (h : cs ≠ []) : (afterPart cs).length < cs.length := by
  obtain ⟨c, rest, rfl⟩ := List.exists_cons_of_ne_nil h
  have hle (p : Char → Bool) (l : List Char) : (l.dropWhile p).length ≤ l.length :=
    (List.dropWhile_suffix p).length_le
  cases hc : isAmount c
  · simpa [afterPart, hc] using Nat.lt_succ_of_le (hle _ _)
  · simpa [afterPart, hc] using Nat.lt_succ_of_le (Nat.le_trans (hle _ _) (hle _ _))

/-- No character is lost when a text is cut. -/
theorem flatMap_parts (cs : List Char) : (parts cs).flatMap (fun p => p.1 ++ p.2) = cs := by
  induction cs with
  | nil => rfl
  | cons c rest ih =>
    rw [parts]
    split
    next hnil =>
      rw [hnil] at ih
      subst ih
      cases isAmount c <;> rfl
    next amount unit more hcons =>
      rw [hcons] at ih
      subst ih
      split
      · rfl
      split
      next hempty => simp [List.isEmpty_iff.mp hempty]
      next => simp

theorem span_append {p : Char → Bool} {front : List Char} (hfront : ∀ c ∈ front, p c = true)
    (h : ∀ c ∈ cs.head?, p c = false) :
    (front ++ cs).takeWhile p = front ∧ (front ++ cs).dropWhile p = cs := by
  have hstop : cs.takeWhile p = [] ∧ cs.dropWhile p = cs := by
    cases cs with
    | nil => exact ⟨rfl, rfl⟩
    | cons c rest => simp [h c rfl]
  rw [List.takeWhile_append_of_pos hfront, List.dropWhile_append_of_pos hfront, hstop.1, hstop.2,
    List.append_nil]
  exact ⟨rfl, rfl⟩

/-- A quantity is cut off as it was written, if an amount or nothing follows. -/
theorem parts_text_append (q : Quantity) (h : ∀ c ∈ cs.head?, isAmount c = true) :
    parts (q.text ++ cs) = q.part :: parts cs := by
  have hne : q.text ++ cs ≠ [] := by
    obtain ⟨c, rest, hq⟩ := q.exists_amount_cons
    simp [Quantity.text, hq]
  have hunit : ∀ c ∈ (q.unit ++ cs).head?, isAmount c = false := by
    obtain ⟨u, rest, hu⟩ := List.exists_cons_of_ne_nil q.unit_ne_nil
    rw [hu]
    rintro c ⟨⟩
    exact q.not_amount_of_mem (hu ▸ List.mem_cons_self)
  have hamount := span_append (fun _ => q.amount_of_mem) hunit
  have hrest := span_append (p := fun c => !isAmount c)
    (fun c (hc : c ∈ q.unit) => by simp [q.not_amount_of_mem hc])
    (fun c (hc : c ∈ cs.head?) => by simp [h c hc])
  rw [parts_of_ne_nil hne, firstPart, afterPart, Quantity.text, List.append_assoc, hamount.1,
    hamount.2, hrest.1, hrest.2]
  rfl

def written (qs : List Quantity) : List Char := qs.flatMap Quantity.text

/-- The sum of the quantities, added up from the first to the last. -/
def total (qs : List Quantity) : Float := (qs.map Quantity.nanos).foldl (· + ·) 0

theorem exists_written_cons {qs : List Quantity} (h : qs ≠ []) :
    ∃ c rest, written qs = c :: rest ∧ isAmount c = true := by
  obtain ⟨q, more, rfl⟩ := List.exists_cons_of_ne_nil h
  obtain ⟨c, rest, hq⟩ := q.exists_amount_cons
  refine ⟨c, rest ++ q.unit ++ written more, ?_, q.amount_of_mem (hq ▸ List.mem_cons_self)⟩
  simp [written, Quantity.text, hq]

theorem parts_written (qs : List Quantity) : parts (written qs) = qs.map Quantity.part := by
  induction qs with
  | nil => rfl
  | cons q more ih =>
    have hmore : ∀ c ∈ (written more).head?, isAmount c = true := by
      intro c hc
      by_cases hnil : more = []
      · subst hnil
        cases hc
      · obtain ⟨d, rest, hcons, hd⟩ := exists_written_cons hnil
        rw [hcons] at hc
        cases hc
        exact hd
    have hcons : written (q :: more) = q.text ++ written more := rfl
    rw [hcons, parts_text_append q hmore, ih, List.map_cons]

/-- All parts can be read exactly if they are those of quantities. -/
theorem mapM_part?_eq_some_iff {ps : List (List Char × List Char)} {xs : List Float} :
    ps.mapM part? = some xs ↔
      ∃ qs : List Quantity, ps = qs.map Quantity.part ∧ xs = qs.map Quantity.nanos := by
  constructor
  · intro h
    induction ps generalizing xs with
    | nil =>
      cases h
      exact ⟨[], rfl, rfl⟩
    | cons p more ih =>
      simp only [List.mapM_cons, Option.bind_eq_bind, Option.bind_eq_some_iff] at h
      obtain ⟨x, hx, ys, hys, hxs⟩ := h
      cases hxs
      obtain ⟨qs, hqs, rfl⟩ := ih hys
      obtain ⟨hdecimal, hunit⟩ := isSome_part?_iff.mp (Option.isSome_of_eq_some hx)
      have hnanos := Quantity.part?_part ⟨p.1, p.2, hdecimal, hunit⟩
      refine ⟨⟨p.1, p.2, hdecimal, hunit⟩ :: qs, ?_, ?_⟩
      · rw [hqs]
        rfl
      · exact congrArg (· :: _) (Option.some.inj (hx.symm.trans hnanos))
  · rintro ⟨qs, rfl, rfl⟩
    induction qs with
    | nil => rfl
    | cons q more ih => simp [List.mapM_cons, q.part?_part, ih]

theorem nonnegative_total (qs : List Quantity) : Nonnegative (total qs) := by
  -- the sum is added up from the front, so its start changes in each step
  have hfrom (start : Float) (h : Nonnegative start) :
      Nonnegative ((qs.map Quantity.nanos).foldl (· + ·) start) := by
    induction qs generalizing start with
    | nil => exact h
    | cons q more ih => exact ih _ (h.add q.nonnegative_nanos)
  exact hfrom 0 nonnegative_zero

/-- What a duration is without its sign. -/
inductive Magnitude
  | zero
  | quantities (qs : List Quantity) (h : qs ≠ [])

namespace Magnitude

def text : Magnitude → List Char
  | zero => ['0']
  | quantities qs _ => written qs

def nanos : Magnitude → Float
  | zero => 0
  | quantities qs _ => total qs

variable (m : Magnitude)

theorem nonnegative_nanos : Nonnegative m.nanos := by
  cases m with
  | zero => exact nonnegative_zero
  | quantities qs => exact nonnegative_total qs

theorem exists_text_cons : ∃ c rest, m.text = c :: rest ∧ isAmount c = true := by
  cases m with
  | zero => exact ⟨'0', [], rfl, by decide⟩
  | quantities qs h => exact exists_written_cons h

end Magnitude

theorem written_ne_zero (qs : List Quantity) : written qs ≠ ['0'] := by
  intro h
  have hparts := parts_written qs
  rw [h] at hparts
  cases qs with
  | nil => cases hparts
  | cons q more =>
    have hunit : ([] : List Char) = q.unit :=
      congrArg Prod.snd (List.cons.inj hparts).1
    exact q.unit_ne_nil hunit.symm

theorem magnitude?_text (m : Magnitude) : magnitude? m.text = ofFloat? m.nanos := by
  cases m with
  | zero =>
    have hzero : ofFloat? 0 = some 0 := by decide +kernel
    exact hzero.symm
  | quantities qs h =>
    obtain ⟨c, rest, hcons, -⟩ := exists_written_cons h
    have hne : (written qs).isEmpty = false := by rw [hcons]; rfl
    have hread := mapM_part?_eq_some_iff.mpr ⟨qs, parts_written qs, rfl⟩
    simp only [Magnitude.text, Magnitude.nanos, magnitude?, if_neg (written_ne_zero qs), hne,
      hread]
    rfl

theorem exists_text_of_magnitude? (h : (magnitude? cs).isSome) : ∃ m : Magnitude, m.text = cs := by
  simp only [magnitude?] at h
  split at h
  next hzero => exact ⟨.zero, hzero.symm⟩
  split at h
  next => cases h
  next hne =>
    obtain ⟨n, hn⟩ := Option.isSome_iff_exists.mp h
    obtain ⟨xs, hxs, -⟩ := Option.bind_eq_some_iff.mp hn
    obtain ⟨qs, hqs, -⟩ := mapM_part?_eq_some_iff.mp hxs
    have htext : written qs = cs := by
      rw [← flatMap_parts cs, hqs, List.flatMap_map]
      rfl
    refine ⟨.quantities qs ?_, htext⟩
    rintro rfl
    subst htext
    exact hne rfl

/-- Only a sum above the greatest duration is refused, as no sum is negative or NaN. -/
theorem isSome_ofFloat?_iff (h : Nonnegative x) :
    (ofFloat? x).isSome ↔ ¬ Float.ofNat greatest < x := by
  have hgreatest : isPositive (Float.ofNat greatest) := by decide +kernel
  have hle : x ≤ Float.ofNat greatest ↔ ¬ Float.ofNat greatest < x :=
    le_iff_not_lt h (nonnegative_ofScientific greatest false 0)
  rw [← hle, ofFloat?]
  split
  next hle => simp [hle, h.isSome_ofFloat? hgreatest hle]
  next hnot => simp [hnot]

theorem le_greatest_of_ofFloat? (h : ofFloat? x = some n) : n ≤ greatest := by
  rw [ofFloat?] at h
  split at h
  next =>
    obtain ⟨d, -, rfl⟩ := Option.map_eq_some_iff.mp h
    exact Nat.min_le_right _ _
  next => cases h

/-- What can stand before a duration. -/
inductive Sign
  | none
  | plus
  | minus

namespace Sign

def text : Sign → List Char
  | none => []
  | plus => ['+']
  | minus => ['-']

def apply : Sign → Nat → Int
  | minus, n => -n
  | _, n => n

theorem natAbs_apply (s : Sign) (n : Nat) : (s.apply n).natAbs = n := by
  cases s
  · exact Int.natAbs_natCast n
  · exact Int.natAbs_natCast n
  · exact Int.natAbs_neg n

end Sign

/-- No sign stands first. -/
def Unsigned (cs : List Char) : Prop := cs.head? ≠ some '+' ∧ cs.head? ≠ some '-'

theorem ofChars?_append {s : Sign} (h : s = .none → Unsigned cs) :
    ofChars? (s.text ++ cs) = (magnitude? cs).map s.apply := by
  cases s with
  | none =>
    obtain ⟨hplus, hminus⟩ := h rfl
    unfold ofChars?
    split
    next heq => exact absurd (congrArg List.head? heq) hminus
    next heq => exact absurd (congrArg List.head? heq) hplus
    next => cases hread : magnitude? cs <;> simp [Sign.text, hread, Sign.apply]
  | plus => cases hread : magnitude? cs <;> simp [Sign.text, ofChars?, hread, Sign.apply]
  | minus => cases hread : magnitude? cs <;> simp [Sign.text, ofChars?, hread, Sign.apply]

/-- At most one sign is taken off. -/
theorem exists_sign (cs : List Char) : ∃ (s : Sign) (rest : List Char),
    cs = s.text ++ rest ∧ (s = .none → Unsigned rest) := by
  by_cases hplus : cs.head? = some '+'
  · obtain ⟨rest, rfl⟩ := List.head?_eq_some_iff.mp hplus
    exact ⟨.plus, rest, rfl, nofun⟩
  by_cases hminus : cs.head? = some '-'
  · obtain ⟨rest, rfl⟩ := List.head?_eq_some_iff.mp hminus
    exact ⟨.minus, rest, rfl, nofun⟩
  · exact ⟨.none, cs, rfl, fun _ => ⟨hplus, hminus⟩⟩

theorem Magnitude.unsigned_text (m : Magnitude) : Unsigned m.text := by
  obtain ⟨c, rest, htext, hc⟩ := m.exists_text_cons
  rw [htext]
  constructor <;> rintro ⟨⟩ <;> exact absurd hc (by decide)

theorem ofChars?_text (s : Sign) (m : Magnitude) :
    ofChars? (s.text ++ m.text) = (ofFloat? m.nanos).map s.apply := by
  rw [ofChars?_append fun _ => m.unsigned_text, magnitude?_text]

theorem exists_text_of_ofChars? (h : (ofChars? cs).isSome) :
    ∃ (s : Sign) (m : Magnitude), cs = s.text ++ m.text := by
  obtain ⟨s, rest, rfl, hunsigned⟩ := exists_sign cs
  rw [ofChars?_append hunsigned, Option.isSome_map] at h
  obtain ⟨m, rfl⟩ := exists_text_of_magnitude? h
  exact ⟨s, m, rfl⟩

theorem resolve_time_of_none {s : Scope} {name : String}
    (h : ofString? (s.payload name) = none) :
    s.resolve (.time name) = .error (.badDuration (s.payload name)) := by
  simp only [Scope.resolve, Scope.readPayload, Scope.fromNow?, h, Option.bind_none]

/-- A duration is a sign or none and then a zero or quantities. Such a text is refused only if the
sum of its quantities is above the greatest duration; the sum rounded, with the sign, is what it
stands for, and so stays in the bounds of a word. All other texts are the payload of an error. A
plus sign changes nothing, and a minus sign the sign of the result only. Cutting off the first
quantity of a text that is not empty leaves less of it. -/
theorem reading_follows_grammar (text : String) :
    ((ofString? text).isSome → ∃ (s : Sign) (m : Magnitude), text.toList = s.text ++ m.text) ∧
    (∀ (s : Sign) (m : Magnitude), text.toList = s.text ++ m.text →
      ((ofString? text).isSome ↔ ¬ Float.ofNat greatest < m.nanos) ∧
      ofString? text = (ofFloat? m.nanos).map s.apply) ∧
    (∀ n, ofString? text = some n → n.natAbs ≤ greatest) ∧
    (∀ (scope : Scope) (name : String), scope.payload name = text → ofString? text = none →
      scope.resolve (.time name) = .error (.badDuration text)) ∧
    (Unsigned text.toList → ofString? ("+" ++ text) = ofString? text ∧
      ofString? ("-" ++ text) = (ofString? text).map (- ·)) ∧
    (∀ cs, cs ≠ [] → parts cs = firstPart cs :: parts (afterPart cs) ∧
      (afterPart cs).length < cs.length) := by
  have hwritten : (ofString? text).isSome →
      ∃ (s : Sign) (m : Magnitude), text.toList = s.text ++ m.text := exists_text_of_ofChars?
  have hvalue (s : Sign) (m : Magnitude) (h : text.toList = s.text ++ m.text) :
      ofString? text = (ofFloat? m.nanos).map s.apply := by
    rw [ofString?, h, ofChars?_text]
  refine ⟨hwritten, ?accepted, ?bounded, ?refused, ?signs, ?rounds⟩
  case accepted =>
    intro s m htext
    refine ⟨?_, hvalue s m htext⟩
    rw [hvalue s m htext, Option.isSome_map]
    exact isSome_ofFloat?_iff m.nonnegative_nanos
  case bounded =>
    intro n hn
    obtain ⟨s, m, htext⟩ := hwritten (Option.isSome_of_eq_some hn)
    rw [hvalue s m htext, Option.map_eq_some_iff] at hn
    obtain ⟨k, hk, rfl⟩ := hn
    rw [s.natAbs_apply]
    exact le_greatest_of_ofFloat? hk
  case refused =>
    rintro scope name rfl hnone
    exact resolve_time_of_none hnone
  case signs =>
    intro hunsigned
    have hsign (s : Sign) :
        ofChars? (s.text ++ text.toList) = (magnitude? text.toList).map s.apply :=
      ofChars?_append fun _ => hunsigned
    have hplain : ofString? text = (magnitude? text.toList).map Sign.none.apply := hsign .none
    constructor
    · rw [hplain, ofString?, String.toList_append]
      exact hsign .plus
    · rw [hplain, ofString?, String.toList_append, Option.map_map]
      exact hsign .minus
  case rounds => exact fun cs h => ⟨parts_of_ne_nil h, length_afterPart_lt h⟩

/-- An hour and half a minute, forth and back; more hours than fit in a word; and a number without
a unit. -/
theorem reading_follows_grammar_sample :
    ofString? "1h.5m" = some 3630000000000 ∧ ofString? "-1h.5m" = some (-3630000000000) ∧
      ofString? "2562048h" = none ∧
      (Scope.mk Fields.empty Bag.empty ⟨0, 0⟩).resolve (.time "10") =
        .error (.badDuration "10") ∧
      parts "10h".toList = ("10".toList, ['h']) :: parts [] := by
  let hour : Quantity := ⟨['1'], ['h'], by decide +kernel, by decide⟩
  let half : Quantity := ⟨['.', '5'], ['m'], by decide +kernel, by decide⟩
  let hours : Quantity := ⟨"2562048".toList, ['h'], by decide +kernel, by decide⟩
  have hsum : ofFloat? (total [hour, half]) = some 3630000000000 := by decide +kernel
  have hbeyond : ofFloat? (total [hours]) = none := by decide +kernel
  obtain ⟨-, hvalue, -, -, hsigns, -⟩ := reading_follows_grammar "1h.5m"
  have hread : ofString? "1h.5m" = some 3630000000000 := by
    rw [(hvalue .none (.quantities [hour, half] (List.cons_ne_nil _ _)) (by decide)).2]
    exact congrArg (Option.map Sign.none.apply) hsum
  have hback := (hsigns ⟨by decide, by decide⟩).2
  rw [hread] at hback
  refine ⟨hread, hback, ?_, ?_, ?_⟩
  · rw [((reading_follows_grammar "2562048h").2.1 .none
      (.quantities [hours] (List.cons_ne_nil _ _)) (by decide)).2]
    exact congrArg (Option.map Sign.none.apply) hbeyond
  · exact (reading_follows_grammar "10").2.2.2.1 _ "10" (by decide) (by decide)
  · exact ((reading_follows_grammar "10h").2.2.2.2.2 _ (by decide)).1

end QuerySets.Duration
