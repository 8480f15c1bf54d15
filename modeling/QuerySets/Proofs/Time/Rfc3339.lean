import QuerySets.Proofs.Text.Numeral
import QuerySets.Proofs.Time.Calendar
import QuerySets.Time.Rfc3339

/-!
The internet date format read back. What is read is an instant that a clock can show, a
leap second being the last of its minute. Written and read again it is the same up to the
millisecond, unless its year does not have four digits: then the text is not read.
-/

namespace QuerySets.Time

open Text

theorem fixedNumber?_padded {width n : Nat} (h : n < 10 ^ width) (hwidth : 0 < width)
    (rest : List Char) : fixedNumber? width (Numeral.padded width n ++ rest) = some (n, rest) := by
  have hlength := Numeral.length_padded h hwidth
  have htake : (Numeral.padded width n ++ rest).take width = Numeral.padded width n :=
    List.take_left' hlength
  have hdrop : (Numeral.padded width n ++ rest).drop width = rest := List.drop_left' hlength
  simp only [fixedNumber?, htake, hdrop, hlength, if_true, Numeral.digits?_padded, Option.map_some]

/-- A sign is not read where a digit has to be. -/
theorem fixedNumber?_of_not_digit {width : Nat} {c : Char} (h : c.isDigit = false)
    (rest : List Char) : fixedNumber? (width + 1) (c :: rest) = none := by
  simp [fixedNumber?, Numeral.digits?, h]

theorem after?_cons (c : Char) (rest : List Char) : after? c (c :: rest) = some rest := by
  simp [after?]

theorem fraction?_padded {n : Nat} (h : n < 1000) (rest : List Char) :
    optionalFraction? ('.' :: (Numeral.padded 3 n ++ 'Z' :: rest)) =
      some (n * 1000000, 'Z' :: rest) := by
  have hall : ∀ c ∈ Numeral.padded 3 n, c.isDigit = true :=
    fun _ hc => Numeral.isDigit_of_mem_padded hc
  have hlength : (Numeral.padded 3 n).length = 3 := Numeral.length_padded h (by decide)
  have htake : (Numeral.padded 3 n ++ 'Z' :: rest).takeWhile Char.isDigit = Numeral.padded 3 n := by
    rw [List.takeWhile_append_of_pos hall]
    simp
  have hdrop : (Numeral.padded 3 n ++ 'Z' :: rest).dropWhile Char.isDigit = 'Z' :: rest := by
    rw [List.dropWhile_append_of_pos hall]
    simp
  have hkept : (Numeral.padded 3 n).take 9 = Numeral.padded 3 n :=
    List.take_of_length_le (by omega)
  change fraction? (Numeral.padded 3 n ++ 'Z' :: rest) = _
  simp only [fraction?, htake, hdrop, hkept, hlength, Numeral.digits?_padded, Option.map_some]

namespace Instant

/-- A leap second is the last one of its minute. -/
def Regular (i : Instant) : Prop :=
  i.nanos < nanosPerSecond ∨ i.nanos < 2 * nanosPerSecond ∧ i.seconds % 60 = 59

/-- The instant up to the millisecond. -/
def truncated (i : Instant) : Instant := { i with nanos := i.nanos / 1000000 * 1000000 }

theorem regular_ofClock (day : Date) {clock : Clock} (h : clock.nanos < nanosPerSecond) :
    (ofClock day clock).Regular := by
  simp only [Regular, ofClock, secondsPerDay]
  by_cases hleap : clock.second = 60
  · rw [if_pos hleap, if_pos hleap]
    exact Or.inr ⟨by omega, by omega⟩
  · rw [if_neg hleap]
    exact Or.inl h

theorem nanos_of_shown {hour minute second nanos : Nat} {clock : Clock}
    (h : Clock.of? hour minute second nanos = some clock) : clock.nanos < nanosPerSecond := by
  unfold Clock.of? at h
  split at h
  next hshown =>
    cases h
    exact hshown.2.2.2
  next => cases h

theorem regular_of_read {text : String} {i : Instant} (h : readRfc3339? text = some i) :
    i.Regular := by
  -- Part after part of the text is read, and only the clock matters.
  obtain ⟨⟨year, _⟩, -, h⟩ := Option.bind_eq_some_iff.mp h
  obtain ⟨_, -, h⟩ := Option.bind_eq_some_iff.mp h
  obtain ⟨⟨month, _⟩, -, h⟩ := Option.bind_eq_some_iff.mp h
  obtain ⟨_, -, h⟩ := Option.bind_eq_some_iff.mp h
  obtain ⟨⟨day, _⟩, -, h⟩ := Option.bind_eq_some_iff.mp h
  obtain ⟨⟨separator, _⟩, -, h⟩ := Option.bind_eq_some_iff.mp h
  dsimp only at h
  split at h
  · cases h
  obtain ⟨⟨hour, _⟩, -, h⟩ := Option.bind_eq_some_iff.mp h
  obtain ⟨_, -, h⟩ := Option.bind_eq_some_iff.mp h
  obtain ⟨⟨minute, _⟩, -, h⟩ := Option.bind_eq_some_iff.mp h
  obtain ⟨_, -, h⟩ := Option.bind_eq_some_iff.mp h
  obtain ⟨⟨second, _⟩, -, h⟩ := Option.bind_eq_some_iff.mp h
  obtain ⟨⟨nanos, _⟩, -, h⟩ := Option.bind_eq_some_iff.mp h
  obtain ⟨⟨offset, _⟩, -, h⟩ := Option.bind_eq_some_iff.mp h
  dsimp only at h
  split at h
  · cases h
  obtain ⟨date, -, h⟩ := Option.bind_eq_some_iff.mp h
  obtain ⟨clock, hclock, h⟩ := Option.bind_eq_some_iff.mp h
  cases h
  rcases regular_ofClock date (nanos_of_shown hclock) with hregular | ⟨hbound, hlast⟩
  · exact Or.inl hregular
  · exact Or.inr ⟨hbound, by dsimp only; omega⟩

theorem regular_ofMillis {millis : Int} {i : Instant} (h : ofMillis? millis = some i) :
    i.Regular := by
  simp only [ofMillis?] at h
  split at h
  · cases h
    refine Or.inl ?_
    simp only [nanosPerSecond]
    omega
  · cases h

/-- The second of its day that an instant lies in. -/
def inDay (i : Instant) : Nat := (i.seconds % secondsPerDay).toNat

theorem inDay_lt (i : Instant) : i.inDay < 86400 := by
  simp only [inDay, secondsPerDay]
  omega

theorem clock_of_lt {i : Instant} (h : i.nanos < nanosPerSecond) :
    i.clock = ⟨i.inDay / 3600, i.inDay / 60 % 60, i.inDay % 60, i.nanos⟩ := by
  simp only [clock, if_neg (Nat.not_le.mpr h), inDay, Nat.add_zero]

theorem clock_of_leap {i : Instant} (h : nanosPerSecond ≤ i.nanos) (hlast : i.seconds % 60 = 59) :
    i.clock = ⟨i.inDay / 3600, i.inDay / 60 % 60, 60, i.nanos - nanosPerSecond⟩ := by
  have hsecond : i.inDay % 60 + 1 = 60 := by
    simp only [inDay, secondsPerDay]
    omega
  simp only [clock, if_pos h, ← inDay.eq_def, hsecond]

theorem clock_shown {i : Instant} (h : i.Regular) : i.clock.hour < 24 ∧ i.clock.minute < 60 ∧
    i.clock.second ≤ 60 ∧ i.clock.nanos < nanosPerSecond := by
  have hday := i.inDay_lt
  by_cases hnanos : i.nanos < nanosPerSecond
  · rw [clock_of_lt hnanos]
    exact ⟨by dsimp only; omega, by dsimp only; omega, by dsimp only; omega, hnanos⟩
  · obtain ⟨hbound, hlast⟩ := h.resolve_left hnanos
    rw [clock_of_leap (Nat.not_lt.mp hnanos) hlast]
    exact ⟨by dsimp only; omega, by dsimp only; omega, Nat.le_refl _, by dsimp only; omega⟩

theorem ofClock_truncated {i : Instant} (h : i.Regular) :
    ofClock i.date { i.clock with nanos := i.clock.nanos / 1000000 * 1000000 } = i.truncated := by
  have hday : i.date.toDays = i.seconds / secondsPerDay := Date.toDays_ofDays _
  have hin : (i.inDay : Int) = i.seconds % secondsPerDay :=
    Int.toNat_of_nonneg (Int.emod_nonneg _ (by decide))
  have hsplit : i.seconds / secondsPerDay * secondsPerDay + i.seconds % secondsPerDay = i.seconds :=
    Int.ediv_mul_add_emod _ _
  by_cases hnanos : i.nanos < nanosPerSecond
  · have hsecond : ¬ i.inDay % 60 = 60 := by omega
    simp only [clock_of_lt hnanos, ofClock, if_neg hsecond, truncated, hday, Instant.mk.injEq]
    exact ⟨by omega, trivial⟩
  · obtain ⟨hbound, hlast⟩ := h.resolve_left hnanos
    have hsecond : i.inDay % 60 = 59 := by
      simp only [inDay, secondsPerDay]
      omega
    simp only [clock_of_leap (Nat.not_lt.mp hnanos) hlast, ofClock, if_true, truncated, hday,
      Instant.mk.injEq]
    refine ⟨by omega, ?_⟩
    simp only [nanosPerSecond] at *
    omega

/-- The text of an instant of a year of four digits, part by part. -/
theorem writeRfc3339Chars_eq {i : Instant} (hyear : 0 ≤ i.date.year)
    (hyear' : i.date.year ≤ 9999) : i.writeRfc3339Chars =
      Numeral.padded 4 i.date.year.toNat ++ '-' :: (Numeral.padded 2 i.date.month ++
        '-' :: (Numeral.padded 2 i.date.day ++ 'T' :: (Numeral.padded 2 i.clock.hour ++
          ':' :: (Numeral.padded 2 i.clock.minute ++ ':' :: (Numeral.padded 2 i.clock.second ++
            '.' :: (Numeral.padded 3 (i.clock.nanos / 1000000) ++ ['Z'])))))) := by
  rw [writeRfc3339Chars, writeYear, if_pos ⟨hyear, hyear'⟩]
  simp only [List.append_assoc, List.cons_append]

/-- An instant of a year of four digits is read back up to the millisecond. -/
theorem read_write {i : Instant} (h : i.Regular) (hyear : 0 ≤ i.date.year)
    (hyear' : i.date.year ≤ 9999) : readRfc3339? i.writeRfc3339 = some i.truncated := by
  obtain ⟨-, hmonth, -, hday⟩ := Date.ofDays_valid (i.seconds / secondsPerDay)
  obtain ⟨hhour, hminute, hsecond, hnanos⟩ := clock_shown h
  have hmonth' : i.date.month < 10 ^ 2 := Nat.lt_of_le_of_lt hmonth (by decide)
  have hday' : i.date.day < 10 ^ 2 :=
    Nat.lt_of_le_of_lt (Nat.le_trans hday (Date.daysInMonth_le _ _)) (by decide)
  have hmillis : i.clock.nanos / 1000000 < 1000 := by
    simp only [nanosPerSecond] at hnanos
    omega
  have hdate : Date.of? (i.date.year.toNat : Int) i.date.month i.date.day = some i.date := by
    rw [Int.toNat_of_nonneg hyear]
    exact Date.of?_ofDays (Int.le_trans (by decide) hyear) (Int.le_trans hyear' (by decide))
  have hclock : Clock.of? i.clock.hour i.clock.minute i.clock.second
      (i.clock.nanos / 1000000 * 1000000) =
        some { i.clock with nanos := i.clock.nanos / 1000000 * 1000000 } :=
    if_pos ⟨hhour, hminute, hsecond, by omega⟩
  rw [readRfc3339?, writeRfc3339, String.toList_ofList, writeRfc3339Chars_eq hyear hyear']
  refine Option.bind_eq_some_iff.mpr ⟨_, fixedNumber?_padded (by omega) (by decide) _, ?_⟩
  refine Option.bind_eq_some_iff.mpr ⟨_, after?_cons _ _, ?_⟩
  refine Option.bind_eq_some_iff.mpr ⟨_, fixedNumber?_padded hmonth' (by decide) _, ?_⟩
  refine Option.bind_eq_some_iff.mpr ⟨_, after?_cons _ _, ?_⟩
  refine Option.bind_eq_some_iff.mpr ⟨_, fixedNumber?_padded hday' (by decide) _, ?_⟩
  refine Option.bind_eq_some_iff.mpr ⟨_, rfl, ?_⟩
  refine (if_neg (by decide)).trans ?_
  refine Option.bind_eq_some_iff.mpr ⟨_, fixedNumber?_padded (by omega) (by decide) _, ?_⟩
  refine Option.bind_eq_some_iff.mpr ⟨_, after?_cons _ _, ?_⟩
  refine Option.bind_eq_some_iff.mpr ⟨_, fixedNumber?_padded (by omega) (by decide) _, ?_⟩
  refine Option.bind_eq_some_iff.mpr ⟨_, after?_cons _ _, ?_⟩
  refine Option.bind_eq_some_iff.mpr ⟨_, fixedNumber?_padded (by omega) (by decide) _, ?_⟩
  refine Option.bind_eq_some_iff.mpr ⟨_, fraction?_padded hmillis _, ?_⟩
  refine Option.bind_eq_some_iff.mpr ⟨_, rfl, ?_⟩
  refine (if_neg (by decide)).trans ?_
  refine Option.bind_eq_some_iff.mpr ⟨_, hdate, ?_⟩
  refine Option.bind_eq_some_iff.mpr ⟨_, hclock, ?_⟩
  rw [ofClock_truncated h, Int.mul_zero]
  change some (Instant.mk (i.truncated.seconds - 0) i.truncated.nanos) = some i.truncated
  rw [Int.sub_zero]

theorem read_write_of_far {i : Instant} (h : ¬ (0 ≤ i.date.year ∧ i.date.year ≤ 9999)) :
    readRfc3339? i.writeRfc3339 = none := by
  rw [readRfc3339?, writeRfc3339, String.toList_ofList, writeRfc3339Chars, writeYear, if_neg h]
  have hsign : (if i.date.year < 0 then '-' else '+').isDigit = false := by
    split <;> rfl
  simp only [readRfc3339Chars?, List.append_assoc, List.cons_append,
    fixedNumber?_of_not_digit hsign]
  rfl

end Instant

end QuerySets.Time
