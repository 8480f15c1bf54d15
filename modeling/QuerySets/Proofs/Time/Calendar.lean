import QuerySets.Time.Calendar

/-!
Days counted and named. Every day has a date, and the count is read off the date again.
An era of four centuries is counted in years from March; a day of it lies in the year that
the count of its days, evened out to years of 365 days, falls into.
-/

namespace QuerySets.Time.Date

section Years

/-- The count of a day of an era when leap days are not counted. -/
def evened (d : Int) : Int := d - d / 1460 + d / 36524 - d / 146096

/-- The day of the era on which a year of it starts. -/
def yearStart (y : Int) : Int := 365 * y + y / 4 - y / 100

theorem evened_succ (d : Int) : evened d ≤ evened (d + 1) := by
  have h : d / 146096 = d / 36524 / 4 := by omega
  have h' : (d + 1) / 146096 = (d + 1) / 36524 / 4 := by omega
  unfold evened
  omega

theorem evened_mono {d d' : Int} (h : d ≤ d') : evened d ≤ evened d' := by
  obtain ⟨n, rfl⟩ := Int.le.dest h
  induction n with
  | zero => simp
  | succ n ih =>
    have hstep := evened_succ (d + n)
    have hn := ih (by omega)
    rw [Int.natCast_succ, ← Int.add_assoc]
    omega

/-- Centuries, leap years and single years of an era. -/
theorem exists_parts (y : Int) : ∃ c q s : Int, y = 100 * c + 4 * q + s ∧ 0 ≤ q ∧ q < 25 ∧
    0 ≤ s ∧ s < 4 ∧ c = y / 100 ∧ yearStart y = 36524 * c + 1461 * q + 365 * s := by
  refine ⟨y / 100, y % 100 / 4, y % 4, ?_⟩
  unfold yearStart
  omega

theorem evened_yearStart {y : Int} (h : 0 ≤ y) (h' : y < 400) :
    evened (yearStart y) = 365 * y := by
  obtain ⟨c, q, s, hy, hq, hq', hs, hs', hc, hstart⟩ := exists_parts y
  have hleap : yearStart y / 1460 = 25 * c + q := by omega
  have hcentury : yearStart y / 36524 = c := by omega
  have hera : yearStart y / 146096 = 0 := by omega
  rw [evened, hleap, hcentury, hera]
  omega

theorem evened_before_yearStart {y : Int} (h : 1 ≤ y) (h' : y ≤ 400) :
    evened (yearStart y - 1) < 365 * y := by
  obtain ⟨c, q, s, hy, hq, hq', hs, hs', hc, hstart⟩ := exists_parts y
  have hleap : 25 * c + q ≤ (yearStart y - 1) / 1460 := by omega
  have hcentury : (yearStart y - 1) / 36524 ≤ c := by omega
  have hera : 0 ≤ (yearStart y - 1) / 146096 := by omega
  rw [evened]
  omega

/-- The year of an era that a day of it lies in. -/
theorem year_spec {d y : Int} (h : 0 ≤ d) (h' : d < 146097) (hy : y = evened d / 365) :
    0 ≤ y ∧ y < 400 ∧ yearStart y ≤ d ∧ (d < yearStart (y + 1) ∨ y = 399) := by
  have hlow : 0 ≤ evened d := evened_mono h
  have hhigh : evened d ≤ evened 146096 := evened_mono (by omega)
  have hlast : evened 146096 = 145999 := by decide
  have hrange : 0 ≤ y ∧ y < 400 := by omega
  have hstart : yearStart y ≤ d := by
    refine Int.not_lt.mp fun hlt => ?_
    have hfirst : yearStart 0 = 0 := rfl
    have hpos : 1 ≤ y := by
      refine Int.not_lt.mp fun hzero => ?_
      have hyear : y = 0 := by omega
      rw [hyear, hfirst] at hlt
      omega
    have hless := evened_before_yearStart hpos (by omega)
    have hmono : evened d ≤ evened (yearStart y - 1) := evened_mono (by omega)
    omega
  refine ⟨hrange.1, hrange.2, hstart, ?_⟩
  by_cases hend : y = 399
  · exact Or.inr hend
  · refine Or.inl (Int.not_le.mp fun hge => ?_)
    have hnext : evened (yearStart (y + 1)) = 365 * (y + 1) :=
      evened_yearStart (by omega) (by omega)
    have hmono : evened (yearStart (y + 1)) ≤ evened d := evened_mono hge
    omega

/-- A year starts 365 days after the one before it, or 366 days after a leap year. -/
theorem yearStart_succ (y : Int) : yearStart (y + 1) = yearStart y + 365 +
    (if y % 4 = 3 ∧ y % 100 ≠ 99 then 1 else 0) := by
  have hfour : (y + 1) / 4 = y / 4 + (if y % 4 = 3 then 1 else 0) := by omega
  have hhundred : (y + 1) / 100 = y / 100 + (if y % 100 = 99 then 1 else 0) := by omega
  unfold yearStart
  rw [hfour, hhundred]
  omega

end Years

section Parts

/-- Where a day lies: in which era, which year of it and which day of that year. -/
structure Lies (days era year dayOfYear : Int) : Prop where
  year_nonneg : 0 ≤ year
  year_lt : year < 400
  day_nonneg : 0 ≤ dayOfYear
  day_lt : dayOfYear < 366
  leap : dayOfYear = 365 → year % 4 = 3 ∧ (year % 100 ≠ 99 ∨ year = 399)
  days_eq : days + 719468 = era * 146097 + yearStart year + dayOfYear

/-- Which month and day a day of a year is, with the months counted from March. -/
structure Falls (dayOfYear : Int) (month day : Nat) : Prop where
  month_le : month ≤ 11
  day_pos : 1 ≤ day
  day_le : day ≤ 31
  short : month = 1 ∨ month = 3 ∨ month = 6 ∨ month = 8 → day ≤ 30
  last : month = 11 → day ≤ 28 ∨ day = 29 ∧ dayOfYear = 365
  day_eq : dayOfYear = (153 * (month : Int) + 2) / 5 + day - 1

/-- The date with these parts. -/
def ofParts (era year : Int) (month day : Nat) : Date :=
  if month < 10 then ⟨year + era * 400, month + 3, day⟩ else ⟨year + era * 400 + 1, month - 9, day⟩

/-- The date of a day of a year of an era. -/
def ofYear (era year dayOfYear : Int) : Date :=
  let month := (5 * dayOfYear + 2) / 153
  let shown := if month < 10 then month + 3 else month - 9
  ⟨year + era * 400 + (if shown ≤ 2 then 1 else 0), shown.toNat,
    (dayOfYear - (153 * month + 2) / 5 + 1).toNat⟩

theorem exists_ofParts (era year : Int) {dayOfYear : Int} (h : 0 ≤ dayOfYear)
    (h' : dayOfYear < 366) : ∃ month day, Falls dayOfYear month day ∧
      ofYear era year dayOfYear = ofParts era year month day := by
  refine ⟨((5 * dayOfYear + 2) / 153).toNat,
    (dayOfYear - (153 * ((5 * dayOfYear + 2) / 153) + 2) / 5 + 1).toNat, ?_, ?_⟩
  · constructor <;> omega
  · rw [ofYear, ofParts]
    by_cases hlate : (5 * dayOfYear + 2) / 153 < 10
    · have hshown : ¬ (5 * dayOfYear + 2) / 153 + 3 ≤ 2 := by omega
      have hlate' : ((5 * dayOfYear + 2) / 153).toNat < 10 := by omega
      simp only [if_pos hlate, if_neg hshown, if_pos hlate', Date.mk.injEq]
      exact ⟨by omega, by omega, trivial⟩
    · have hshown : (5 * dayOfYear + 2) / 153 - 9 ≤ 2 := by omega
      have hlate' : ¬ ((5 * dayOfYear + 2) / 153).toNat < 10 := by omega
      simp only [if_neg hlate, if_pos hshown, if_neg hlate', Date.mk.injEq]
      exact ⟨trivial, by omega, trivial⟩

theorem exists_parts_ofDays (days : Int) : ∃ era year dayOfYear month day,
    Lies days era year dayOfYear ∧ Falls dayOfYear month day ∧
      ofDays days = ofParts era year month day := by
  have h : 0 ≤ (days + 719468) % 146097 := Int.emod_nonneg _ (by decide)
  have h' : (days + 719468) % 146097 < 146097 := Int.emod_lt_of_pos _ (by decide)
  obtain ⟨hy, hy', hstart, hnext⟩ := year_spec h h' rfl
  have heq : ofDays days = ofYear ((days + 719468) / 146097)
      (evened ((days + 719468) % 146097) / 365)
      ((days + 719468) % 146097 - yearStart (evened ((days + 719468) % 146097) / 365)) := rfl
  rw [heq]
  generalize evened ((days + 719468) % 146097) / 365 = year at *
  have hlength := yearStart_succ year
  have hlast : yearStart 399 = 145731 := rfl
  have hday : (days + 719468) % 146097 - yearStart year < 366 := by
    rcases hnext with hlt | rfl
    · omega
    · omega
  have hlies : Lies days ((days + 719468) / 146097) year
      ((days + 719468) % 146097 - yearStart year) := by
    refine ⟨hy, hy', by omega, hday, ?_, by omega⟩
    intro hleap
    rcases hnext with hlt | rfl
    · omega
    · exact ⟨rfl, Or.inr rfl⟩
  obtain ⟨month, day, hfalls, hparts⟩ := exists_ofParts ((days + 719468) / 146097) year
    hlies.day_nonneg hlies.day_lt
  exact ⟨_, _, _, _, _, hlies, hfalls, hparts⟩

variable {days era year dayOfYear : Int} {month day : Nat}

theorem toDays_ofParts (h : Lies days era year dayOfYear) (h' : Falls dayOfYear month day) :
    (ofParts era year month day).toDays = days := by
  have hy := h.year_nonneg
  have hy' := h.year_lt
  have hdays := h.days_eq
  have hm' := h'.month_le
  have hday := h'.day_eq
  unfold yearStart at hdays
  rw [ofParts]
  split
  next hlate =>
    have hback : (month + 3 + 9) % 12 = month := by omega
    have hnotFirst : ¬ month + 3 ≤ 2 := by omega
    simp only [toDays, hback, if_neg hnotFirst]
    omega
  next hlate =>
    have hback : (month - 9 + 9) % 12 = month := by omega
    have hfirst : month - 9 ≤ 2 := by omega
    simp only [toDays, hback, if_pos hfirst]
    omega

theorem ofParts_valid (h : Lies days era year dayOfYear) (h' : Falls dayOfYear month day) :
    1 ≤ (ofParts era year month day).month ∧ (ofParts era year month day).month ≤ 12 ∧
      1 ≤ (ofParts era year month day).day ∧ (ofParts era year month day).day ≤
        daysInMonth (ofParts era year month day).year (ofParts era year month day).month := by
  have hleap := h.leap
  have hm' := h'.month_le
  have hd := h'.day_pos
  have hd' := h'.day_le
  have hshort := h'.short
  have hlast := h'.last
  rw [ofParts]
  split
  next hlate =>
    refine ⟨by dsimp only; omega, by dsimp only; omega, hd, ?_⟩
    dsimp only [daysInMonth]
    rw [if_neg (by omega)]
    split <;> omega
  next hlate =>
    refine ⟨by dsimp only; omega, by dsimp only; omega, hd, ?_⟩
    dsimp only [daysInMonth]
    split
    next hfebruary =>
      split
      next => omega
      next hcommon =>
        rcases hlast (by omega) with hlast | ⟨-, hlast⟩
        · exact hlast
        · refine absurd ?_ hcommon
          have hyear := hleap hlast
          simp only [isLeap, Bool.and_eq_true, Bool.or_eq_true, decide_eq_true_eq]
          omega
    next => split <;> omega

end Parts

/-- The count of a day is read off its date. -/
theorem toDays_ofDays (days : Int) : (ofDays days).toDays = days := by
  obtain ⟨era, year, dayOfYear, month, day, hlies, hfalls, heq⟩ := exists_parts_ofDays days
  rw [heq]
  exact toDays_ofParts hlies hfalls

theorem ofDays_valid (days : Int) : 1 ≤ (ofDays days).month ∧ (ofDays days).month ≤ 12 ∧
    1 ≤ (ofDays days).day ∧
      (ofDays days).day ≤ daysInMonth (ofDays days).year (ofDays days).month := by
  obtain ⟨era, year, dayOfYear, month, day, hlies, hfalls, heq⟩ := exists_parts_ofDays days
  rw [heq]
  exact ofParts_valid hlies hfalls

theorem daysInMonth_le (year : Int) (month : Nat) : daysInMonth year month ≤ 31 := by
  unfold daysInMonth
  split
  · split <;> omega
  · split <;> omega

theorem of?_ofDays {days : Int} (h : leastYear ≤ (ofDays days).year)
    (h' : (ofDays days).year ≤ greatestYear) :
    of? (ofDays days).year (ofDays days).month (ofDays days).day = some (ofDays days) := by
  obtain ⟨hm, hm', hd, hd'⟩ := ofDays_valid days
  rw [of?, if_pos ⟨h, h', hm, hm', hd, hd'⟩]

end QuerySets.Time.Date
