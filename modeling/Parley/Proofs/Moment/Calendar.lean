import Parley.Moment

/-!
# The calendar

The days since the beginning of 1970 and the dates of the Gregorian calendar stand for one another: a day
has a date (`Parley.Moment.dateOf`), a date falls on a day (`Parley.Moment.daysOf`), and
`Parley.Moment.daysOf_dateOf` says that the date of a day falls on that day.

Both are computed with years that begin in March, in eras of 400 such years. The argument goes through the
parts of a day's number within its era: full centuries, then spells of four years, single years and days.
Only the last year of a spell may have a day more than the others, and that day is the last of it.
-/

namespace Parley.Moment

/-! ### Days within an era -/

/-- The number of a day within an era of 400 years that begin in March: centuries, spells of four years,
years and days before it. -/
structure DayOfEra where
  century : Int
  spell : Int
  year : Int
  day : Int

namespace DayOfEra

/-- The parts are within their bounds; a day 365 comes only at the end of a leap year. -/
structure Proper (p : DayOfEra) : Prop where
  century : 0 ≤ p.century ∧ p.century ≤ 3
  spell : 0 ≤ p.spell ∧ p.spell ≤ 24
  year : 0 ≤ p.year ∧ p.year ≤ 3
  day : 0 ≤ p.day ∧ (p.day ≤ 364 ∨ p.day = 365 ∧ p.year = 3 ∧ (p.spell < 24 ∨ p.century = 3))

/-- The days before it in its era. -/
def number (p : DayOfEra) : Int := 36524 * p.century + 1461 * p.spell + 365 * p.year + p.day

/-- The years before it in its era. -/
def years (p : DayOfEra) : Int := 100 * p.century + 4 * p.spell + p.year

variable {p : DayOfEra}

theorem exists_number_eq (n : Int) (nonneg : 0 ≤ n) (lt : n < 146097) :
    ∃ p : DayOfEra, p.Proper ∧ p.number = n := by
  -- The last century of an era and the last year of a spell are a day longer than a division says.
  obtain ⟨c, at_c⟩ : ∃ c, c = min (n / 36524) 3 := ⟨_, rfl⟩
  obtain ⟨m, at_m⟩ : ∃ m, m = n - 36524 * c := ⟨_, rfl⟩
  obtain ⟨s, at_s⟩ : ∃ s, s = min (m % 1461 / 365) 3 := ⟨_, rfl⟩
  refine ⟨⟨c, m / 1461, s, m % 1461 - 365 * s⟩, ⟨?_, ?_, ?_, ?_⟩, ?_⟩
  all_goals simp only [number]; omega

/-- The years before a day in its era, computed from its number. -/
theorem years_eq (h : p.Proper) :
    (p.number - p.number / 1460 + p.number / 36524 - p.number / 146096) / 365 = p.years := by
  obtain ⟨⟨_, _⟩, ⟨_, _⟩, ⟨_, _⟩, ⟨_, _⟩⟩ := h
  obtain ⟨c, q, s, d⟩ := p
  simp only [years] at *
  obtain ⟨n, at_n⟩ : ∃ n, n = number ⟨c, q, s, d⟩ := ⟨_, rfl⟩
  rw [← at_n]
  simp only [number] at at_n
  have spells : n / 1460 = 25 * c + q + (24 * c + q + 365 * s + d) / 1460 := by omega
  have eras : n / 146096 = n / 36524 / 4 := by omega
  rcases ‹d ≤ 364 ∨ d = 365 ∧ s = 3 ∧ (q < 24 ∨ c = 3)› with small | ⟨rfl, rfl, leap⟩
  · have carry : (24 * c + q + 365 * s + d) / 1460 = 1 → 1 ≤ d := by omega
    have centuries : n / 36524 = c := by omega
    have no_era : c / 4 = 0 := by omega
    rw [spells, eras, centuries, no_era]
    omega
  · have one_more : (24 * c + q + 365 * 3 + 365) / 1460 = 1 := by omega
    rcases leap with lt | rfl
    · have centuries : n / 36524 = c := by omega
      rw [spells, eras, centuries, one_more]
      omega
    · rw [spells, eras, one_more]
      omega

theorem years_bounds (h : p.Proper) : 0 ≤ p.years ∧ p.years < 400 := by
  obtain ⟨⟨_, _⟩, ⟨_, _⟩, ⟨_, _⟩, -⟩ := h
  unfold years
  omega

/-- The days of the years before. -/
theorem number_eq (h : p.Proper) :
    p.number = 365 * p.years + p.years / 4 - p.years / 100 + p.day := by
  obtain ⟨⟨_, _⟩, ⟨_, _⟩, ⟨_, _⟩, -⟩ := h
  unfold number years
  omega

end DayOfEra

/-! ### Days within a year -/

/-- The month of a day of a year that begins in March, counted from March. -/
def monthSinceMarch (day : Int) : Int := (5 * day + 2) / 153

/-- The month of the calendar. -/
def monthOfDay (day : Int) : Nat :=
  (if monthSinceMarch day < 10 then monthSinceMarch day + 3 else monthSinceMarch day - 9).toNat

/-- The day of the month. -/
def dayOfMonth (day : Int) : Nat := (day - (153 * monthSinceMarch day + 2) / 5 + 1).toNat

theorem dateOf_number {p : DayOfEra} (h : p.Proper) (era : Int) :
    dateOf (146097 * era + p.number - 719468) =
      ⟨p.years + era * 400 + (if monthOfDay p.day ≤ 2 then 1 else 0), monthOfDay p.day,
        dayOfMonth p.day⟩ := by
  have bounds := p.years_bounds h
  have few : 0 ≤ p.number ∧ p.number < 146097 := by
    obtain ⟨⟨_, _⟩, ⟨_, _⟩, ⟨_, _⟩, ⟨_, _⟩⟩ := h
    unfold DayOfEra.number
    omega
  have eras : (146097 * era + p.number - 719468 + 719468).fdiv 146097 = era := by
    rw [Int.fdiv_eq_ediv_of_nonneg _ (by omega)]
    omega
  have rest : 146097 * era + p.number - 719468 + 719468 - era * 146097 = p.number := by omega
  have day : p.number - (365 * p.years + p.years / 4 - p.years / 100) = p.day := by
    rw [p.number_eq h]
    omega
  simp only [dateOf, eras, rest, p.years_eq h, day]
  rfl

theorem day_bounds {day : Int} (nonneg : 0 ≤ day) (le : day ≤ 365) :
    0 ≤ monthSinceMarch day ∧ monthSinceMarch day ≤ 11 ∧ 1 ≤ dayOfMonth day ∧
      (153 * monthSinceMarch day + 2) / 5 + dayOfMonth day - 1 = day := by
  unfold dayOfMonth monthSinceMarch
  omega

theorem month_bounds {day : Int} (nonneg : 0 ≤ day) (le : day ≤ 365) :
    1 ≤ monthOfDay day ∧ monthOfDay day ≤ 12 ∧
      (if 2 < monthOfDay day then (monthOfDay day : Int) - 3 else (monthOfDay day : Int) + 9) =
        monthSinceMarch day ∧
      (monthOfDay day ≤ 2 ↔ 306 ≤ day) := by
  obtain ⟨_, _, -⟩ := day_bounds nonneg le
  have march : monthSinceMarch day < 10 ↔ day < 306 := by
    unfold monthSinceMarch
    omega
  unfold monthOfDay
  split
  · rw [if_pos (by omega)]
    omega
  · rw [if_neg (by omega)]
    omega

/-- A month has at least the days that it has in a year without a 29th of February. -/
theorem monthLength_one_le (year month : Nat) : monthLength 1 month ≤ monthLength year month := by
  unfold monthLength
  split
  · rw [if_neg (by decide)]
    split <;> decide
  · exact Nat.le_refl _

/-- The month of a day has that day, provided that the 29th of February comes in leap years only. -/
theorem dayOfMonth_le {day : Int} (nonneg : 0 ≤ day) (le : day ≤ 365) (year : Nat)
    (leap : day = 365 → isLeap year = true) : dayOfMonth day ≤ monthLength year (monthOfDay day) := by
  obtain ⟨n, rfl⟩ := Int.eq_ofNat_of_zero_le nonneg
  by_cases last : n = 365
  · subst last
    have length : monthLength year 2 = 29 := by rw [monthLength, if_pos rfl, if_pos (leap rfl)]
    exact Nat.le_of_eq length.symm
  · have table : ∀ n : Nat, n < 365 → dayOfMonth n ≤ monthLength 1 (monthOfDay n) := by decide +kernel
    exact Nat.le_trans (table n (by omega)) (monthLength_one_le year _)

/-! ### Days and dates -/

/-- The days of the years 1 to 9999. -/
def InCalendar (days : Int) : Prop := -719162 ≤ days ∧ days < 2932897

instance (days : Int) : Decidable (InCalendar days) :=
  inferInstanceAs (Decidable (-719162 ≤ days ∧ days < 2932897))

/-- A date of the years 1 to 9999. -/
structure Date.Proper (d : Date) : Prop where
  year : 1 ≤ d.year ∧ d.year ≤ 9999
  month : 1 ≤ d.month ∧ d.month ≤ 12
  day : 1 ≤ d.day ∧ d.day ≤ monthLength d.year.toNat d.month

theorem exists_era_eq (days : Int) :
    ∃ (era : Int) (p : DayOfEra), p.Proper ∧ days = 146097 * era + p.number - 719468 := by
  obtain ⟨p, proper, eq⟩ :=
    DayOfEra.exists_number_eq ((days + 719468) % 146097) (by omega) (by omega)
  exact ⟨(days + 719468) / 146097, p, proper, by omega⟩

/-- **The date of a day is a date.** -/
theorem proper_dateOf {days : Int} (h : InCalendar days) : (dateOf days).Proper := by
  obtain ⟨era, p, proper, rfl⟩ := exists_era_eq days
  rw [dateOf_number proper]
  obtain ⟨early, late⟩ := h
  have number := p.number_eq proper
  have years := p.years_bounds proper
  obtain ⟨⟨_, _⟩, ⟨_, _⟩, ⟨_, _⟩, nonneg, full⟩ := proper
  obtain ⟨first, last, -, winter⟩ := month_bounds nonneg (by omega)
  obtain ⟨-, -, one, -⟩ := day_bounds nonneg (by omega)
  have year : 1 ≤ p.years + era * 400 + (if monthOfDay p.day ≤ 2 then 1 else 0) ∧
      p.years + era * 400 + (if monthOfDay p.day ≤ 2 then 1 else 0) ≤ 9999 := by
    split <;> omega
  refine ⟨year, ⟨first, last⟩, one, dayOfMonth_le nonneg (by omega) _ fun eq => ?_⟩
  -- A day 365 comes at the end of the fourth year of a spell, and not at the end of a century.
  rw [if_pos (winter.mpr (by omega))] at year ⊢
  simp only [isLeap, Bool.or_eq_true, Bool.and_eq_true, beq_iff_eq, bne_iff_ne]
  unfold DayOfEra.years at year ⊢
  omega

/-- **The date of a day falls on that day.** -/
theorem daysOf_dateOf (days : Int) :
    daysOf (dateOf days).year (dateOf days).month (dateOf days).day = days := by
  obtain ⟨era, p, proper, rfl⟩ := exists_era_eq days
  rw [dateOf_number proper]
  have number := p.number_eq proper
  have years := p.years_bounds proper
  obtain ⟨-, -, -, nonneg, full⟩ := proper
  obtain ⟨-, -, march, -⟩ := month_bounds nonneg (by omega)
  obtain ⟨-, -, -, day⟩ := day_bounds nonneg (by omega)
  have year : (if monthOfDay p.day ≤ 2 then
      p.years + era * 400 + (if monthOfDay p.day ≤ 2 then 1 else 0) - 1
      else p.years + era * 400 + (if monthOfDay p.day ≤ 2 then 1 else 0)) = p.years + era * 400 := by
    split <;> omega
  have eras : (p.years + era * 400).fdiv 400 = era := by
    rw [Int.fdiv_eq_ediv_of_nonneg _ (by omega)]
    omega
  have rest : p.years + era * 400 - era * 400 = p.years := by omega
  simp only [daysOf, year, eras, rest, march, day]
  omega

/-- A date falls on a day of the calendar. -/
theorem inCalendar_daysOf {year : Int} {month day : Nat} (years : 1 ≤ year ∧ year ≤ 9999)
    (months : 1 ≤ month ∧ month ≤ 12) (days : 1 ≤ day ∧ day ≤ 31) :
    InCalendar (daysOf year month day) := by
  simp only [InCalendar, daysOf]
  rw [Int.fdiv_eq_ediv_of_nonneg _ (by omega)]
  split <;> split <;> omega

theorem monthLength_le (year month : Nat) : monthLength year month ≤ 31 := by
  unfold monthLength
  split
  · split <;> decide
  · split <;> decide

end Parley.Moment
