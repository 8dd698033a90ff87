import Mathlib.Order.Monotone.Basic
import Storefront.Time.Calendar
/-!
# Dates and the numbers of their days

The date of a day exists and has the number of the day, for every day of the years 1 to 9999, and
dates that exist have numbers of such days. A day is found by cutting off whole periods of four
hundred, one hundred, four and one years; the last century of four and the last year of four are a
day longer than the others, which is where a remainder may reach the full length of a period.
-/

namespace Storefront.Calendar

/-- The number of days of a year. -/
def yearLength (year : Nat) : Nat := if isLeap year then 366 else 365

section Months

/-- No day of a year is before its first month. -/
theorem daysBeforeMonth_one (year : Nat) : daysBeforeMonth year 1 = 0 := rfl

/-- The days before the month after a month are those before it and its own. -/
theorem daysBeforeMonth_succ (year : Nat) {month : Nat} (first : 1 ≤ month) :
    daysBeforeMonth year (month + 1) = daysBeforeMonth year month + monthLength year month := by
  obtain ⟨earlier, rfl⟩ : ∃ earlier, month = earlier + 1 := ⟨month - 1, by omega⟩
  simp only [daysBeforeMonth, Nat.add_sub_cancel, List.range_succ, List.foldl_append,
    List.foldl_cons, List.foldl_nil]

/-- Twelve months make up a year. -/
theorem daysBeforeMonth_last (year : Nat) : daysBeforeMonth year 13 = yearLength year := by
  rw [yearLength]
  cases leap : isLeap year <;> simp [daysBeforeMonth, List.range_succ, monthLength, leap]

/-- Later months have more days before them. -/
theorem daysBeforeMonth_mono (year : Nat) {month later : Nat} (first : 1 ≤ month)
    (order : month ≤ later) : daysBeforeMonth year month ≤ daysBeforeMonth year later := by
  induction later, order using Nat.le_induction with
  | base => exact Nat.le_refl _
  | succ later order ih =>
    rw [daysBeforeMonth_succ year (first.trans order)]
    omega

/-- The month of a day of a year is one of the months from the given one on, and the day is one of
its days. -/
theorem monthOf_spec (year : Nat) : ∀ (remaining month day : Nat), 1 ≤ month →
    month + remaining = 12 → daysBeforeMonth year month + day < yearLength year →
    let found := monthOf year day remaining month
    month ≤ found.1 ∧ found.1 ≤ 12 ∧ found.2 < monthLength year found.1 ∧
      daysBeforeMonth year found.1 + found.2 = daysBeforeMonth year month + day := by
  intro remaining
  induction remaining with
  | zero =>
    intro month day first last within
    obtain rfl : month = 12 := by omega
    have whole := daysBeforeMonth_succ year first
    rw [daysBeforeMonth_last] at whole
    refine ⟨Nat.le_refl _, Nat.le_refl _, ?_, rfl⟩
    change day < monthLength year 12
    omega
  | succ remaining ih =>
    intro month day first last within
    rw [monthOf]
    by_cases here : day < monthLength year month
    · rw [if_pos here]
      exact ⟨Nat.le_refl _, by omega, here, rfl⟩
    · have next := daysBeforeMonth_succ year first
      rw [if_neg here]
      obtain ⟨later, last, short, same⟩ :=
        ih (month + 1) (day - monthLength year month) (by omega) (by omega) (by omega)
      exact ⟨by omega, last, short, by omega⟩

end Months

section Years

/-- A year begins where the year before it ends. -/
theorem daysBeforeYear_succ {year : Nat} (first : 1 ≤ year) :
    daysBeforeYear (year + 1) = daysBeforeYear year + yearLength year := by
  obtain ⟨past, rfl⟩ : ∃ past, year = past + 1 := ⟨year - 1, by omega⟩
  have fewer : past / 100 ≤ past / 4 := Nat.div_le_div_left (by decide) (by decide)
  simp only [daysBeforeYear, yearLength, isLeap, Nat.add_sub_cancel, Nat.succ_div,
    Nat.dvd_iff_mod_eq_zero]
  by_cases fourth : (past + 1) % 4 = 0
  · by_cases hundredth : (past + 1) % 100 = 0
    · by_cases fourHundredth : (past + 1) % 400 = 0 <;>
        simp [fourth, hundredth, fourHundredth] <;> omega
    · have fourHundredth : (past + 1) % 400 ≠ 0 := by omega
      simp [fourth, hundredth, fourHundredth]
      omega
  · have hundredth : (past + 1) % 100 ≠ 0 := by omega
    have fourHundredth : (past + 1) % 400 ≠ 0 := by omega
    simp [fourth, hundredth, fourHundredth]
    omega

/-- Later years have more days before them. -/
theorem daysBeforeYear_mono {year later : Nat} (first : 1 ≤ year) (order : year ≤ later) :
    daysBeforeYear year ≤ daysBeforeYear later := by
  induction later, order using Nat.le_induction with
  | base => exact Nat.le_refl _
  | succ later order ih =>
    rw [daysBeforeYear_succ (first.trans order)]
    omega

/-- The year of a day and the day's number within the year. -/
def yearOf (days : Nat) : Nat × Nat :=
  let era := days / 146097
  let inEra := days % 146097
  let century := min (inEra / 36524) 3
  let inCentury := inEra - century * 36524
  let cycle := inCentury / 1461
  let inCycle := inCentury % 1461
  let yearOfCycle := min (inCycle / 365) 3
  (era * 400 + century * 100 + cycle * 4 + yearOfCycle + 1, inCycle - yearOfCycle * 365)

/-- The days before a year, if the years before it are counted in eras of four hundred years,
centuries, cycles of four years and single years. -/
theorem daysBeforeYear_of_periods (era : Nat) {century cycle single : Nat}
    (centuries : century ≤ 3) (cycles : cycle ≤ 24) (singles : single ≤ 3) :
    daysBeforeYear (era * 400 + century * 100 + cycle * 4 + single + 1) =
      era * 146097 + century * 36524 + cycle * 1461 + single * 365 := by
  simp only [daysBeforeYear]
  omega

/-- The last year of a cycle has an extra day, unless it is the last of a century that is not the
last of its era. -/
theorem isLeap_of_periods (era : Nat) {century cycle : Nat} (cycles : cycle ≤ 24)
    (long : cycle = 24 → century = 3) :
    isLeap (era * 400 + century * 100 + cycle * 4 + 3 + 1) = true := by
  have fourth : (era * 400 + century * 100 + cycle * 4 + 3 + 1) % 4 = 0 := by omega
  have either : (era * 400 + century * 100 + cycle * 4 + 3 + 1) % 100 ≠ 0 ∨
      (era * 400 + century * 100 + cycle * 4 + 3 + 1) % 400 = 0 := by omega
  simpa [isLeap, fourth] using either

/-- A day is in its year. -/
theorem yearOf_spec (days : Nat) :
    1 ≤ (yearOf days).1 ∧ daysBeforeYear (yearOf days).1 + (yearOf days).2 = days ∧
      (yearOf days).2 < yearLength (yearOf days).1 := by
  have eras := Nat.div_add_mod days 146097
  have short := Nat.mod_lt days (show 0 < 146097 by decide)
  simp only [yearOf]
  generalize days / 146097 = era, days % 146097 = inEra at *
  obtain ⟨century, isCentury⟩ : ∃ century, century = min (inEra / 36524) 3 := ⟨_, rfl⟩
  rw [← isCentury]
  have centuries : century ≤ 3 := by omega
  obtain ⟨inCentury, isInCentury⟩ : ∃ inCentury, inCentury = inEra - century * 36524 := ⟨_, rfl⟩
  rw [← isInCentury]
  have remains : inEra = century * 36524 + inCentury := by omega
  have shortCentury : inCentury < 36524 ∨ century = 3 ∧ inCentury = 36524 := by omega
  have cycles := Nat.div_add_mod inCentury 1461
  have shortCycle := Nat.mod_lt inCentury (show 0 < 1461 by decide)
  generalize inCentury / 1461 = cycle, inCentury % 1461 = inCycle at *
  have fewCycles : cycle ≤ 24 := by omega
  obtain ⟨single, isSingle⟩ : ∃ single, single = min (inCycle / 365) 3 := ⟨_, rfl⟩
  rw [← isSingle]
  have singles : single ≤ 3 := by omega
  have begins := daysBeforeYear_of_periods era centuries fewCycles singles
  refine ⟨by omega, by omega, ?_⟩
  by_cases extra : inCycle - single * 365 = 365
  · obtain rfl : single = 3 := by omega
    have long : cycle = 24 → century = 3 := by omega
    have leap := isLeap_of_periods era fewCycles long
    rw [yearLength, if_pos leap]
    omega
  · have common : 365 ≤ yearLength (era * 400 + century * 100 + cycle * 4 + single + 1) := by
      rw [yearLength]
      split <;> omega
    omega

end Years

section Dates

/-- The date of a day is in the day's year and has its number. -/
theorem toDays_ofDays (days : Nat) : (Date.ofDays days).toDays = days := by
  obtain ⟨-, whole, within⟩ := yearOf_spec days
  obtain ⟨-, -, -, month⟩ := monthOf_spec (yearOf days).1 11 1 (yearOf days).2 (Nat.le_refl _) rfl
    (by rwa [daysBeforeMonth_one, Nat.zero_add])
  rw [daysBeforeMonth_one, Nat.zero_add] at month
  change daysBeforeYear (yearOf days).1 + daysBeforeMonth (yearOf days).1
    (monthOf (yearOf days).1 (yearOf days).2 11 1).1 +
      (monthOf (yearOf days).1 (yearOf days).2 11 1).2 = days
  omega

/-- The date of a day of the years 1 to 9999 exists. -/
theorem isValid_ofDays {days : Nat} (covered : days < dayCount) :
    (Date.ofDays days).isValid = true := by
  obtain ⟨first, whole, within⟩ := yearOf_spec days
  obtain ⟨least, most, short, -⟩ := monthOf_spec (yearOf days).1 11 1 (yearOf days).2
    (Nat.le_refl _) rfl (by rwa [daysBeforeMonth_one, Nat.zero_add])
  have last : (yearOf days).1 ≤ 9999 := by
    by_contra late
    have begins : dayCount ≤ daysBeforeYear (yearOf days).1 :=
      daysBeforeYear_mono (by decide) (by omega)
    omega
  have ofDays : Date.ofDays days = ⟨(yearOf days).1,
      (monthOf (yearOf days).1 (yearOf days).2 11 1).1,
      (monthOf (yearOf days).1 (yearOf days).2 11 1).2 + 1⟩ := rfl
  simp only [ofDays, Date.isValid, Bool.and_eq_true, decide_eq_true_eq]
  omega

/-- A date that exists has the number of a day of the years 1 to 9999. -/
theorem toDays_lt {date : Date} (real : date.isValid = true) : date.toDays < dayCount := by
  simp only [Date.isValid, Bool.and_eq_true, decide_eq_true_eq] at real
  obtain ⟨⟨⟨⟨⟨firstYear, lastYear⟩, firstMonth⟩, lastMonth⟩, firstDay⟩, lastDay⟩ := real
  have month := daysBeforeMonth_succ date.year firstMonth
  have months : daysBeforeMonth date.year (date.month + 1) ≤ daysBeforeMonth date.year 13 :=
    daysBeforeMonth_mono date.year (by omega) (by omega)
  have year := daysBeforeYear_succ firstYear
  have years : daysBeforeYear (date.year + 1) ≤ dayCount :=
    daysBeforeYear_mono (by omega) (by omega)
  rw [daysBeforeMonth_last] at months
  rw [Date.toDays]
  omega

end Dates

end Storefront.Calendar
