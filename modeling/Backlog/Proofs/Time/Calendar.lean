import Backlog.Time.Calendar
import Mathlib.Data.List.Basic

/-!
# The civil calendar both ways

Every day number is that of one date, which exists in the calendar.  A date is counted from
the first of March of its year, `Date.ofMarch`, so that only the last day of such a year can
be a leap day.
-/

namespace Backlog

namespace Date

/-- The date that is `day` days after the first of March of `year`. -/
def ofMarch (year : Int) (day : Nat) : Date :=
  let monthFromMarch := (5 * day + 2) / 153
  let month := if monthFromMarch < 10 then monthFromMarch + 3 else monthFromMarch - 9
  ⟨if month ≤ 2 then year + 1 else year, month, day - (153 * monthFromMarch + 2) / 5 + 1⟩

theorem isValid_iff {d : Date} :
    d.isValid = true ↔
      (1 ≤ d.month ∧ d.month ≤ 12) ∧ 1 ≤ d.day ∧ d.day ≤ daysInMonth d.year d.month := by
  simp [isValid, and_assoc]

theorem day_le_of_isValid {d : Date} (valid : d.isValid = true) : d.day ≤ 31 := by
  obtain ⟨-, -, most⟩ := isValid_iff.mp valid
  unfold daysInMonth at most
  -- 28, 29, 30 or 31
  split at most
  · split at most <;> omega
  · split at most <;> omega

/-! ## From March to February -/

theorem toDays_ofMarch (year : Int) {day : Nat} (within : day ≤ 365) :
    (ofMarch year day).toDays =
      365 * year + year / 4 - year / 100 + year / 400 + day - daysBefore1970 := by
  obtain ⟨m, counted⟩ : ∃ m, (5 * day + 2) / 153 = m := ⟨_, rfl⟩
  simp only [ofMarch, toDays, counted]
  by_cases early : m < 10
  · have later : ¬ m + 3 ≤ 2 := by omega
    have back : (m + 3 + 9) % 12 = m := by omega
    simp only [early, later, if_true, if_false, back]
    omega
  · -- January and February belong to the year that began in March before
    have front : m - 9 ≤ 2 := by omega
    have back : (m - 9 + 9) % 12 = m := by omega
    have same : year + 1 - 1 = year := by omega
    simp only [early, front, if_true, if_false, back, same]
    omega

theorem isValid_ofMarch {year : Int} {day : Nat} (within : day ≤ 365)
    (leap : day = 365 → isLeapYear (year + 1) = true) : (ofMarch year day).isValid = true := by
  obtain ⟨m, counted⟩ : ∃ m, (5 * day + 2) / 153 = m := ⟨_, rfl⟩
  have months : m < 10 ∨ m = 10 ∨ m = 11 := by omega
  simp only [isValid_iff, ofMarch, counted]
  rcases months with early | rfl | rfl
  · have other : ¬ m + 3 = 2 := by omega
    simp only [daysInMonth, early, other, if_true, if_false]
    refine ⟨by omega, by omega, ?_⟩
    split <;> omega
  · simp [daysInMonth]
    omega
  · -- February has a 29th just where the year has a last day more
    by_cases last : day = 365
    · simp [daysInMonth, leap last, last]
    · simp [daysInMonth]
      split <;> omega

/-! ## All days -/

/-- A day number in periods of four hundred years, a hundred, four and one.  The last of four
    centuries and the last of four years have a day more. -/
theorem ofDays_eq_ofMarch (n : Int) :
    ∃ (era : Int) (century quartet year day : Nat),
      ofDays n = ofMarch (400 * era + (100 * century + 4 * quartet + year : Nat)) day ∧
      n + daysBefore1970 =
        146097 * era + (36524 * century + 1461 * quartet + 365 * year + day : Nat) ∧
      century ≤ 3 ∧ quartet ≤ 24 ∧ year ≤ 3 ∧ day ≤ 365 ∧
      (day = 365 → year = 3 ∧ (quartet = 24 → century = 3)) := by
  refine ⟨_, _, _, _, _, rfl, ?_⟩
  simp only [daysBefore1970]
  omega

theorem toDays_ofDays (n : Int) : (ofDays n).toDays = n := by
  obtain ⟨era, century, quartet, year, day, date, number, centuries, quartets, years, within, -⟩ :=
    ofDays_eq_ofMarch n
  rw [date, toDays_ofMarch _ within]
  -- the days that are added for leap years are 97, 24 and 1 to a period
  omega

theorem isValid_ofDays (n : Int) : (ofDays n).isValid = true := by
  obtain ⟨era, century, quartet, year, day, date, -, -, quartets, -, within, last⟩ := ofDays_eq_ofMarch n
  rw [date]
  apply isValid_ofMarch within
  intro leap
  -- the year after is divisible by 4, and by 100 only at the end of four hundred years
  obtain ⟨rfl, full⟩ := last leap
  simp [isLeapYear]
  omega

end Date

end Backlog
