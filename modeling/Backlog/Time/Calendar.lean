/-!
# The civil calendar

Dates of the proleptic Gregorian calendar and their numbers, counted in days from
the start of 1970.  Both directions count from the first of March of year 0, so
that the leap day is the last day of a year.
-/

namespace Backlog

/-- A day of the civil calendar: months and days count from one. -/
structure Date where
  year : Int
  month : Nat
  day : Nat
deriving DecidableEq, Repr

namespace Date

/-- Whether `year` has a 29 February. -/
def isLeapYear (year : Int) : Bool :=
  year % 4 == 0 && (year % 100 != 0 || year % 400 == 0)

/-- How many days a month has. -/
def daysInMonth (year : Int) (month : Nat) : Nat :=
  if month = 2 then (if isLeapYear year then 29 else 28)
  else if month = 4 ∨ month = 6 ∨ month = 9 ∨ month = 11 then 30
  else 31

/-- Whether the date exists in the calendar. -/
def isValid (d : Date) : Bool :=
  1 ≤ d.month && d.month ≤ 12 && 1 ≤ d.day && d.day ≤ daysInMonth d.year d.month

/-- Days from the first of March of year 0 to the start of 1970. -/
def daysBefore1970 : Int := 719468

/-- The day number of a date. -/
def toDays (d : Date) : Int :=
  let year := if d.month ≤ 2 then d.year - 1 else d.year
  let month := (d.month + 9) % 12
  365 * year + year / 4 - year / 100 + year / 400 + ((153 * month + 2) / 5 : Nat) +
    (d.day - 1 : Int) - daysBefore1970

/-- The date with the given day number.  The last century of four hundred years
    and the last year of four are the longer ones, which is what `min` is for. -/
def ofDays (n : Int) : Date :=
  let sinceMarch := n + daysBefore1970
  let dayOfEra := (sinceMarch % 146097).toNat
  let century := min 3 (dayOfEra / 36524)
  let dayOfCentury := dayOfEra - 36524 * century
  let quartet := dayOfCentury / 1461
  let dayOfQuartet := dayOfCentury - 1461 * quartet
  let inQuartet := min 3 (dayOfQuartet / 365)
  let dayOfYear := dayOfQuartet - 365 * inQuartet
  let monthFromMarch := (5 * dayOfYear + 2) / 153
  let day := dayOfYear - (153 * monthFromMarch + 2) / 5 + 1
  let month := if monthFromMarch < 10 then monthFromMarch + 3 else monthFromMarch - 9
  let year := 400 * (sinceMarch / 146097) + (100 * century + 4 * quartet + inQuartet : Nat)
  ⟨if month ≤ 2 then year + 1 else year, month, day⟩

end Date

end Backlog
