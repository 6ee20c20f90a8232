import Backlog.Time.Calendar
import Backlog.Time.Instant
import Backlog.Text.Numeral

/-!
# Calendar fields of an instant

An instant as a date and a time of day, both ways, and the pieces of text that
the time formats share.  A leap second has the second 60; on reading, the second
60 is a leap second in any minute.
-/

namespace Backlog.Instant

open Backlog.Text

/-- The date of an instant. -/
def date (t : Instant) : Date :=
  Date.ofDays (t.seconds / secondsPerDay)

/-- The hour of the day. -/
def hour (t : Instant) : Nat := t.secondOfDay / 3600

/-- The minute of the hour. -/
def minute (t : Instant) : Nat := t.secondOfDay / 60 % 60

/-- The second of the minute, which is 60 in a leap second. -/
def second (t : Instant) : Nat :=
  t.secondOfDay % 60 + (if t.IsLeap then 1 else 0)

/-- The nanoseconds into that second. -/
def subsecond (t : Instant) : Nat :=
  if t.IsLeap then t.nanos - nanosPerSecond else t.nanos

/-- The instant with the given fields, `offset` seconds east of UTC, if the date
    exists, the time of day is one and the instant is in the range. -/
def ofFields? (date : Date) (hour minute second nanos : Nat) (offset : Int) : Option Instant :=
  if date.isValid && hour ≤ 23 && minute ≤ 59 && second ≤ 60 then
    let leap := second = 60
    let seconds : Int := date.toDays * secondsPerDay +
      ((hour * 3600 + minute * 60 + (if leap then 59 else second) : Nat) : Int) - offset
    of? seconds (if leap then nanosPerSecond + nanos else nanos)
  else none

/-! ## Shared pieces of text -/

/-- A year: four digits from 0 to 9999; outside of that a sign and at least four
    digits. -/
def yearText (year : Int) : List Char :=
  if year < 0 then '-' :: paddedDecimal 4 year.natAbs
  else if year ≤ 9999 then fixedDigits 4 year.natAbs
  else '+' :: decimal year.natAbs

/-- The date as `year-month-day`. -/
def dateText (t : Instant) : List Char :=
  let d := t.date
  yearText d.year ++ '-' :: fixedDigits 2 d.month ++ '-' :: fixedDigits 2 d.day

/-- The time of day as `hour:minute:second`. -/
def clockText (t : Instant) : List Char :=
  fixedDigits 2 t.hour ++ ':' :: fixedDigits 2 t.minute ++ ':' :: fixedDigits 2 t.second

/-- The instant with as many decimals as it needs: none, three, six or nine. -/
def fullText (t : Instant) : List Char :=
  let n := t.subsecond
  let decimals :=
    if n = 0 then []
    else if n % 1000000 = 0 then '.' :: fixedDigits 3 (n / 1000000)
    else if n % 1000 = 0 then '.' :: fixedDigits 6 (n / 1000)
    else '.' :: fixedDigits 9 n
  t.dateText ++ 'T' :: t.clockText ++ decimals ++ ['Z']

end Backlog.Instant
