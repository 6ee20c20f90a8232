import Backlog.Time.Instant

/-!
# The clock

A clock is the instant that it shows.  It is moved by whole milliseconds, and it
answers whether an interval has passed since an earlier instant.
-/

namespace Backlog.Clock

/-- The longest span that is computed with, in milliseconds. -/
def longestMillis : Int := 9223372036854775807

/-- The same in whole seconds. -/
def longestSeconds : Nat := 9223372036854775

/-- The clock `ms` milliseconds later.  Nothing if the span is too long or the
    clock would leave the range. -/
def advance? (now : Instant) (ms : Int) : Option Instant :=
  if -longestMillis ≤ ms ∧ ms ≤ longestMillis then now.add? (ms * nanosPerMilli) else none

/-- A clock that shows a whole second, or the epoch where that is no instant. -/
def atSecond (seconds : Int) : Instant :=
  (Instant.of? seconds 0).getD Instant.epoch

/-- Whole milliseconds from `earlier` to `now`, towards zero. -/
def millisSince (now earlier : Instant) : Int :=
  (now.since earlier).tdiv nanosPerMilli

/-- Whether `interval` milliseconds have passed since `earlier`.  The interval is
    a 64-bit word, which is compared as a signed number. -/
def elapsedAtLeast (now earlier : Instant) (interval : UInt64) : Bool :=
  interval.toInt64.toInt ≤ millisSince now earlier

end Backlog.Clock
