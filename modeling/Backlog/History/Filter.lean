import Backlog.History.Line
import Backlog.Time.Clock

/-!
# Replay filters

Which lines of a log a recipient gets: those young enough that a test holds of, and
of these the last ones.
-/

namespace Backlog

/-- The instant `seconds` before `now`, if that is in the range. -/
def Instant.secondsBefore? (now : Instant) (seconds : Nat) : Option Instant :=
  if seconds ≤ Clock.longestSeconds then now.add? (-(seconds * nanosPerSecond : Nat)) else none

/-- A selection of lines.  What is not set selects all. -/
structure Filter where
  lastLines : Option Nat := none
  lastSeconds : Option Nat := none
  test : Option (Instant → String → Bool) := none

namespace Filter

/-- The time before which lines are too old.  There is no such time if it would
    lie outside of the range. -/
def cutoff? (f : Filter) (now : Instant) : Option Instant :=
  f.lastSeconds.bind now.secondsBefore?

/-- Whether a line passes, apart from the number of lines. -/
def accepts (f : Filter) (cutoff : Option Instant) (line : Line) : Bool :=
  !(cutoff.any (line.timestamp < ·)) && f.test.all (· line.timestamp line.text)

/-- The last `n` items. -/
def lastOf {α : Type} (n : Nat) (xs : List α) : List α :=
  xs.drop (xs.length - n)

/-- The lines that pass at `now`, in their order. -/
def select (f : Filter) (now : Instant) (lines : List Line) : List Line :=
  let passing := lines.filter (f.accepts (f.cutoff? now))
  match f.lastLines with
  | none => passing
  | some n => lastOf n passing

/-- An option as it stands in the description of a filter. -/
def describeOption : Option Nat → String
  | none => "None"
  | some n => s!"Some({n})"

/-- A description of the filter: its limits, and whether it has a test. -/
def describe (f : Filter) : String :=
  "HistoryFilter \x7b last_lines: " ++ describeOption f.lastLines ++ ", last_seconds: " ++
    describeOption f.lastSeconds ++ ", predicate: " ++ (if f.test.isSome then "true" else "false") ++
    " \x7d"

end Filter

/-! ## Named tests -/

/-- A test on lines that can be written down. -/
inductive LineTest where
  /-- The text contains another one. -/
  | contains (s : String)
  | containsNot (s : String)
  /-- The timestamp is before an instant. -/
  | before (t : Instant)
  | notBefore (t : Instant)
  /-- No line passes. -/
  | never
deriving DecidableEq

/-- Whether `part` stands somewhere in `s`. -/
def Text.isPartOf (part : List Char) : List Char → Bool
  | [] => part.isEmpty
  | c :: s => part.isPrefixOf (c :: s) || isPartOf part s

/-- What a test says of a line's timestamp and text. -/
def LineTest.holds : LineTest → Instant → String → Bool
  | contains s, _, text => Text.isPartOf s.toList text.toList
  | containsNot s, _, text => !Text.isPartOf s.toList text.toList
  | before t, timestamp, _ => timestamp < t
  | notBefore t, timestamp, _ => !decide (timestamp < t)
  | never, _, _ => false

end Backlog
