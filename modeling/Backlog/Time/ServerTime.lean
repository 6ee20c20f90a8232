import Backlog.Time.Fields
import Backlog.Text.Blank

/-!
# The wire form of a time stamp

The value of a `time` tag: `2024-02-29T12:00:00.000Z`.  `text` writes it, with the
milliseconds cut and not rounded.  `read?` takes it back and more: blanks may
stand in front of each number, a year may have a sign and then any number of
digits, the other numbers one digit or two, and the milliseconds may be missing
together with their point.
-/

namespace Backlog.ServerTime

open Backlog.Text

/-- The wire form of an instant. -/
def text (t : Instant) : List Char :=
  t.dateText ++ 'T' :: t.clockText ++ '.' :: fixedDigits 3 (t.subsecond / nanosPerMilli) ++ ['Z']

/-- Reads a year: a sign and any number of digits, or one to four digits. -/
def year? (s : List Char) : Option (Int × List Char) :=
  match skipBlanks s with
  | '-' :: rest => (anyNumber? rest).map fun (n, rest) => (-(n : Int), rest)
  | '+' :: rest => (anyNumber? rest).map fun (n, rest) => ((n : Int), rest)
  | rest => (number? 1 4 rest).map fun (n, rest) => ((n : Int), rest)

/-- Reads a month, day, hour, minute or second: one digit or two. -/
def field? (s : List Char) : Option (Nat × List Char) :=
  number? 1 2 (skipBlanks s)

/-- Reads the milliseconds after a point as nanoseconds: three digits.  Without a
    point there are none. -/
def millis? : List Char → Option (Nat × List Char)
  | '.' :: rest => (number? 3 3 rest).map fun (ms, rest) => (ms * nanosPerMilli, rest)
  | s => some (0, s)

/-- The instant that a wire form stands for. -/
def read? (s : List Char) : Option Instant := do
  let (year, s) ← year? s
  let s ← symbol? '-' s
  let (month, s) ← field? s
  let s ← symbol? '-' s
  let (day, s) ← field? s
  let s ← symbol? 'T' s
  let (hour, s) ← field? s
  let s ← symbol? ':' s
  let (minute, s) ← field? s
  let s ← symbol? ':' s
  let (second, s) ← field? s
  let (nanos, s) ← millis? s
  let s ← symbol? 'Z' s
  if s.isEmpty then Instant.ofFields? ⟨year, month, day⟩ hour minute second nanos 0 else none

end Backlog.ServerTime
