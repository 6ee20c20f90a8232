import Backlog.Time.Fields

/-!
# Internet time stamps

Reads time stamps of RFC 3339: every field at its exact width, then `Z` or an
offset from UTC of hours and minutes.
-/

namespace Backlog.Rfc3339

open Backlog.Text

/-- Reads a number of exactly `width` digits. -/
def exactly? (width : Nat) (s : List Char) : Option (Nat × List Char) :=
  number? width width s

/-- Reads what stands between the date and the time of day. -/
def separator? : List Char → Option (List Char)
  | c :: rest => if c = 'T' ∨ c = 't' ∨ c = ' ' then some rest else none
  | [] => none

/-- Reads the sign of an offset.  The minus may be the hyphen or the minus sign
    of mathematics. -/
def sign? : List Char → Option (Int × List Char)
  | '+' :: rest => some (1, rest)
  | '-' :: rest => some (-1, rest)
  | '\u2212' :: rest => some (-1, rest)
  | _ => none

/-- Reads an offset, in seconds east of UTC. -/
def offset? : List Char → Option (Int × List Char)
  | 'Z' :: rest => some (0, rest)
  | 'z' :: rest => some (0, rest)
  | s => do
    let (sign, s) ← sign? s
    let (hours, s) ← exactly? 2 s
    let s ← symbol? ':' s
    let (minutes, s) ← exactly? 2 s
    if hours ≤ 23 ∧ minutes ≤ 59 then some (sign * ((hours * 60 + minutes) * 60 : Nat), s) else none

/-- Reads the decimals of a second as nanoseconds: one digit or more, of which
    those after the ninth do not count. -/
def nanosOfDecimals? (s : List Char) : Option (Nat × List Char) :=
  let (digits, rest) := takeDigits 9 s
  if digits.isEmpty then none
  else some (numeral digits * powerOfTen (9 - digits.length), rest.dropWhile Char.isDigit)

/-- Reads decimals where a point announces them; without a point there are none. -/
def decimals? : List Char → Option (Nat × List Char)
  | '.' :: rest => nanosOfDecimals? rest
  | s => some (0, s)

/-- The instant that an Internet time stamp stands for. -/
def read? (s : List Char) : Option Instant := do
  let (year, s) ← exactly? 4 s
  let s ← symbol? '-' s
  let (month, s) ← exactly? 2 s
  let s ← symbol? '-' s
  let (day, s) ← exactly? 2 s
  let s ← separator? s
  let (hour, s) ← exactly? 2 s
  let s ← symbol? ':' s
  let (minute, s) ← exactly? 2 s
  let s ← symbol? ':' s
  let (second, s) ← exactly? 2 s
  let (nanos, s) ← decimals? s
  let (offset, s) ← offset? s
  if s.isEmpty then Instant.ofFields? ⟨year, month, day⟩ hour minute second nanos offset else none

end Backlog.Rfc3339
