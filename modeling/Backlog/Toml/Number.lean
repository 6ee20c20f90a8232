import Backlog.Text.Numeral
import Backlog.Toml.Lexeme
import Backlog.Toml.Value

/-!
# Numbers, dates and times in a TOML document

Integers are 64-bit words with a sign.  A floating point number is kept as it is
written; it must not be so large that its nearest double would be infinite.
-/

namespace Backlog.Toml

open Backlog.Text

/-! ## Digits -/

/-- The digits in front, where single underscores may stand between them, and the
    rest. -/
def underscored (isDigit : Char → Bool) : List Char → List Char × List Char
  | [] => ([], [])
  | '_' :: d :: s =>
    if isDigit d then
      let (ds, rest) := underscored isDigit s
      (d :: ds, rest)
    else ([], '_' :: d :: s)
  | c :: s =>
    if isDigit c then
      let (ds, rest) := underscored isDigit s
      (c :: ds, rest)
    else ([], c :: s)

/-- Reads one digit or more, the first of which no underscore precedes. -/
def digits? (isDigit : Char → Bool) : Reader (List Char)
  | [] => none
  | c :: s =>
    if isDigit c then
      let (ds, rest) := underscored isDigit s
      some (c :: ds, rest)
    else none

/-- Reads a sign where there is one: whether it is a minus. -/
def sign : List Char → Bool × List Char
  | '-' :: s => (true, s)
  | '+' :: s => (false, s)
  | s => (false, s)

/-- Reads a decimal number without leading zeros. -/
def wholeDigits? : Reader (List Char)
  | [] => none
  | c :: s =>
    if c == '0' then some (['0'], s)
    else digits? Char.isDigit (c :: s)

/-! ## Integers -/

/-- The number that digits of a base stand for. -/
def valueIn (base : Nat) (digits : List Char) : Nat :=
  digits.foldl (fun n c => base * n + (hexDigit? c).getD 0) 0

/-- Whether `c` is a digit of a base. -/
def isDigitOf (base : Nat) (c : Char) : Bool :=
  (hexDigit? c).any (· < base)

/-- The integer, if it is a 64-bit word with a sign. -/
def word? (n : Int) : Option Int :=
  if -9223372036854775808 ≤ n ∧ n ≤ 9223372036854775807 then some n else none

/-- Reads an integer of a base, after the letter that announces the base. -/
def integerIn? (base : Nat) (s : List Char) : Option (Int × List Char) := do
  let (digits, rest) ← digits? (isDigitOf base) s
  let n ← word? (valueIn base digits)
  some (n, rest)

/-- Reads an integer. -/
def integer? : Reader Int
  | '0' :: 'x' :: s => integerIn? 16 s
  | '0' :: 'o' :: s => integerIn? 8 s
  | '0' :: 'b' :: s => integerIn? 2 s
  | s => do
    let (negative, s) := sign s
    let (digits, rest) ← wholeDigits? s
    let n ← word? (if negative then -(numeral digits : Int) else numeral digits)
    some (n, rest)

/-! ## Floating point numbers -/

/-- The least number whose nearest double is infinite: half way from the largest
    double to the next power of two. -/
def leastInfinite : Nat := Nat.pow 2 1024 - Nat.pow 2 970

/-- Whether the nearest double of `digits * 10 ^ exponent` is infinite.  The
    number of digits decides but for numbers near the limit. -/
def roundsToInfinity (digits : Nat) (exponent : Int) : Bool :=
  if digits = 0 then false
  else if 400 ≤ exponent then true
  else if 0 ≤ exponent then leastInfinite ≤ digits * powerOfTen exponent.toNat
  else if (decimal digits).length + exponent < 300 then false
  else leastInfinite * powerOfTen (-exponent).toNat ≤ digits

/-- Reads the exponent of a number. -/
def exponent? : Reader Int
  | c :: s =>
    if c == 'e' || c == 'E' then do
      let (negative, s) := sign s
      let (digits, rest) ← digits? Char.isDigit s
      some (if negative then -(numeral digits : Int) else numeral digits, rest)
    else none
  | [] => none

/-- Reads the decimals of a number. -/
def fraction? : Reader (List Char)
  | '.' :: s => digits? Char.isDigit s
  | _ => none

/-- The text after a word, if it begins with it. -/
def word (w : List Char) (s : List Char) : Option (List Char) :=
  if w.isPrefixOf s then some (s.drop w.length) else none

/-- Reads `inf` or `nan` after a sign. -/
def namedFloat? (negative : Bool) (s : List Char) : Option (FloatValue × List Char) :=
  match word ['i', 'n', 'f'] s with
  | some rest => some (.infinite negative, rest)
  | none => (word ['n', 'a', 'n'] s).map fun rest => (.notANumber, rest)

/-- Reads a number with decimals, an exponent or both. -/
def decimalFloat? (negative : Bool) (s : List Char) : Option (FloatValue × List Char) := do
  let (whole, s) ← wholeDigits? s
  let (digits, exponent, rest) ←
    match fraction? s with
    | some (decimals, s) =>
      let (exponent, rest) := (exponent? s).getD (0, s)
      some (whole ++ decimals, exponent - decimals.length, rest)
    | none => (exponent? s).map fun (exponent, rest) => (whole, exponent, rest)
  let n := numeral digits
  if !negative && roundsToInfinity n exponent then none
  else some (.decimal negative n exponent, rest)

/-- Reads a floating point number. -/
def float? (s : List Char) : Option (FloatValue × List Char) :=
  let (negative, s) := sign s
  decimalFloat? negative s <|> namedFloat? negative s

/-! ## Dates and times -/

/-- Reads a number of two digits that lies in a range. -/
def pair? (least most : Nat) (s : List Char) : Option (Nat × List Char) := do
  let (n, rest) ← number? 2 2 s
  if least ≤ n ∧ n ≤ most then some (n, rest) else none

/-- Reads a date. -/
def date? (s : List Char) : Option (Date × List Char) := do
  let (year, s) ← number? 4 4 s
  let s ← symbol? '-' s
  let (month, s) ← pair? 1 12 s
  let s ← symbol? '-' s
  let (day, s) ← pair? 1 31 s
  let date : Date := ⟨year, month, day⟩
  if date.isValid then some (date, s) else none

/-- Reads the decimals of a second as nanoseconds, where there are any. -/
def nanos (s : List Char) : Nat × List Char :=
  match s with
  | '.' :: rest =>
    let (digits, after) := takeDigits 9 rest
    if digits.isEmpty then (0, s)
    else (numeral digits * powerOfTen (9 - digits.length), after.dropWhile Char.isDigit)
  | _ => (0, s)

/-- Reads a time of day. -/
def timeOfDay? (s : List Char) : Option (TimeOfDay × List Char) := do
  let (hour, s) ← pair? 0 23 s
  let s ← symbol? ':' s
  let (minute, s) ← pair? 0 59 s
  let s ← symbol? ':' s
  let (second, s) ← pair? 0 60 s
  let (nanos, rest) := nanos s
  some (⟨hour, minute, second, nanos⟩, rest)

/-- Reads an offset from UTC. -/
def offset? : Reader Int
  | c :: s =>
    if c == 'Z' || c == 'z' then some (0, s)
    else if c == '+' || c == '-' then do
      let (hours, s) ← pair? 0 23 s
      let s ← symbol? ':' s
      let (minutes, s) ← pair? 0 59 s
      let total : Int := hours * 60 + minutes
      some (if c == '-' then -total else total, s)
    else none
  | [] => none

/-- Reads the time of day that follows a date, and its offset. -/
def timeAfterDate? : Reader (TimeOfDay × Option Int)
  | c :: s =>
    if c == 'T' || c == 't' || c == ' ' then do
      let (time, s) ← timeOfDay? s
      match offset? s with
      | some (offset, rest) => some ((time, some offset), rest)
      | none => some ((time, none), s)
    else none
  | [] => none

/-- Reads a date, a time of day, or both. -/
def moment? (s : List Char) : Option (Moment × List Char) :=
  match date? s with
  | some (date, s) =>
    match timeAfterDate? s with
    | some ((time, offset), rest) => some (⟨some date, some time, offset⟩, rest)
    | none => some (⟨some date, none, none⟩, s)
  | none => (timeOfDay? s).map fun (time, rest) => (⟨none, some time, none⟩, rest)

end Backlog.Toml
