/-!
# Decimal numerals

Writing and reading unsigned decimal numbers over lists of characters.  Readers
give back the rest of the text, so that they chain; a digit is one of the ten
ASCII digits.
-/

namespace Backlog.Text

/-- The digit for `n`, which is below ten. -/
def digit (n : Nat) : Char :=
  Char.ofNat (48 + n)

/-- The number that an ASCII digit stands for. -/
def digitValue (c : Char) : Nat :=
  c.toNat - 48

/-- `n` in decimal, without leading zeros. -/
def decimal (n : Nat) : List Char :=
  if n < 10 then [digit n] else decimal (n / 10) ++ [digit (n % 10)]
termination_by n

/-- The last `width` decimal digits of `n`, zeros in front included. -/
def fixedDigits : Nat → Nat → List Char
  | 0, _ => []
  | width + 1, n => fixedDigits width (n / 10) ++ [digit (n % 10)]

/-- Ten to the power of `n`. -/
def powerOfTen (n : Nat) : Nat :=
  Nat.pow 10 n

/-- `n` in decimal, filled up with zeros to at least `width` digits. -/
def paddedDecimal (width n : Nat) : List Char :=
  if n < powerOfTen width then fixedDigits width n else decimal n

/-- The number that a run of digits stands for. -/
def numeral (digits : List Char) : Nat :=
  digits.foldl (fun value c => 10 * value + digitValue c) 0

/-- The first `limit` digits of `s`, or fewer where a run of digits ends before
    that, and what follows them. -/
def takeDigits : Nat → List Char → List Char × List Char
  | 0, s => ([], s)
  | _ + 1, [] => ([], [])
  | limit + 1, c :: s =>
    if c.isDigit then
      let (digits, rest) := takeDigits limit s
      (c :: digits, rest)
    else ([], c :: s)

/-- Reads a number of `least` to `most` digits.  A longer run of digits is cut
    after `most`, and the rest begins with its remaining digits. -/
def number? (least most : Nat) (s : List Char) : Option (Nat × List Char) :=
  let (digits, rest) := takeDigits most s
  if digits.length < least then none else some (numeral digits, rest)

/-- Reads a number of one or more digits. -/
def anyNumber? (s : List Char) : Option (Nat × List Char) :=
  number? 1 s.length s

/-- Reads the one character `c`. -/
def symbol? (c : Char) : List Char → Option (List Char)
  | d :: rest => if d = c then some rest else none
  | [] => none

/-! ## Laws -/

theorem takeDigits_append (limit : Nat) (s : List Char) :
    (takeDigits limit s).1 ++ (takeDigits limit s).2 = s := by
  induction limit generalizing s with
  | zero => rfl
  | succ limit ih =>
    cases s with
    | nil => rfl
    | cons c s =>
      simp only [takeDigits]
      split
      · simp [ih s]
      · rfl

theorem length_fixedDigits (width n : Nat) : (fixedDigits width n).length = width := by
  induction width generalizing n with
  | zero => rfl
  | succ width ih => simp [fixedDigits, ih]

end Backlog.Text
