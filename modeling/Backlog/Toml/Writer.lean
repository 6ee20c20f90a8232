import Backlog.Text.Numeral

/-!
# Writing TOML values

Strings are written in the plainest of five ways that can hold them: between double
quotes, between single quotes, between three of either, and last with escapes.  A
string with line ends goes over several lines, and then begins on a line of its
own.
-/

namespace Backlog.Toml

open Backlog.Text

/-! ## What a string contains -/

/-- The longest run of a character. -/
def longestRun (c : Char) (s : List Char) : Nat :=
  (s.foldl (fun (run, longest) d =>
    if d = c then (run + 1, max longest (run + 1)) else (0, longest)) (0, 0)).2

/-- Whether `c` can only be written as an escape, wherever it stands: a control
    character other than the tab and the line feed. -/
def needsEscape (c : Char) : Bool :=
  c ≠ '\t' && c ≠ '\n' && (c.toNat < 0x20 || c.toNat = 0x7F)

/-! ## Escapes -/

/-- The hexadecimal digit for `n`, which is below sixteen. -/
def hexDigit (n : Nat) : Char :=
  if n < 10 then Char.ofNat (48 + n) else Char.ofNat (55 + n)

/-- A character between double quotes, where line feeds may stand if `multi`. -/
def writeChar (multi : Bool) (c : Char) : List Char :=
  if c = '\x08' then ['\\', 'b']
  else if c = '\t' then ['\\', 't']
  else if c = '\n' then (if multi then ['\n'] else ['\\', 'n'])
  else if c = '\x0c' then ['\\', 'f']
  else if c = '\r' then ['\\', 'r']
  else if c = '\\' then ['\\', '\\']
  else if needsEscape c then
    ['\\', 'u', '0', '0', hexDigit (c.toNat / 16), hexDigit (c.toNat % 16)]
  else [c]

/-- A text between double quotes.  `allowed` quotes in a row stand for themselves;
    one more is escaped, and then the count begins again, as it does after any
    other escape. -/
def writeBasic (multi : Bool) (allowed : Nat) : (quotes : Nat) → List Char → List Char
  | _, [] => []
  | quotes, c :: s =>
    if c = '"' then
      if quotes < allowed then '"' :: writeBasic multi allowed (quotes + 1) s
      else '\\' :: '"' :: writeBasic multi allowed 0 s
    else writeChar multi c ++ writeBasic multi allowed 0 s

/-! ## Strings -/

/-- A way to write a string. -/
inductive Style where
  | basic
  | literal
  | multiBasic
  | multiLiteral
deriving DecidableEq, Repr

/-- The way in which a string is written. -/
def Style.of (s : List Char) : Style :=
  let doubles := longestRun '"' s
  let singles := longestRun '\'' s
  let escapes := s.any needsEscape
  let backslash := s.contains '\\'
  let newline := s.contains '\n'
  if !escapes && !backslash && doubles = 0 && !newline then .basic
  else if !escapes && singles = 0 && !newline then .literal
  else if !escapes && !backslash && doubles ≤ 2 then .multiBasic
  else if !escapes && singles ≤ 2 then .multiLiteral
  else if newline then .multiBasic
  else .basic

/-- A string as a TOML value. -/
def writeString (s : List Char) : List Char :=
  let opening := if s.contains '\n' then ['\n'] else []
  match Style.of s with
  | .basic => '"' :: writeBasic false 0 0 s ++ ['"']
  | .literal => '\'' :: s ++ ['\'']
  | .multiBasic => ['"', '"', '"'] ++ opening ++ writeBasic true 2 0 s ++ ['"', '"', '"']
  | .multiLiteral => ['\'', '\'', '\''] ++ opening ++ s ++ ['\'', '\'', '\'']

/-! ## Integers -/

/-- An integer as a TOML value. -/
def writeInteger (n : Int) : List Char :=
  if n < 0 then '-' :: decimal n.natAbs else decimal n.natAbs

end Backlog.Toml
