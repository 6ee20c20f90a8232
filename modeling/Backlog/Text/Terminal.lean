/-!
# Text for a terminal

A log goes to a terminal, which acts on some control characters.  Whoever chooses
a name in the log could have it do so; these characters are therefore written as
escapes.  Line ends and tabs stay.
-/

namespace Backlog.Text

/-- A character as a terminal may get it. -/
def disarmChar (c : Char) : List Char :=
  if c = '\x07' then ['\\', 'x', '0', '7']
  else if c = '\x08' then ['\\', 'x', '0', '8']
  else if c = '\x0c' then ['\\', 'x', '0', 'c']
  else if c = '\x1b' then ['\\', 'x', '1', 'b']
  else if c = '\x7f' then ['\\', 'x', '7', 'f']
  else if 0x80 ≤ c.toNat ∧ c.toNat ≤ 0x9F then
    ['\\', 'u', '\x7b'] ++ Nat.toDigits 16 c.toNat ++ ['\x7d']
  else [c]

/-- A text as a terminal may get it. -/
def disarm (s : String) : String :=
  String.ofList (s.toList.flatMap disarmChar)

end Backlog.Text
