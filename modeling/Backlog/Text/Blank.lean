/-!
# Blank characters

The characters that count as white space when a time stamp is read and when a
server name is trimmed: the Unicode `White_Space` property.
-/

namespace Backlog.Text

/-- Whether `c` has the Unicode property `White_Space`. -/
def isBlank (c : Char) : Bool :=
  let n := c.toNat
  (9 ≤ n && n ≤ 13) || n == 0x20 || n == 0x85 || n == 0xA0 || n == 0x1680 ||
    (0x2000 ≤ n && n ≤ 0x200A) || n == 0x2028 || n == 0x2029 || n == 0x202F ||
    n == 0x205F || n == 0x3000

/-- `s` without the blanks in front of it. -/
def skipBlanks (s : List Char) : List Char :=
  s.dropWhile isBlank

/-- Whether `s` has no character but blanks. -/
def isAllBlank (s : String) : Bool :=
  s.toList.all isBlank

end Backlog.Text
