/-!
# Names up to ASCII case

Names of targets are compared byte by byte, where the ASCII letters of both cases
are one.  Other letters keep their case.
-/

namespace Backlog.Text

/-- An ASCII capital letter as the small letter; any other byte as it is. -/
def lowerByte (b : UInt8) : UInt8 :=
  if 65 ≤ b && b ≤ 90 then b + 32 else b

/-- The bytes of a name in UTF-8. -/
def nameBytes (name : String) : List UInt8 :=
  name.toUTF8.toList

/-- What spellings of one name have in common. -/
def foldCase (name : String) : List UInt8 :=
  (nameBytes name).map lowerByte

/-- Whether two runs of bytes are equal but for the case of ASCII letters. -/
def sameBytes : List UInt8 → List UInt8 → Bool
  | [], [] => true
  | a :: as, b :: bs => lowerByte a == lowerByte b && sameBytes as bs
  | _, _ => false

/-- Whether two spellings are of one name. -/
def sameName (a b : String) : Bool :=
  sameBytes (nameBytes a) (nameBytes b)

/-! ## Laws -/

theorem sameBytes_iff (as bs : List UInt8) :
    sameBytes as bs = true ↔ as.map lowerByte = bs.map lowerByte := by
  induction as generalizing bs with
  | nil => cases bs <;> simp [sameBytes]
  | cons a as ih => cases bs <;> simp [sameBytes, ih]

theorem sameName_iff (a b : String) : sameName a b = true ↔ foldCase a = foldCase b :=
  sameBytes_iff _ _

end Backlog.Text
