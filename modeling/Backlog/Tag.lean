/-!
# Message tags

Tags are named annotations that a line carries, in order.  A tag may have no value,
which differs from an empty one, and a name may occur more than once: the first
one counts.  `TagSet.wireHead` is what a line with the tags begins with on the
wire.
-/

namespace Backlog

/-- One message tag. -/
structure Tag where
  name : String
  value : Option String
deriving DecidableEq, Repr

/-- Tags in order. -/
structure TagSet where
  tags : List Tag
deriving DecidableEq, Repr

namespace TagSet

/-- No tags. -/
def empty : TagSet := ⟨[]⟩

/-- The tags with one more at the end. -/
def push (s : TagSet) (tag : Tag) : TagSet :=
  ⟨s.tags ++ [tag]⟩

/-- The tags with one more in front. -/
def prepend (s : TagSet) (tag : Tag) : TagSet :=
  ⟨tag :: s.tags⟩

/-- The first tag of a name. -/
def find? (s : TagSet) (name : String) : Option Tag :=
  s.tags.find? (·.name = name)

/-- The value of the first tag of a name.  A tag without a value hides the later
    ones. -/
def get? (s : TagSet) (name : String) : Option String :=
  (s.find? name).bind (·.value)

/-- The first tag of a name, and the tags without it. -/
def remove (s : TagSet) (name : String) : Option Tag × TagSet :=
  (s.find? name, ⟨s.tags.eraseP (·.name = name)⟩)

/-- How many tags there are. -/
def size (s : TagSet) : Nat :=
  s.tags.length

/-- Whether there are none. -/
def isEmpty (s : TagSet) : Bool :=
  s.tags.isEmpty

/-- The first tag of all. -/
def first? (s : TagSet) : Option Tag :=
  s.tags.head?

/-! ## The wire form -/

/-- A character of a tag value on the wire.  What would end the value or the line
    is written as a backslash and a letter or sign. -/
def escapeChar (c : Char) : List Char :=
  if c = ';' then ['\\', ':']
  else if c = ' ' then ['\\', 's']
  else if c = '\\' then ['\\', '\\']
  else if c = '\r' then ['\\', 'r']
  else if c = '\n' then ['\\', 'n']
  else [c]

/-- A tag value on the wire. -/
def escape (value : List Char) : List Char :=
  value.flatMap escapeChar

/-- A tag on the wire: its name and, if it has one, its value after `=`. -/
def wireTag (tag : Tag) : List Char :=
  match tag.value with
  | none => tag.name.toList
  | some value => tag.name.toList ++ '=' :: escape value.toList

/-- What a line with these tags begins with: nothing without tags, and otherwise
    the tags between `@` and a space, with `;` between them. -/
def wireHead (s : TagSet) : String :=
  if s.isEmpty then ""
  else String.ofList ('@' :: [';'].intercalate (s.tags.map wireTag) ++ [' '])

/-! ## Laws -/

theorem find?_prepend_self (s : TagSet) (tag : Tag) :
    (s.prepend tag).find? tag.name = some tag := by
  simp [find?, prepend]

end TagSet

end Backlog
