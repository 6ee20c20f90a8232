import Backlog.Log
import Backlog.Tag
import Backlog.Time.Stamp

/-!
# Stored lines

A line of history has a text, tags and a timestamp.  The timestamp is that of its
`time` tag; a line that comes without one is stamped and tagged with the time of
its arrival.
-/

namespace Backlog

/-- A stored line. -/
structure Line where
  timestamp : Instant
  tags : TagSet
  text : String
deriving DecidableEq

namespace Line

/-- The name of the tag that holds a line's time. -/
def timeTag : String := "time"

/-- The line that arrives at `now` with the given tags and text, and what the log
    says.  A time that cannot be read is kept as a tag, and the line counts as
    sent now. -/
def ofMessage (tags : TagSet) (text : String) (now : Instant) : Line × List Event :=
  match tags.get? timeTag with
  | some value =>
    match Stamp.parse? value with
    | some sent => (⟨sent, tags, text⟩, [])
    | none => (⟨now, tags, text⟩, [.unparsableTime value])
  | none => (⟨now, tags.prepend ⟨timeTag, some (Stamp.format now)⟩, text⟩, [])

end Line

end Backlog
