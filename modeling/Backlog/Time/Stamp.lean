import Backlog.Time.ServerTime
import Backlog.Time.Rfc3339

/-!
# Time stamps

What a `time` tag may hold.  A stamp is written in the wire form; it is read as
the wire form and, failing that, as an Internet time stamp.
-/

namespace Backlog.Stamp

/-- The stamp of an instant. -/
def format (t : Instant) : String :=
  String.ofList (ServerTime.text t)

/-- The instant of a stamp, if it is one. -/
def parse? (s : String) : Option Instant :=
  ServerTime.read? s.toList <|> Rfc3339.read? s.toList

end Backlog.Stamp
