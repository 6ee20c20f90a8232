import Backlog.Error
import Backlog.Text.Blank

/-!
# Settings

What the daemon can be configured with, the usual values, and which values it
cannot run with.
-/

namespace Backlog

/-- The settings of the daemon. -/
structure Config where
  /-- The name that batches are sent under. -/
  serverName : String := "irc.example.org"
  /-- Milliseconds between two ticks of the scheduler. -/
  tickMs : UInt64 := 250
  /-- The name of the history backend. -/
  backend : String := "mem"
  /-- How many lines of a target are kept. -/
  maxLines : UInt64 := 50
  /-- How old lines may become, in seconds. -/
  maxAgeSecs : UInt64 := 86400
  /-- Milliseconds between two sweeps over all targets. -/
  retentionEveryMs : Int64 := 60000
  /-- The number of buckets of the index of targets. -/
  hashBuckets : UInt64 := 1019
deriving DecidableEq, Repr

namespace Config

/-- The first fault of the settings, if they have one. -/
def fault? (c : Config) : Option ConfigFault :=
  if Text.isAllBlank c.serverName then some .emptyServerName
  else if c.tickMs = 0 then some .zeroTick
  else if c.retentionEveryMs.toInt < 0 then some .negativeRetention
  else if c.hashBuckets = 0 then some .zeroBuckets
  else none

/-- The settings, if the daemon can run with them. -/
def validate (c : Config) : Except Error Config :=
  match c.fault? with
  | some fault => .error (.config fault)
  | none => .ok c

end Config

end Backlog
