import Backlog.History.Filter
import Backlog.History.Replay
import Backlog.History.TargetIndex
import Backlog.Time.Clock

/-!
# The store in memory

The logs of all targets of a server, and the operations on them: to add lines, to
trim one log or all, to replay and to destroy.  What depends on the time is told
it.  A target without a log is no error: there is nothing to do for it.
-/

namespace Backlog

/-- A limit on the age of lines. -/
structure Age where
  seconds : Nat
  nanos : Nat
deriving DecidableEq, Repr

namespace Age

/-- An age of whole seconds. -/
def ofSeconds (seconds : Nat) : Age := ⟨seconds, 0⟩

/-- The longest age there is. -/
def longest : Age := ⟨18446744073709551615, 999999999⟩

/-- The age in nanoseconds. -/
def toNanos (a : Age) : Nat :=
  a.seconds * nanosPerSecond + a.nanos

/-- The time before which lines are older than this at `now`.  There is no such
    time for an age that is too long to compute with, or if it would lie outside
    of the range. -/
def cutoff? (a : Age) (now : Instant) : Option Instant :=
  if (a.toNanos : Int) ≤ Clock.longestMillis * nanosPerMilli then now.add? (-(a.toNanos : Int))
  else none

end Age

/-- The history of a server. -/
structure Store where
  index : TargetIndex
  /-- The server's name, which batches are sent under. -/
  server : String

namespace Store

/-- The name of this kind of store in a configuration. -/
def backendName : String := "mem"

/-- A store without logs. -/
def empty (hash : List UInt8 → Nat) (server : String) (buckets : Nat) : Store :=
  ⟨TargetIndex.empty hash buckets, server⟩

/-! ## Queries -/

/-- The log of a target. -/
def get? (s : Store) (target : String) : Option TargetLog :=
  s.index.get? target

/-- How many targets have a log. -/
def targetCount (s : Store) : Nat :=
  s.index.size

/-- How many lines a target has. -/
def lineCount (s : Store) (target : String) : Nat :=
  ((s.get? target).map (·.size)).getD 0

/-- The oldest timestamp of a target's lines. -/
def oldest? (s : Store) (target : String) : Option Instant :=
  (s.get? target).bind (·.oldest)

/-- How many lines there are in all. -/
def totalLines (s : Store) : Nat :=
  s.index.tally (·.size)

/-- The names of all targets with a log, in no particular order. -/
def targets (s : Store) : List String :=
  s.index.toList.map (·.name)

/-! ## Operations -/

/-- Adds a line that arrives at `now`.  A target without a log gets one. -/
def addLine (s : Store) (now : Instant) (target : String) (tags : TagSet) (text : String) :
    Outcome Store Unit :=
  let (line, stamping) := Line.ofMessage tags text now
  let (index, creation) := s.index.ensure target
  ⟨{ s with index := index.update target (·.append line) }, (), stamping ++ creation⟩

/-- Applies the limits to the log of a target.  The answer is whether it has one. -/
def trim (s : Store) (now : Instant) (target : String) (mostLines : Nat) (maxAge : Age) :
    Outcome Store Bool :=
  match s.get? target with
  | none => ⟨s, false, []⟩
  | some log =>
    let trimmed := log.trim (maxAge.cutoff? now) mostLines
    ⟨{ s with index := s.index.update target fun _ => trimmed.1 }, true,
      if 0 < trimmed.2 then [.targetTrimmed trimmed.1.name trimmed.2 trimmed.1.size] else []⟩

/-- Applies the limits to every log.  The answer is the number of lines removed. -/
def trimAll (s : Store) (now : Instant) (mostLines : Nat) (maxAge : Age) : Outcome Store Nat :=
  let cutoff := maxAge.cutoff? now
  let evicted := s.index.tally fun log => (log.trim cutoff mostLines).2
  ⟨{ s with index := s.index.map fun log => (log.trim cutoff mostLines).1 }, evicted,
    if 0 < evicted then [.allTrimmed evicted s.index.size] else []⟩

/-- Replays what a filter selects of a target's lines.  The answer is the number of
    stored lines among those sent, and all that is sent.  Without `serverTime` a
    recipient could not tell old lines from new ones, and gets none. -/
def replay (s : Store) (now : Instant) (batchId : String) (recipient : Recipient)
    (target : String) (filter : Filter) : Outcome Store (Nat × List Sent) :=
  match s.get? target with
  | none => ⟨s, (0, []), []⟩
  | some log =>
    if recipient.serverTime then
      let lines := filter.select now log.lines
      ⟨s, (lines.length, Replay.send s.server batchId target recipient lines),
        [.targetReplayed target lines.length]⟩
    else ⟨s, (0, []), []⟩

/-- Removes the log of a target.  The answer is whether it had one. -/
def destroy (s : Store) (target : String) : Outcome Store Bool :=
  match s.index.remove target with
  | (none, _) => ⟨s, false, []⟩
  | (some log, index) => ⟨{ s with index }, true, [.targetDestroyed log.name log.size]⟩

end Store

end Backlog
