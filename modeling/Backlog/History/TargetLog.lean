import Backlog.History.Line

/-!
# The log of a target

The lines of one target, a channel or a person, in the order in which they
arrived, which need not be the order of their timestamps.  A log keeps its number
of lines and its oldest timestamp at hand, so that a sweep with nothing to remove
looks at no line.
-/

namespace Backlog

/-- The lines of a target, with their number and oldest timestamp kept beside
    them. -/
structure TargetLog where
  /-- The name as it was first spelled. -/
  name : String
  /-- In order of arrival. -/
  lines : List Line
  count : Nat
  oldest : Option Instant
deriving DecidableEq

namespace TargetLog

/-- The earlier of a timestamp and the oldest so far. -/
def earlier (oldest : Option Instant) (t : Instant) : Option Instant :=
  match oldest with
  | none => some t
  | some o => if t < o then some t else some o

/-- The oldest timestamp of lines. -/
def oldestOf (lines : List Line) : Option Instant :=
  lines.foldl (fun oldest line => earlier oldest line.timestamp) none

/-- A log without lines. -/
def empty (name : String) : TargetLog :=
  ⟨name, [], 0, none⟩

/-- The number of lines. -/
def size (l : TargetLog) : Nat := l.count

/-- Whether there are no lines. -/
def isEmpty (l : TargetLog) : Bool := l.count == 0

/-- The log with a line more. -/
def append (l : TargetLog) (line : Line) : TargetLog :=
  { l with
    lines := l.lines ++ [line]
    count := l.count + 1
    oldest := earlier l.oldest line.timestamp }

/-- Removes the lines stamped before `cutoff`.  The answer is their number.  While
    the oldest timestamp is not before it, no line is looked at. -/
def evictBefore (l : TargetLog) (cutoff : Instant) : TargetLog × Nat :=
  if l.oldest.any (· < cutoff) then
    let kept := l.lines.filter fun line => !decide (line.timestamp < cutoff)
    ({ l with lines := kept, count := kept.length, oldest := oldestOf kept },
      l.lines.length - kept.length)
  else (l, 0)

/-- Takes lines off the front while more than `most` are counted.  The answer is what
    is left, its number, and how many lines are off. -/
def unlinkOver (most : Nat) : List Line → Nat → List Line × Nat × Nat
  | [], count => ([], count, 0)
  | line :: rest, count =>
    if most < count then
      let (left, count, unlinked) := unlinkOver most rest (count - 1)
      (left, count, unlinked + 1)
    else (line :: rest, count, 0)

/-- Removes lines from the front until at most `most` are left.  The answer is
    their number.  The oldest timestamp is looked for once, when all are off. -/
def truncate (l : TargetLog) (most : Nat) : TargetLog × Nat :=
  let (left, count, excess) := unlinkOver most l.lines l.count
  if excess = 0 then (l, 0)
  else ({ l with lines := left, count, oldest := oldestOf left }, excess)

/-- Applies the age limit, if there is one, and then the line limit.  The answer is
    the number of lines removed. -/
def trim (l : TargetLog) (cutoff : Option Instant) (most : Nat) : TargetLog × Nat :=
  let (young, stale) := (cutoff.map l.evictBefore).getD (l, 0)
  let (short, excess) := young.truncate most
  (short, stale + excess)

end TargetLog

end Backlog
