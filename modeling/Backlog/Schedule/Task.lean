import Backlog.Error
import Backlog.Time.Clock

/-!
# Tasks

A task is work that a scheduler repeats: a callback with its payload, an interval
and how often it still runs.  The scheduler knows nothing of either: `κ` is the
type of callbacks, each with the state that it keeps, and `π` the type of payloads.
A `Behavior` says what running a callback does.
-/

namespace Backlog

/-- The handle of a task.  Its number is a 64-bit word, which is taken never to run
    over. -/
structure TaskId where
  number : Nat
deriving DecidableEq, Repr

/-- The handle of an owner of tasks.  Its number is a 32-bit word, which is taken never
    to run over: fewer than 4294967295 owners are registered. -/
structure OwnerId where
  number : Nat
deriving DecidableEq, Repr

/-- How many more times a task runs. -/
inductive Remaining where
  /-- Not any more: it leaves the list at the next visit. -/
  | pendingRemoval
  /-- Until it is removed. -/
  | forever
  /-- This many times, and then it leaves the list. -/
  | times (n : Nat)
deriving DecidableEq, Repr

namespace Remaining

/-- The largest count that is kept. -/
def mostTimes : Int := 4294967295

/-- Reads a count: -1 is pending removal, 0 is forever, and a positive number is
    that many times. -/
def ofCount (count : Int) : Except Refusal Remaining :=
  if count = -1 then .ok .pendingRemoval
  else if count = 0 then .ok .forever
  else if count < 0 then .error (.negativeCount count)
  else if mostTimes < count then .error (.countTooLarge count)
  else .ok (.times count.toNat)

/-- The count that stands for what remains. -/
def toCount : Remaining → Int
  | pendingRemoval => -1
  | forever => 0
  | times n => n

/-- What remains in one word. -/
def kind : Remaining → String
  | pendingRemoval => "pending_removal"
  | forever => "forever"
  | times _ => "times"

end Remaining

/-- A task in the list of a scheduler. -/
structure Task (κ π : Type) where
  id : TaskId
  name : String
  /-- Milliseconds between two runs at least; with 0 it runs in every tick. -/
  intervalMs : UInt64
  remaining : Remaining
  /-- When it last ran, or was made. -/
  lastFiredAt : Instant
  callback : κ
  payload : π
  owner : Option OwnerId
  /-- How often it has run, in a 64-bit word that is taken never to run over. -/
  fireCount : Nat

namespace Task

variable {κ π : Type}

/-- Whether the task is only waiting to leave the list. -/
def isPendingRemoval (t : Task κ π) : Bool :=
  t.remaining = .pendingRemoval

/-- Whether the task is to run when the clock shows `now`. -/
def isDue (t : Task κ π) (now : Instant) : Bool :=
  t.intervalMs == 0 || Clock.elapsedAtLeast now t.lastFiredAt t.intervalMs

/-- The task with nothing remaining. -/
def marked (t : Task κ π) : Task κ π :=
  { t with remaining := .pendingRemoval }

/-- The task if it has the given handle, with nothing remaining; any other task
    as it is. -/
def markedIf (id : TaskId) (t : Task κ π) : Task κ π :=
  if t.id = id then t.marked else t

end Task

/-! ## Callbacks -/

/-- What a callback is told. -/
structure Context where
  id : TaskId
  name : String
  /-- When the tick that runs it began. -/
  now : Instant

/-- What callbacks share: the clock, and whatever else `σ` they act on. -/
structure World (σ : Type) where
  clock : Instant
  shared : σ

/-- What a run of a callback leaves behind. -/
structure Reaction (κ π σ ε : Type) where
  /-- The callback, with its own state moved on. -/
  callback : κ
  payload : π
  world : World σ
  /-- The tasks it asks to remove, which may be itself or no tasks at all. -/
  removals : List TaskId
  output : ε

/-- What running a callback does. -/
abbrev Behavior (κ π σ ε : Type) : Type :=
  κ → Context → π → World σ → Reaction κ π σ ε

end Backlog
