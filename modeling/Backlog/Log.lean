import Backlog.Text.Terminal
import Backlog.Time.Fields

/-!
# The log

What the library reports while it works.  Operations return the events that they
emit, in order; `Event.level`, `Event.source` and `Event.message` say how loud an
event is, who reports it and in which words.  Nothing is decided by an event.
-/

namespace Backlog

/-- How loud an event is, from the quietest to the loudest. -/
inductive Level where
  | trace
  | debug
  | info
  | warn
  | error
deriving DecidableEq, Repr

/-- The level's name in a log line. -/
def Level.name : Level → String
  | trace => "TRACE"
  | debug => "DEBUG"
  | info => "INFO"
  | warn => "WARN"
  | error => "ERROR"

/-- How much has to be shown for the level to be: errors show first. -/
def Level.verbosity : Level → Nat
  | error => 1
  | warn => 2
  | info => 3
  | debug => 4
  | trace => 5

/-- Something worth a line in the log. -/
inductive Event where
  -- the scheduler
  | taskAdded (name : String) (task : Nat) (intervalMs : Nat)
  | taskModified (name : String) (task : Nat)
  | taskFired (name : String) (task : Nat)
  | taskRemoved (name : String) (task : Nat)
  | intervalRaised (owner : String) (requested applied : Int)
  | requestRejected (owner : String) (reason : String)
  | ownerReleased (name : String) (tasks : Nat)
  -- the history
  | unparsableTime (value : String)
  | targetCreated (name : String)
  | targetTrimmed (name : String) (evicted left : Nat)
  | allTrimmed (evicted targets : Nat)
  | targetReplayed (name : String) (lines : Nat)
  | targetDestroyed (name : String) (lines : Nat)
  | backendRegistered (name : String)
  -- the daemon
  | retentionEvicted (lines : Nat)
  | heartbeat (beats : Nat) (moment : Instant) (targets lines : Nat)
  | ticked (fired removed scheduled : Nat)
  | stopped (tasks : Nat)
  -- the command line
  | starting (server : String)
  | historySettings (backend : String) (maxLines maxAgeSecs : Nat)
  | interrupted
  | summary (tasks lines targets : Nat)
deriving DecidableEq

namespace Event

/-- How loud the event is. -/
def level : Event → Level
  | taskFired _ _ | ticked _ _ _ => .trace
  | taskModified _ _ | unparsableTime _ | targetCreated _ | targetTrimmed _ _ _
  | allTrimmed _ _ | targetReplayed _ _ | heartbeat _ _ _ _ => .debug
  | intervalRaised _ _ _ | requestRejected _ _ => .warn
  | _ => .info

/-- Who reports the event: the path that a log filter selects it by. -/
def source : Event → String
  | taskAdded _ _ _ | taskModified _ _ | taskFired _ _ | taskRemoved _ _
  | intervalRaised _ _ _ | requestRejected _ _ | ownerReleased _ _ =>
    "chatrelay_scheduler::engine"
  | unparsableTime _ => "chatrelay_history::log"
  | targetCreated _ => "chatrelay_history::index"
  | targetTrimmed _ _ _ | allTrimmed _ _ | targetReplayed _ _ | targetDestroyed _ _ =>
    "chatrelay_history::memory"
  | backendRegistered _ => "chatrelay_history::backend"
  | retentionEvicted _ | heartbeat _ _ _ _ | ticked _ _ _ | stopped _ => "chatrelayd::daemon"
  | starting _ | historySettings _ _ _ | interrupted | summary _ _ _ => "chatrelayd"

/-- The event in words. -/
def message : Event → String
  | taskAdded name task ms => s!"📅 Task added: '{name}' (task-{task}, every {ms}ms)"
  | taskModified name task => s!"✏️ Task modified: '{name}' (task-{task})"
  | taskFired name task => s!"🔔 Task fired: '{name}' (task-{task})"
  | taskRemoved name task => s!"🗑️ Task removed: '{name}' (task-{task})"
  | intervalRaised owner requested applied =>
    s!"⚠️ Task interval from {owner} is suspiciously low ({requested}ms), raised to {applied}ms"
  | requestRejected owner reason => s!"⚠️ Task request from {owner} rejected: {reason}"
  | ownerReleased name tasks => s!"👋 Owner released: '{name}' ({tasks} tasks)"
  | unparsableTime value => s!"Unparseable time tag '{value}', stamping with now"
  | targetCreated name => s!"📜 History object created: {name}"
  | targetTrimmed name evicted left =>
    s!"🧹 History {name}: evicted {evicted} lines, {left} left"
  | allTrimmed evicted targets =>
    s!"🧹 History sweep: evicted {evicted} lines across {targets} targets"
  | targetReplayed name lines => s!"📤 Replayed {lines} lines of {name}"
  | targetDestroyed name lines => s!"🗑️ History destroyed: {name} ({lines} lines)"
  | backendRegistered name => s!"📚 History backend registered: {name}"
  | retentionEvicted lines => s!"🧹 Retention sweep evicted {lines} lines"
  | heartbeat beats moment targets lines =>
    let clock := String.ofList moment.clockText
    s!"💓 Heartbeat #{beats} at {clock}: {targets} targets, {lines} lines"
  | ticked fired removed scheduled =>
    s!"⏱️ Tick: {fired} fired, {removed} removed, {scheduled} scheduled"
  | stopped tasks => s!"🛑 Daemon stopped, {tasks} tasks released"
  | starting server => s!"💬 ChatRelay starting as {server}"
  | historySettings backend maxLines maxAgeSecs =>
    s!"   History: backend={backend}, max_lines={maxLines}, max_age={maxAgeSecs}s"
  | interrupted => "Ctrl-C received"
  | summary tasks lines targets =>
    s!"📊 {tasks} tasks scheduled, history holds {lines} lines across {targets} targets"

/-- The event as a line of the log, without its time. -/
def line (e : Event) : String :=
  e.level.name ++ " " ++ Text.disarm e.message

end Event

/-- What an operation on a `σ` leaves behind, answers and reports. -/
structure Outcome (σ α : Type) where
  state : σ
  answer : α
  log : List Event := []

end Backlog
