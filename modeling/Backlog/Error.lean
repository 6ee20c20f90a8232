/-!
# Errors

Why a request is refused.  Every error has a cause; `Error.kind` names its kind in
one word for machines, and `Error.message` is the whole text for people.
-/

namespace Backlog

/-- Why an argument is invalid. -/
inductive Refusal where
  /-- A task needs a name. -/
  | emptyTaskName
  /-- Intervals do not run backwards. -/
  | negativeInterval (ms : Int)
  /-- A count below what it may be here. -/
  | negativeCount (count : Int)
  /-- A count that does not fit the 32 bits it is kept in. -/
  | countTooLarge (count : Int)
  /-- A task update that sets nothing. -/
  | emptyUpdate
  /-- Registered names of history backends are unique. -/
  | duplicateBackend (name : String)
  /-- A request that carries an invalid argument, whose whole message it quotes. -/
  | quoting (why : Refusal)
  /-- Any other cause, in words. -/
  | described (reason : String)
deriving DecidableEq, Repr

/-- What could not be found. -/
inductive Missing where
  | task (number : Nat)
  | owner (number : Nat)
  | backend (name : String)
  /-- Anything else, in words. -/
  | described (what : String)
deriving DecidableEq, Repr

/-- What is wrong with a configuration or its file. -/
inductive ConfigFault where
  | unreadable
  | unparsable
  | unserializable
  | emptyServerName
  | zeroTick
  | negativeRetention
  | zeroBuckets
  /-- Anything else, in words. -/
  | described (problem : String)
deriving DecidableEq, Repr

/-- An error of the scheduler, the history or the configuration. -/
inductive Error where
  | invalidArgument (why : Refusal)
  | notFound (what : Missing)
  /-- A request that went through after its input was raised to a limit. -/
  | clampedInput (requested applied : Int)
  | config (fault : ConfigFault)
  /-- A failure of the file system, in its own words. -/
  | io (cause : String)
deriving DecidableEq, Repr

/-- What the message of an invalid argument begins with. -/
def Refusal.heading : String := "Invalid argument: "

/-- The reason in words. -/
def Refusal.reason : Refusal → String
  | emptyTaskName => "task name is empty"
  | negativeInterval ms => s!"interval {ms}ms is negative"
  | negativeCount count => s!"count {count} is negative"
  | countTooLarge count => s!"count {count} is too large"
  | emptyUpdate => "empty task update"
  | duplicateBackend name => s!"history backend '{name}' already registered"
  | quoting why => heading ++ why.reason
  | described reason => reason

/-- What is missing, in words. -/
def Missing.name : Missing → String
  | task number => s!"task-{number}"
  | owner number => s!"owner-{number}"
  | backend name => s!"history backend '{name}'"
  | described what => what

/-- The fault in words. -/
def ConfigFault.problem : ConfigFault → String
  | unreadable => "Failed to read config"
  | unparsable => "Failed to parse config"
  | unserializable => "Failed to serialize config"
  | emptyServerName => "server_name must not be empty"
  | zeroTick => "scheduler.tick_ms must be positive"
  | negativeRetention => "history.retention_every_ms must not be negative"
  | zeroBuckets => "history.hash_buckets must be positive"
  | described problem => problem

namespace Error

/-- The kind of the error in one word. -/
def kind : Error → String
  | invalidArgument _ => "invalid_argument"
  | notFound _ => "not_found"
  | clampedInput _ _ => "clamped_input"
  | config _ => "config"
  | io _ => "io"

/-- The error in words. -/
def message : Error → String
  | invalidArgument why => Refusal.heading ++ why.reason
  | notFound what => "Not found: " ++ what.name
  | clampedInput requested applied => s!"Input clamped: requested {requested}, applied {applied}"
  | config fault => "Config error: " ++ fault.problem
  | io cause => "IO error: " ++ cause

end Error

end Backlog
