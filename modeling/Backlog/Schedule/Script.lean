import Backlog.Schedule.Tick

/-!
# Scripted callbacks

A callback written down as data: the actions that it takes, in order, each in
every run or only in certain ones.  Actions reach everything that a callback may
touch: the removal of tasks, the clock, its own run count and its payload.
-/

namespace Backlog.Script

/-- A payload that scripts can work on. -/
inductive Payload where
  | unit
  | number (n : Int64)
  | text (s : String)
deriving DecidableEq, Repr

/-- One thing a script does. -/
inductive Action where
  /-- Asks to remove the task that is running. -/
  | markSelf
  /-- Asks to remove a task. -/
  | mark (id : TaskId)
  /-- Moves the clock.  A step that the clock cannot make is not made. -/
  | advance (ms : Int)
  /-- Reads the clock. -/
  | clock
  /-- Adds to a payload that is a number, as a 64-bit word. -/
  | increase (amount : Int64)
  /-- Adds to the end of a payload that is a text. -/
  | append (s : String)
deriving DecidableEq, Repr

/-- What an action comes to. -/
inductive Result where
  | nothing
  | instant (t : Instant)
  | number (n : Int64)
  | text (s : String)
deriving DecidableEq

/-- An action and the runs that it is taken in, counted from one: all of them, or
    those of a list. -/
structure Line where
  action : Action
  runs : Option (List Nat)
deriving DecidableEq, Repr

/-- A script, and how often it has run. -/
structure Callback where
  lines : List Line
  runs : Nat
deriving DecidableEq, Repr

/-- A script that has not run. -/
def Callback.ofLines (lines : List Line) : Callback := ⟨lines, 0⟩

/-- What a running script has changed so far. -/
structure Progress where
  payload : Payload
  clock : Instant
  removals : List TaskId
  results : List Result

/-- Takes one action of the script of task `self`. -/
def Progress.take (p : Progress) (self : TaskId) : Action → Progress
  | .markSelf => { p with removals := p.removals ++ [self], results := p.results ++ [.nothing] }
  | .mark id => { p with removals := p.removals ++ [id], results := p.results ++ [.nothing] }
  | .advance ms =>
    { p with
      clock := (Clock.advance? p.clock ms).getD p.clock
      results := p.results ++ [.nothing] }
  | .clock => { p with results := p.results ++ [.instant p.clock] }
  | .increase amount =>
    match p.payload with
    | .number n =>
      { p with payload := .number (n + amount), results := p.results ++ [.number (n + amount)] }
    | _ => { p with results := p.results ++ [.nothing] }
  | .append more =>
    match p.payload with
    | .text s =>
      { p with payload := .text (s ++ more), results := p.results ++ [.text (s ++ more)] }
    | _ => { p with results := p.results ++ [.nothing] }

/-- How scripts run. -/
def behavior : Behavior Callback Payload Unit (List Result) :=
  fun callback context payload world =>
    let run := callback.runs + 1
    let active := callback.lines.filter fun line => line.runs.all (·.contains run)
    let done := active.foldl (fun (p : Progress) line => p.take context.id line.action)
      ⟨payload, world.clock, [], []⟩
    { callback := { callback with runs := run }
      payload := done.payload
      world := { world with clock := done.clock }
      removals := done.removals
      output := done.results }

end Backlog.Script
