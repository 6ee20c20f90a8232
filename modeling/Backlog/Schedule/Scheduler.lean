import Backlog.Log
import Backlog.Schedule.Task

/-!
# Schedulers and requests to them

A scheduler holds tasks in the order in which they were added, and the owners that
may add them.  An owner knows its tasks and the outcome of its last request.  This
module has the requests: to register and release owners, and to add, change, mark
and remove tasks.  Running the tasks is `Backlog.Schedule.Tick`.
-/

namespace Backlog

/-- The outcome of an owner's last request. -/
inductive Status where
  | noError
  | invalidArgument
  | notFound
  /-- The request went through after its interval was raised. -/
  | clampedInput (requested applied : Int)
deriving DecidableEq, Repr

/-- A registered owner of tasks. -/
structure Owner where
  id : OwnerId
  name : String
  status : Status
  /-- Its tasks, oldest first. -/
  tasks : List TaskId
deriving DecidableEq, Repr

/-- A scheduler with its tasks and owners, and the numbers it gives out next. -/
structure Scheduler (κ π : Type) where
  tasks : List (Task κ π)
  owners : List Owner
  /-- The number of the next task, taken to stay below 2 ^ 64. -/
  nextTask : Nat
  /-- The number of the next owner, taken to stay below 2 ^ 32. -/
  nextOwner : Nat

/-- A request to add a task. -/
structure NewTask (κ π : Type) where
  owner : Option OwnerId
  name : String
  callback : κ
  payload : π
  intervalMs : Int64
  /-- How often it is to run; 0 is forever. -/
  count : Int64

/-- A request to change a task.  What is not set stays as it is. -/
structure TaskUpdate (κ π : Type) where
  intervalMs : Option Int64 := none
  count : Option Int64 := none
  name : Option String := none
  callback : Option κ := none
  payload : Option π := none

namespace TaskUpdate

variable {κ π : Type}

/-- Whether the update sets nothing. -/
def isEmpty (u : TaskUpdate κ π) : Bool :=
  u.intervalMs.isNone && u.count.isNone && u.name.isNone && u.callback.isNone && u.payload.isNone

end TaskUpdate

namespace Scheduler

variable {κ π : Type}

/-- The shortest interval of a new task, in milliseconds. -/
def shortestInterval : UInt64 := 100

/-- A scheduler without tasks and owners. -/
def empty : Scheduler κ π :=
  ⟨[], [], 1, 1⟩

/-! ## Looking things up -/

/-- The owner of a handle. -/
def owner? (s : Scheduler κ π) (id : OwnerId) : Option Owner :=
  s.owners.find? (·.id = id)

/-- The outcome of an owner's last request. -/
def ownerStatus? (s : Scheduler κ π) (id : OwnerId) : Option Status :=
  (s.owner? id).map (·.status)

/-- The tasks of an owner, oldest first; none for an unknown owner. -/
def ownerTasks (s : Scheduler κ π) (id : OwnerId) : List TaskId :=
  ((s.owner? id).map (·.tasks)).getD []

/-- The task of a handle. -/
def get? (s : Scheduler κ π) (id : TaskId) : Option (Task κ π) :=
  s.tasks.find? (·.id = id)

/-- The place of a task in the list. -/
def position? (s : Scheduler κ π) (id : TaskId) : Option Nat :=
  s.tasks.findIdx? (·.id = id)

/-- The first task of a name. -/
def find? (s : Scheduler κ π) (name : String) : Option TaskId :=
  (s.tasks.find? (·.name = name)).map (·.id)

/-- How many tasks there are. -/
def size (s : Scheduler κ π) : Nat :=
  s.tasks.length

/-- Whether there are none. -/
def isEmpty (s : Scheduler κ π) : Bool :=
  s.tasks.isEmpty

/-! ## Owners -/

/-- Registers an owner. -/
def registerOwner (s : Scheduler κ π) (name : String) : OwnerId × Scheduler κ π :=
  let id : OwnerId := ⟨s.nextOwner⟩
  (id, { s with
    owners := s.owners ++ [⟨id, name, .noError, []⟩]
    nextOwner := s.nextOwner + 1 })

/-- Changes the record of one owner. -/
def updateOwner (s : Scheduler κ π) (owner : Option OwnerId) (f : Owner → Owner) : Scheduler κ π :=
  { s with owners := s.owners.map fun o => if owner = some o.id then f o else o }

/-- The name by which the log calls an owner. -/
def ownerName (s : Scheduler κ π) (owner : Option OwnerId) : String :=
  ((owner.bind s.owner?).map (·.name)).getD "???"

/-- Notes the outcome of an owner's request. -/
def setStatus (s : Scheduler κ π) (owner : Option OwnerId) (status : Status) : Scheduler κ π :=
  s.updateOwner owner ({ · with status })

/-! ## Removing -/

/-- Takes the task at `place` out of the list and out of its owner's tasks. -/
def unlink (s : Scheduler κ π) (place : Nat) : Scheduler κ π :=
  match s.tasks[place]? with
  | none => s
  | some task =>
    ({ s with tasks := s.tasks.eraseIdx place }).updateOwner task.owner
      fun o => { o with tasks := o.tasks.erase task.id }

/-- Marks a task: it leaves the list at the next visit, and runs no more. -/
def mark (s : Scheduler κ π) (id : TaskId) : Scheduler κ π :=
  { s with tasks := s.tasks.map (Task.markedIf id) }

/-- Marks a task, which has to be in the list. -/
def markForRemoval (s : Scheduler κ π) (id : TaskId) :
    Outcome (Scheduler κ π) (Except Error Unit) :=
  match s.get? id with
  | none => ⟨s, .error (.notFound (.task id.number)), []⟩
  | some _ => ⟨s.mark id, .ok (), []⟩

/-- Removes a task at once.  The answer is the task that followed it. -/
def remove (s : Scheduler κ π) (id : TaskId) :
    Outcome (Scheduler κ π) (Except Error (Option TaskId)) :=
  match s.position? id, s.get? id with
  | some place, some task =>
    let left := s.unlink place
    ⟨left, .ok (left.tasks[place]?.map (·.id)), [.taskRemoved task.name id.number]⟩
  | _, _ => ⟨s, .error (.notFound (.task id.number)), []⟩

/-- Removes tasks one after the other.  The answer is how many were there. -/
def removeAll (s : Scheduler κ π) : List TaskId → Outcome (Scheduler κ π) Nat
  | [] => ⟨s, 0, []⟩
  | id :: ids =>
    let one := s.remove id
    let others := one.state.removeAll ids
    ⟨others.state, (if one.answer.isOk then 1 else 0) + others.answer, one.log ++ others.log⟩

/-- Removes an owner with all its tasks.  The answer is how many tasks it had. -/
def releaseOwner (s : Scheduler κ π) (id : OwnerId) : Outcome (Scheduler κ π) Nat :=
  let cleared := s.removeAll (s.ownerTasks id)
  match cleared.state.owner? id with
  | none => cleared
  | some owner =>
    ⟨{ cleared.state with owners := cleared.state.owners.filter (·.id ≠ id) }, cleared.answer,
      cleared.log ++ [.ownerReleased owner.name cleared.answer]⟩

/-! ## Adding and changing -/

/-- Refuses a request of an owner, who is told so. -/
def reject {α : Type} (s : Scheduler κ π) (owner : Option OwnerId) (why : Refusal)
    (log : List Event) : Outcome (Scheduler κ π) (Except Error α) :=
  ⟨s.setStatus owner .invalidArgument, .error (.invalidArgument why),
    log ++ [.requestRejected (s.ownerName owner) why.reason]⟩

/-- The interval that a request gets, its outcome so far, and what the log says
    when the interval had to be raised. -/
def clampInterval (s : Scheduler κ π) (owner : Option OwnerId) (requested : Int64) :
    UInt64 × Status × List Event :=
  if requested.toInt < shortestInterval.toNat then
    (shortestInterval, .clampedInput requested.toInt shortestInterval.toNat,
      [.intervalRaised (s.ownerName owner) requested.toInt shortestInterval.toNat])
  else (requested.toUInt64, .noError, [])

/-- What is wrong with a request to add a task, if anything is; otherwise how
    often it is to run. -/
def checkNew (request : NewTask κ π) : Except Refusal Remaining :=
  if request.name = "" then .error .emptyTaskName
  else if request.intervalMs.toInt < 0 then .error (.negativeInterval request.intervalMs.toInt)
  else if request.count.toInt < 0 then .error (.negativeCount request.count.toInt)
  else (Remaining.ofCount request.count.toInt).mapError .quoting

/-- Adds a task at the end of the list.  An interval that is too short is raised,
    and the owner is told. -/
def add (s : Scheduler κ π) (now : Instant) (request : NewTask κ π) :
    Outcome (Scheduler κ π) (Except Error TaskId) :=
  match request.owner.filter fun o => (s.owner? o).isNone with
  | some unknown => ⟨s, .error (.notFound (.owner unknown.number)), []⟩
  | none =>
    match checkNew request with
    | .error why => s.reject request.owner why []
    | .ok remaining =>
      let (intervalMs, status, raised) := s.clampInterval request.owner request.intervalMs
      let id : TaskId := ⟨s.nextTask⟩
      let task : Task κ π :=
        { id, name := request.name, intervalMs, remaining, lastFiredAt := now,
          callback := request.callback, payload := request.payload, owner := request.owner,
          fireCount := 0 }
      let added : Scheduler κ π := { s with tasks := s.tasks ++ [task], nextTask := s.nextTask + 1 }
      ⟨added.updateOwner request.owner fun o => { o with tasks := o.tasks ++ [id], status },
        .ok id, raised ++ [.taskAdded request.name id.number intervalMs.toNat]⟩

/-- The interval that an update asks for and gets.  Here 0 is an interval too: the
    task then runs in every tick. -/
def updatedInterval (s : Scheduler κ π) (owner : Option OwnerId) :
    Option Int64 → Except Refusal (Option UInt64 × Status × List Event)
  | none => .ok (none, .noError, [])
  | some ms =>
    if ms.toInt < 0 then .error (.negativeInterval ms.toInt)
    else if ms = 0 then .ok (some 0, .noError, [])
    else
      let (applied, status, raised) := s.clampInterval owner ms
      .ok (some applied, status, raised)

/-- What an update makes remain. -/
def updatedRemaining : Option Int64 → Except Refusal (Option Remaining)
  | none => .ok none
  | some count => ((Remaining.ofCount count.toInt).map some).mapError .quoting

/-- Changes what the update sets of a task, or nothing where one of its fields is
    invalid. -/
def modify (s : Scheduler κ π) (id : TaskId) (update : TaskUpdate κ π) :
    Outcome (Scheduler κ π) (Except Error Unit) :=
  match s.get? id with
  | none => ⟨s, .error (.notFound (.task id.number)), []⟩
  | some task =>
    if update.isEmpty then s.reject task.owner .emptyUpdate []
    else
      match s.updatedInterval task.owner update.intervalMs with
      | .error why => s.reject task.owner why []
      | .ok (intervalMs, status, raised) =>
        match updatedRemaining update.count with
        | .error why => s.reject task.owner why raised
        | .ok remaining =>
          if update.name = some "" then s.reject task.owner .emptyTaskName raised
          else
            let name := update.name.getD task.name
            let changed (t : Task κ π) : Task κ π :=
              if t.id = id then
                { t with
                  intervalMs := intervalMs.getD t.intervalMs
                  remaining := remaining.getD t.remaining
                  name
                  callback := update.callback.getD t.callback
                  payload := update.payload.getD t.payload }
              else t
            ⟨({ s with tasks := s.tasks.map changed }).setStatus task.owner status, .ok (),
              raised ++ [.taskModified name id.number]⟩

end Scheduler

end Backlog
