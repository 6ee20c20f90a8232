import Backlog.Schedule.Scheduler

/-!
# Ticks

A tick walks once through the tasks of a scheduler.  It drops the tasks that are
pending removal and runs the ones that are due.  A cursor marks the place of the
walk; when the task under it is dropped, the cursor stands on the follower, so
that none is skipped and none visited twice.
-/

namespace Backlog

/-- Something that happened on a walk, in order. -/
inductive Visit (ε : Type) where
  /-- A task ran, in the tick that began at `now`; the clock showed `clock` when its
      callback was called, which put out `output`. -/
  | fired (id : TaskId) (name : String) (now clock : Instant) (output : ε)
  /-- A task left the list. -/
  | dropped (id : TaskId) (name : String)

namespace Visit

variable {ε : Type}

/-- Whether a task ran. -/
def isFired : Visit ε → Bool
  | fired _ _ _ _ _ => true
  | dropped _ _ => false

/-- What the log says of it, where `report` is what it says of a callback's
    output. -/
def log (report : ε → List Event) : Visit ε → List Event
  | fired id name _ _ output => .taskFired name id.number :: report output
  | dropped id name => [.taskRemoved name id.number]

end Visit

/-- What a tick did, in numbers. -/
structure TickReport where
  fired : Nat
  removed : Nat
deriving DecidableEq, Repr

/-- The numbers of a walk. -/
def TickReport.ofVisits {ε : Type} (visits : List (Visit ε)) : TickReport :=
  ⟨visits.countP (·.isFired), visits.countP (!·.isFired)⟩

/-- What a tick leaves behind: the scheduler, the world, and what happened. -/
structure TickResult (κ π σ ε : Type) where
  scheduler : Scheduler κ π
  world : World σ
  visits : List (Visit ε)

/-- The result with `visits` before its own. -/
def TickResult.after {κ π σ ε : Type} (r : TickResult κ π σ ε) (visits : List (Visit ε)) :
    TickResult κ π σ ε :=
  { r with visits := visits ++ r.visits }

/-- The numbers of a tick. -/
def TickResult.report {κ π σ ε : Type} (r : TickResult κ π σ ε) : TickReport :=
  .ofVisits r.visits

namespace Scheduler

variable {κ π σ ε : Type}

/-- Puts a task at a place in the list. -/
def replace (s : Scheduler κ π) (place : Nat) (task : Task κ π) : Scheduler κ π :=
  { s with tasks := s.tasks.set place task }

/-- Marks tasks one after the other. -/
def markAll (s : Scheduler κ π) (ids : List TaskId) : Scheduler κ π :=
  ids.foldl mark s

/-- The task after a run of its callback. -/
def ran (task : Task κ π) (now : Instant) (reaction : Reaction κ π σ ε) : Task κ π :=
  { task with
    callback := reaction.callback
    payload := reaction.payload
    lastFiredAt := now
    fireCount := task.fireCount + 1 }

/-- Runs a callback at a place and grants the removals that it asks for. -/
def fire (s : Scheduler κ π) (place : Nat) (task : Task κ π) (now : Instant)
    (reaction : Reaction κ π σ ε) : Scheduler κ π :=
  (s.replace place (ran task now reaction)).markAll reaction.removals

theorem length_tasks_unlink (s : Scheduler κ π) (place : Nat) (h : place < s.tasks.length) :
    (s.unlink place).tasks.length = s.tasks.length - 1 := by
  simp [unlink, h, updateOwner, List.length_eraseIdx]

theorem length_tasks_markAll (s : Scheduler κ π) (ids : List TaskId) :
    (s.markAll ids).tasks.length = s.tasks.length := by
  induction ids generalizing s with
  | nil => rfl
  | cons id ids ih =>
    show ((s.mark id).markAll ids).tasks.length = s.tasks.length
    rw [ih]; simp [mark]

theorem length_tasks_fire (s : Scheduler κ π) (place : Nat) (task : Task κ π) (now : Instant)
    (reaction : Reaction κ π σ ε) :
    (s.fire place task now reaction).tasks.length = s.tasks.length := by
  simp [fire, length_tasks_markAll, replace]

/-- A walk under way: the cursor, and what the tick has come to so far. -/
structure Walk (κ π σ ε : Type) where
  cursor : Nat
  scheduler : Scheduler κ π
  world : World σ
  visits : List (Visit ε)

/-- How many tasks a walk has before it. -/
def Walk.left (w : Walk κ π σ ε) : Nat :=
  w.scheduler.tasks.length - w.cursor

/-- What becomes of a task after its run, where `s` has the removals granted: its
    last run drops it, and otherwise one run less remains.  A task whose removal
    was asked for stays in the list, pending. -/
def settle (s : Scheduler κ π) (cursor : Nat) (world : World σ) (visit : Visit ε) :
    Walk κ π σ ε :=
  match s.tasks[cursor]? with
  | some task =>
    match task.remaining with
    | .times n =>
      if n ≤ 1 then ⟨cursor, s.unlink cursor, world, [visit, .dropped task.id task.name]⟩
      else ⟨cursor + 1, s.replace cursor { task with remaining := .times (n - 1) }, world, [visit]⟩
    | _ => ⟨cursor + 1, s, world, [visit]⟩
  | none => ⟨cursor + 1, s, world, [visit]⟩

/-- Visits the task under the cursor, in the tick that began at `now`. -/
def visit (behavior : Behavior κ π σ ε) (now : Instant) (cursor : Nat) (task : Task κ π)
    (s : Scheduler κ π) (world : World σ) : Walk κ π σ ε :=
  if task.isPendingRemoval then
    ⟨cursor, s.unlink cursor, world, [.dropped task.id task.name]⟩
  else if task.isDue world.clock then
    let reaction := behavior task.callback ⟨task.id, task.name, now⟩ task.payload world
    (s.fire cursor task now reaction).settle cursor reaction.world
      (.fired task.id task.name now world.clock reaction.output)
  else ⟨cursor + 1, s, world, []⟩

theorem left_settle_lt (s : Scheduler κ π) (cursor : Nat) (world : World σ) (visit : Visit ε)
    (h : cursor < s.tasks.length) :
    (s.settle cursor world visit).left < s.tasks.length - cursor := by
  have hunlink := length_tasks_unlink s cursor h
  unfold settle
  split
  · split
    · split
      · simp only [Walk.left]; omega
      · simp only [Walk.left, replace, List.length_set]; omega
    · simp only [Walk.left]; omega
  · simp only [Walk.left]; omega

/-- A visit brings the end of the list nearer. -/
theorem left_visit_lt (behavior : Behavior κ π σ ε) (now : Instant) (cursor : Nat)
    (task : Task κ π) (s : Scheduler κ π) (world : World σ) (h : cursor < s.tasks.length) :
    (visit behavior now cursor task s world).left < s.tasks.length - cursor := by
  have hunlink := length_tasks_unlink s cursor h
  unfold visit
  split
  · simp only [Walk.left]; omega
  · split
    · refine Nat.lt_of_lt_of_eq (left_settle_lt _ cursor _ _ ?_) ?_
      · rw [length_tasks_fire]; exact h
      · rw [length_tasks_fire]
    · simp only [Walk.left]; omega

/-- Walks on from the cursor, in the tick that began at `now`. -/
def walk (behavior : Behavior κ π σ ε) (now : Instant) (cursor : Nat) (s : Scheduler κ π)
    (world : World σ) : TickResult κ π σ ε :=
  if h : cursor < s.tasks.length then
    let next := visit behavior now cursor s.tasks[cursor] s world
    (walk behavior now next.cursor next.scheduler next.world).after next.visits
  else ⟨s, world, []⟩
termination_by s.tasks.length - cursor
decreasing_by exact left_visit_lt behavior now cursor s.tasks[cursor] s world h

/-- One tick: a walk through the whole list. -/
def tick (behavior : Behavior κ π σ ε) (s : Scheduler κ π) (world : World σ) :
    TickResult κ π σ ε :=
  walk behavior world.clock 0 s world

end Scheduler

end Backlog
