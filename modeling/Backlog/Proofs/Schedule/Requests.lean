import Backlog.Proofs.Schedule.Ownership
import Backlog.Proofs.Time.Elapsed

/-!
# What requests do to the list of tasks

One equation for each request between ticks.  A request to add a task makes
`Scheduler.newTask?`, a request to change one does `TaskUpdate.onTask` to every task, and
the others mark tasks or take them out.  What is granted depends on the request, and not on
the other tasks; the interval of every task is 0 or within bounds, `IsInterval`.
-/

namespace Backlog

variable {κ π : Type}

/-! ## Intervals -/

/-- An interval that a task can have. -/
def IsInterval (ms : UInt64) : Prop :=
  ms = 0 ∨ Scheduler.shortestInterval ≤ ms ∧ ms.toNat ≤ Clock.longestMillis

theorem IsInterval.small {ms : UInt64} (within : IsInterval ms) : ms.toNat ≤ Clock.longestMillis := by
  rcases within with rfl | ⟨-, small⟩
  · decide
  · exact small

/-- An interval that is not 0 is over once it has passed. -/
theorem IsInterval.isOver_iff {ms : UInt64} (within : IsInterval ms) (positive : 0 < ms)
    (now earlier : Instant) :
    (ms == 0 || Clock.elapsedAtLeast now earlier ms) = true ↔
      ((ms.toNat * nanosPerMilli : Nat) : Int) ≤ now.since earlier := by
  have busy : ¬ ms = 0 := fun none => by
    rw [none] at positive
    exact absurd positive (by decide)
  rw [beq_eq_false_iff_ne.mpr busy, Bool.false_or, Clock.elapsedAtLeast_iff positive within.small]

namespace Scheduler

/-- The interval for a request of `ms` milliseconds. -/
def raised (ms : Int64) : UInt64 :=
  if ms.toInt < shortestInterval.toNat then shortestInterval else ms.toUInt64

theorem clampInterval_fst (s : Scheduler κ π) (owner : Option OwnerId) (ms : Int64) :
    (s.clampInterval owner ms).1 = raised ms := by
  unfold clampInterval raised
  split <;> rfl

/-- What an owner is told of a request for an interval, of which those from `least` on are raised
    to the shortest. -/
def statusOf (least : Int) (ms : Int64) : Status :=
  if least ≤ ms.toInt ∧ ms.toInt < 100 then .clampedInput ms.toInt 100 else .noError

theorem clampInterval_snd (s : Scheduler κ π) (owner : Option OwnerId) {least : Int} {ms : Int64}
    (above : least ≤ ms.toInt) : (s.clampInterval owner ms).2.1 = statusOf least ms := by
  have shortest : (shortestInterval.toNat : Int) = 100 := rfl
  simp only [clampInterval, statusOf, shortest, above, true_and]
  split <;> rfl

theorem isInterval_raised (ms : Int64) : IsInterval (raised ms) := by
  unfold raised
  split
  · exact .inr ⟨Nat.le_refl _, by decide⟩
  · rename_i long
    have most := Int64.toInt_lt ms
    have same : (ms.toUInt64.toNat : Int) = ms.toInt := toNat_toUInt64 (by omega)
    refine .inr ⟨?_, ?_⟩
    · rw [UInt64.le_iff_toNat_le]
      omega
    · rw [same, Clock.longestMillis]
      omega

theorem toNat_raised (ms : Int64) : ((raised ms).toNat : Int) = max 100 ms.toInt := by
  have shortest : shortestInterval.toNat = 100 := rfl
  unfold raised
  split
  · omega
  · rw [toNat_toUInt64 (by omega)]
    omega

end Scheduler

open Scheduler (raised)

/-! ## New tasks -/

namespace NewTask

/-- The task that a request makes at `now`. -/
def made (request : NewTask κ π) (id : TaskId) (remaining : Remaining) (now : Instant) : Task κ π where
  id
  name := request.name
  intervalMs := raised request.intervalMs
  remaining
  lastFiredAt := now
  callback := request.callback
  payload := request.payload
  owner := request.owner
  fireCount := 0

end NewTask

namespace Scheduler

/-- Whether a request names an owner that is not registered. -/
def isStranger (s : Scheduler κ π) (owner : Option OwnerId) : Bool :=
  owner.any fun o => (s.owner? o).isNone

theorem filter_eq_none_iff (s : Scheduler κ π) (owner : Option OwnerId) :
    (owner.filter fun o => (s.owner? o).isNone) = none ↔ s.isStranger owner = false := by
  cases owner with
  | none => simp [isStranger]
  | some o => cases found : s.owner? o <;> simp [isStranger, found]

theorem ofCount_of_checkNew {request : NewTask κ π} {remaining : Remaining}
    (checked : checkNew request = .ok remaining) :
    Remaining.ofCount request.count.toInt = .ok remaining := by
  unfold checkNew at checked
  split at checked
  · cases checked
  · split at checked
    · cases checked
    · split at checked
      · cases checked
      · cases read : Remaining.ofCount request.count.toInt with
        | error why =>
          rw [read] at checked
          cases checked
        | ok kept =>
          rw [read] at checked
          cases checked
          rfl

/-- The task that a request makes, unless its owner is unknown or something is wrong with it. -/
def newTask? (s : Scheduler κ π) (now : Instant) (request : NewTask κ π) : Option (Task κ π) :=
  if s.isStranger request.owner then none
  else (checkNew request).toOption.map fun remaining => request.made ⟨s.nextTask⟩ remaining now

/-- A request of an owner that is not registered comes to nothing. -/
theorem add_of_stranger {s : Scheduler κ π} (now : Instant) {request : NewTask κ π}
    (stranger : s.isStranger request.owner = true) :
    ∃ unknown, request.owner = some unknown ∧
      s.add now request = ⟨s, .error (.notFound (.owner unknown.number)), []⟩ := by
  have named : (request.owner.filter fun o => (s.owner? o).isNone) ≠ none := by
    rw [Ne, filter_eq_none_iff, stranger]
    simp
  obtain ⟨unknown, found⟩ := Option.ne_none_iff_exists'.mp named
  refine ⟨unknown, (Option.filter_eq_some_iff.mp found).1, ?_⟩
  rw [add, found]

/-- A request that is wrong makes no task. -/
theorem add_of_refused {s : Scheduler κ π} {now : Instant} {request : NewTask κ π} {why : Refusal}
    (known : s.isStranger request.owner = false) (refused : checkNew request = .error why) :
    s.add now request = s.reject request.owner why [] := by
  simp only [add, (filter_eq_none_iff s request.owner).mpr known, refused]

/-- A request that is not wrong makes its task, and its owner is told of the interval. -/
theorem add_of_checked (s : Scheduler κ π) (now : Instant) {request : NewTask κ π}
    {remaining : Remaining} (known : s.isStranger request.owner = false)
    (checked : checkNew request = .ok remaining) :
    (s.add now request).answer = .ok ⟨s.nextTask⟩ ∧ (s.add now request).state =
      ({ s with
        tasks := s.tasks ++ [request.made ⟨s.nextTask⟩ remaining now]
        nextTask := s.nextTask + 1 } : Scheduler κ π).updateOwner request.owner fun o =>
          { o with
            tasks := o.tasks ++ [⟨s.nextTask⟩]
            status := (s.clampInterval request.owner request.intervalMs).2.1 } := by
  simp only [add, (filter_eq_none_iff s request.owner).mpr known, checked, NewTask.made,
    ← clampInterval_fst s request.owner]
  exact ⟨trivial, trivial⟩

/-- A request to add a task makes that task, which stands last. -/
theorem add_makes (s : Scheduler κ π) (now : Instant) (request : NewTask κ π) :
    let new := s.newTask? now request
    (s.add now request).answer.toOption = new.map (·.id) ∧
      (s.add now request).state.tasks = s.tasks ++ new.toList ∧
      (s.add now request).state.nextTask = s.nextTask + new.toList.length := by
  unfold newTask?
  cases stranger : s.isStranger request.owner with
  | true =>
    obtain ⟨unknown, -, added⟩ := add_of_stranger now stranger
    rw [added]
    exact ⟨rfl, (List.append_nil _).symm, rfl⟩
  | false =>
    cases checked : checkNew request with
    | error why =>
      rw [add_of_refused stranger checked]
      exact ⟨rfl, (List.append_nil _).symm, rfl⟩
    | ok remaining =>
      obtain ⟨answer, state⟩ := s.add_of_checked now stranger checked
      rw [answer, state]
      exact ⟨rfl, rfl, rfl⟩

theorem answer_add_of_some {s : Scheduler κ π} {now : Instant} {request : NewTask κ π} {t : Task κ π}
    (new : s.newTask? now request = some t) : (s.add now request).answer = .ok t.id := by
  have answer := (s.add_makes now request).1
  rw [new] at answer
  cases told : (s.add now request).answer with
  | error why =>
    rw [told] at answer
    cases answer
  | ok id =>
    rw [told] at answer
    exact congrArg Except.ok (Option.some.inj answer)

theorem answer_add_of_none {s : Scheduler κ π} {now : Instant} {request : NewTask κ π}
    (refused : s.newTask? now request = none) : ∃ why, (s.add now request).answer = .error why := by
  have answer := (s.add_makes now request).1
  rw [refused] at answer
  cases told : (s.add now request).answer with
  | error why => exact ⟨why, rfl⟩
  | ok id =>
    rw [told] at answer
    cases answer

theorem made_of_newTask? {s : Scheduler κ π} {now : Instant} {request : NewTask κ π} {t : Task κ π}
    (new : s.newTask? now request = some t) :
    ∃ remaining, Remaining.ofCount request.count.toInt = .ok remaining ∧
      t = request.made ⟨s.nextTask⟩ remaining now := by
  unfold newTask? at new
  split at new
  · cases new
  · cases checked : checkNew request with
    | error why =>
      rw [checked] at new
      cases new
    | ok remaining =>
      rw [checked] at new
      cases new
      exact ⟨remaining, ofCount_of_checkNew checked, rfl⟩

end Scheduler

/-! ## Updates -/

namespace TaskUpdate

/-- The interval that an update is granted. -/
def interval : Option Int64 → Except Refusal (Option UInt64)
  | none => .ok none
  | some ms =>
    if ms.toInt < 0 then .error (.negativeInterval ms.toInt)
    else if ms = 0 then .ok (some 0)
    else .ok (some (raised ms))

/-- The interval and what remains that an update is granted, or the first thing that is
    wrong with it. -/
def granted (u : TaskUpdate κ π) : Except Refusal (Option UInt64 × Option Remaining) :=
  if u.isEmpty then .error .emptyUpdate
  else
    match interval u.intervalMs with
    | .error why => .error why
    | .ok ms =>
      match Scheduler.updatedRemaining u.count with
      | .error why => .error why
      | .ok remaining => if u.name = some "" then .error .emptyTaskName else .ok (ms, remaining)

/-- The task with what the update sets. -/
def applied (u : TaskUpdate κ π) (ms : Option UInt64) (remaining : Option Remaining)
    (t : Task κ π) : Task κ π :=
  { t with
    intervalMs := ms.getD t.intervalMs
    remaining := remaining.getD t.remaining
    name := u.name.getD t.name
    callback := u.callback.getD t.callback
    payload := u.payload.getD t.payload }

/-- What an update does to a task in the list of a scheduler: to that of its handle what it is
    granted, and nothing to others. -/
def onTask (u : TaskUpdate κ π) (id : TaskId) (t : Task κ π) : Task κ π :=
  if t.id = id then
    match u.granted with
    | .ok (ms, remaining) => u.applied ms remaining t
    | .error _ => t
  else t

@[simp] theorem id_onTask (u : TaskUpdate κ π) (id : TaskId) (t : Task κ π) :
    (u.onTask id t).id = t.id := by
  unfold onTask
  split
  · split <;> rfl
  · rfl

/-- What an update sets, if it is granted. -/
structure Grants (u : TaskUpdate κ π) (ms : Option UInt64) (remaining : Option Remaining) : Prop where
  sets : u.isEmpty = false
  interval : interval u.intervalMs = .ok ms
  remaining : Scheduler.updatedRemaining u.count = .ok remaining
  named : u.name ≠ some ""

theorem grants_of_granted {u : TaskUpdate κ π} {ms : Option UInt64} {remaining : Option Remaining}
    (granted : u.granted = .ok (ms, remaining)) : u.Grants ms remaining := by
  unfold TaskUpdate.granted at granted
  split at granted
  · cases granted
  · rename_i sets
    split at granted
    · cases granted
    · rename_i within
      split at granted
      · cases granted
      · rename_i counted
        split at granted
        · cases granted
        · rename_i named
          cases granted
          exact ⟨by simpa using sets, within, counted, named⟩

theorem isInterval_of_interval {asked : Option Int64} {ms : UInt64}
    (granted : interval asked = .ok (some ms)) : IsInterval ms := by
  unfold interval at granted
  split at granted
  · cases granted
  · split at granted
    · cases granted
    · split at granted
      · cases granted
        exact .inl rfl
      · cases granted
        exact Scheduler.isInterval_raised _

end TaskUpdate

namespace Scheduler

theorem updatedInterval_fst (s : Scheduler κ π) (owner : Option OwnerId) (asked : Option Int64) :
    (s.updatedInterval owner asked).map (·.1) = TaskUpdate.interval asked := by
  cases asked with
  | none => rfl
  | some ms =>
    simp only [updatedInterval, TaskUpdate.interval, ← clampInterval_fst s owner]
    split
    · rfl
    · split <;> rfl

theorem updatedInterval_snd {s : Scheduler κ π} {owner : Option OwnerId} {asked : Option Int64}
    {result : Option UInt64 × Status × List Event}
    (granted : s.updatedInterval owner asked = .ok result) :
    result.2.1 = (asked.map (statusOf 1)).getD .noError := by
  cases asked with
  | none =>
    cases granted
    rfl
  | some ms =>
    simp only [updatedInterval] at granted
    split at granted
    · cases granted
    · rename_i notBelow
      split at granted
      · -- an interval of 0 is no short one
        rename_i zero
        cases granted
        subst zero
        decide
      · rename_i busy
        have some : ms.toInt ≠ 0 := fun zero => busy (Int64.toInt_inj.mp zero)
        have above : 1 ≤ ms.toInt := by omega
        cases granted
        exact clampInterval_snd s owner above

/-- Changes the task of a handle. -/
def change (s : Scheduler κ π) (id : TaskId) (f : Task κ π → Task κ π) : Scheduler κ π :=
  { s with tasks := s.tasks.map fun t => if t.id = id then f t else t }

theorem Balanced.change_congr {s : Scheduler κ π} (balanced : s.Balanced) {task : Task κ π}
    {f g : Task κ π → Task κ π} (member : task ∈ s.tasks) (same : f task = g task) :
    s.change task.id f = s.change task.id g := by
  unfold change
  congr 1
  apply List.map_congr_left
  intro t among
  by_cases own : t.id = task.id
  · rw [if_pos own, if_pos own, balanced.unique among member own, same]
  · rw [if_neg own, if_neg own]

theorem modify_of_absent {s : Scheduler κ π} {id : TaskId} (absent : s.get? id = none)
    (u : TaskUpdate κ π) : s.modify id u = ⟨s, .error (.notFound (.task id.number)), []⟩ := by
  simp only [modify, absent]

/-- A request that is wrong changes no task. -/
theorem modify_refused {s : Scheduler κ π} {id : TaskId} {task : Task κ π}
    (found : s.get? id = some task) {u : TaskUpdate κ π} {why : Refusal}
    (refused : u.granted = .error why) :
    (s.modify id u).answer = .error (.invalidArgument why) ∧
      (s.modify id u).state = s.setStatus task.owner .invalidArgument := by
  -- the checks come in the same order in the request and in what is granted of it
  have same := updatedInterval_fst s task.owner u.intervalMs
  simp only [modify, found]
  unfold TaskUpdate.granted at refused
  rw [← same] at refused
  split at refused
  · rename_i sets
    cases refused
    rw [if_pos sets]
    exact ⟨rfl, rfl⟩
  · rename_i sets
    rw [if_neg sets]
    cases clamped : s.updatedInterval task.owner u.intervalMs with
    | error bad =>
      rw [clamped] at refused
      cases refused
      exact ⟨rfl, rfl⟩
    | ok result =>
      rw [clamped] at refused
      cases counted : updatedRemaining u.count with
      | error bad =>
        rw [counted] at refused
        cases refused
        exact ⟨rfl, rfl⟩
      | ok remaining =>
        rw [counted] at refused
        by_cases unnamed : u.name = some ""
        · simp only [Except.map, unnamed, if_true] at refused ⊢
          cases refused
          exact ⟨rfl, rfl⟩
        · simp only [Except.map, unnamed, if_false] at refused
          cases refused

/-- A request to change a task changes that task and no other. -/
theorem Balanced.modify_granted {s : Scheduler κ π} (balanced : s.Balanced) {id : TaskId}
    {task : Task κ π} (found : s.get? id = some task) {u : TaskUpdate κ π} {ms : Option UInt64}
    {remaining : Option Remaining} (granted : u.granted = .ok (ms, remaining)) :
    (s.modify id u).answer = .ok () ∧
      (s.modify id u).state = (s.change id (u.applied ms remaining)).setStatus task.owner
        ((u.intervalMs.map (statusOf 1)).getD .noError) := by
  obtain ⟨sets, within, counted, named⟩ := TaskUpdate.grants_of_granted granted
  have same := updatedInterval_fst s task.owner u.intervalMs
  have member : task ∈ s.tasks := List.mem_of_find?_eq_some found
  have own : task.id = id := by simpa using List.find?_some found
  subst own
  rw [within] at same
  simp only [modify, found, sets, counted]
  cases clamped : s.updatedInterval task.owner u.intervalMs with
  | error why =>
    rw [clamped] at same
    cases same
  | ok result =>
    rw [clamped] at same
    cases same
    rw [if_neg Bool.false_ne_true]
    dsimp only
    rw [if_neg named]
    refine ⟨rfl, ?_⟩
    -- the name that is left is that of the task, as no other task has the handle
    have renamed : s.change task.id (u.applied result.1 remaining) =
        s.change task.id fun t =>
          { u.applied result.1 remaining t with name := u.name.getD task.name } :=
      balanced.change_congr member rfl
    rw [renamed, ← updatedInterval_snd clamped]
    rfl

theorem Balanced.tasks_modify {s : Scheduler κ π} (balanced : s.Balanced) (id : TaskId)
    (u : TaskUpdate κ π) : (s.modify id u).state.tasks = s.tasks.map (u.onTask id) := by
  unfold TaskUpdate.onTask
  cases found : s.get? id with
  | none =>
    have absent : ∀ t ∈ s.tasks, t.id ≠ id := by simpa using List.find?_eq_none.mp found
    rw [modify_of_absent found, List.map_congr_left, List.map_id]
    intro t member
    rw [if_neg (absent t member), id_eq]
  | some task =>
    cases granted : u.granted with
    | error why =>
      rw [(modify_refused found granted).2]
      simp [setStatus, updateOwner]
    | ok set =>
      obtain ⟨-, state⟩ := balanced.modify_granted found granted
      rw [state]
      rfl

/-! ## Marks and removals -/

theorem tasks_markForRemoval (s : Scheduler κ π) (id : TaskId) :
    (s.markForRemoval id).state.tasks = s.tasks.map (Task.markedIf id) := by
  unfold markForRemoval
  cases found : s.get? id with
  | none =>
    have absent : ∀ t ∈ s.tasks, t.id ≠ id := by simpa using List.find?_eq_none.mp found
    rw [List.map_congr_left, List.map_id]
    intro t member
    rw [Task.markedIf, if_neg (absent t member), id_eq]
  | some task => rfl

theorem Balanced.tasks_remove {s : Scheduler κ π} (balanced : s.Balanced) (gone : TaskId) :
    (s.remove gone).state.tasks = s.tasks.filter (·.id ≠ gone) := by
  by_cases present : ∃ task ∈ s.tasks, task.id = gone
  · obtain ⟨task, member, rfl⟩ := present
    obtain ⟨place, -, removed⟩ := balanced.remove member
    rw [removed]
    simp [without]
  · have absent : ∀ task ∈ s.tasks, task.id ≠ gone := by simpa using present
    rw [remove_absent absent, eq_comm, List.filter_eq_self]
    exact fun task member => decide_eq_true (absent task member)

theorem Balanced.tasks_releaseOwner {s : Scheduler κ π} (balanced : s.Balanced) (owner : OwnerId) :
    (s.releaseOwner owner).state.tasks = s.tasks.filter (·.owner ≠ some owner) := by
  cases found : s.owner? owner with
  | none =>
    -- nothing is taken out, and there is nothing to take: owners of tasks are registered
    have free : ∀ task ∈ s.tasks, task.owner ≠ some owner := by
      intro task member owned
      have known := balanced.owned (task.id, task.owner) (List.mem_map_of_mem member) owner owned
      rw [← isSome_owner?_iff, found] at known
      cases known
    rw [releaseOwner_of_none found, eq_comm, List.filter_eq_self]
    exact fun task member => decide_eq_true (free task member)
  | some record =>
    rw [(balanced.releaseOwner (by simp [found])).1]
    exact tasks_without_handlesOf balanced owner

end Scheduler

end Backlog
