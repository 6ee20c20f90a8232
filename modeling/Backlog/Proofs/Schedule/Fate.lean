import Backlog.Proofs.Schedule.Handles
import Backlog.Proofs.Schedule.Requests

/-!
# What becomes of one task

The task of a handle after each request, `Scheduler.get?`, from the task of that handle
before it.  In a tick the task has at most one stop, and `Stop.Goes` says how that may
go: the task leaves without a run, it waits, or it runs.
-/

namespace Backlog

variable {κ π σ ε : Type}

namespace Scheduler

variable {s : Scheduler κ π} {id : TaskId}

theorem get?_congr {s' : Scheduler κ π} (same : s'.tasks = s.tasks) (id : TaskId) :
    s'.get? id = s.get? id := by
  rw [get?, get?, same]

theorem id_of_get? {task : Task κ π} (found : s.get? id = some task) : task.id = id := by
  simpa using List.find?_some found

theorem mem_of_get? {task : Task κ π} (found : s.get? id = some task) : task ∈ s.tasks :=
  List.mem_of_find?_eq_some found

theorem Balanced.get?_eq_some_iff (balanced : s.Balanced) {task : Task κ π} :
    s.get? id = some task ↔ task ∈ s.tasks ∧ task.id = id := by
  constructor
  · exact fun found => ⟨mem_of_get? found, id_of_get? found⟩
  · rintro ⟨member, rfl⟩
    exact balanced.get? member

theorem Balanced.issued_of_get? (balanced : s.Balanced) {task : Task κ π}
    (found : s.get? id = some task) : id.number < s.nextTask := by
  rw [← id_of_get? found]
  exact balanced.issued (task.id, task.owner) (List.mem_map_of_mem (mem_of_get? found))

theorem Balanced.get?_next (balanced : s.Balanced) : s.get? ⟨s.nextTask⟩ = none := by
  rw [Option.eq_none_iff_forall_ne_some]
  intro task found
  exact Nat.lt_irrefl _ (balanced.issued_of_get? found)

theorem find?_ne_of_get?_eq_none (absent : s.get? id = none) (name : String) :
    s.find? name ≠ some id := by
  intro found
  obtain ⟨task, first, rfl⟩ := Option.map_eq_some_iff.mp found
  have other := List.find?_eq_none.mp absent task (List.mem_of_find?_eq_some first)
  simp at other

/-! ## Requests -/

theorem get?_mapTasks {s' : Scheduler κ π} {f : Task κ π → Task κ π} (ids : ∀ t, (f t).id = t.id)
    (changed : s'.tasks = s.tasks.map f) (id : TaskId) : s'.get? id = (s.get? id).map f := by
  rw [get?, get?, changed, List.find?_map]
  simp only [Function.comp_def, ids]

/-- A change of the one task of a handle. -/
theorem get?_changed {s' : Scheduler κ π} {changing : TaskId} {change : Task κ π → Task κ π}
    (kept : ∀ t, (change t).id = t.id)
    (changed : s'.tasks = s.tasks.map fun t => if t.id = changing then change t else t) (id : TaskId) :
    s'.get? id = if id = changing then (s.get? id).map change else s.get? id := by
  have ids : ∀ t : Task κ π, (if t.id = changing then change t else t).id = t.id := by
    intro t
    split
    · exact kept t
    · rfl
  rw [get?_mapTasks ids changed]
  cases found : s.get? id with
  | none => simp
  | some task =>
    rw [← id_of_get? found]
    by_cases own : task.id = changing
    · simp [own]
    · simp [own]

theorem Balanced.get?_filterTasks {s' : Scheduler κ π} (balanced : s.Balanced)
    (balanced' : s'.Balanced) {p : Task κ π → Bool} (left : s'.tasks = s.tasks.filter p)
    (id : TaskId) : s'.get? id = (s.get? id).filter p := by
  apply Option.ext
  intro task
  rw [balanced'.get?_eq_some_iff, left, List.mem_filter, Option.filter_eq_some_iff,
    balanced.get?_eq_some_iff]
  exact and_right_comm

theorem Balanced.get?_releaseOwner (balanced : s.Balanced) (owner : OwnerId) (id : TaskId) :
    (s.releaseOwner owner).state.get? id = (s.get? id).filter (·.owner ≠ some owner) :=
  balanced.get?_filterTasks (balanced.releaseOwner_balanced owner)
    (balanced.tasks_releaseOwner owner) id

theorem Balanced.get?_remove (balanced : s.Balanced) (gone id : TaskId) :
    (s.remove gone).state.get? id = (s.get? id).filter (·.id ≠ gone) := by
  obtain ⟨_, loses⟩ := balanced.remove_loses gone
  exact balanced.get?_filterTasks (balanced.loses loses) (balanced.tasks_remove gone) id

theorem get?_markForRemoval (s : Scheduler κ π) (marking id : TaskId) :
    (s.markForRemoval marking).state.get? id =
      if id = marking then (s.get? id).map Task.marked else s.get? id := by
  have kept : ∀ t : Task κ π, t.marked.id = t.id := fun _ => rfl
  exact get?_changed kept (s.tasks_markForRemoval marking) id

/-- A request to add a task is refused, or adds one with the count asked for. -/
theorem add_tasks (s : Scheduler κ π) (now : Instant) (request : NewTask κ π) :
    (∃ why, (s.add now request).answer = .error why) ∧
        (s.add now request).state.tasks = s.tasks ∨
      ∃ task : Task κ π, task.id = ⟨s.nextTask⟩ ∧ (s.add now request).answer = .ok task.id ∧
        Remaining.ofCount request.count.toInt = .ok task.remaining ∧
        (s.add now request).state.tasks = s.tasks ++ [task] := by
  obtain ⟨-, tasks, -⟩ := s.add_makes now request
  cases new : s.newTask? now request with
  | none =>
    rw [new] at tasks
    exact .inl ⟨answer_add_of_none new, by simpa using tasks⟩
  | some task =>
    rw [new] at tasks
    obtain ⟨remaining, read, rfl⟩ := made_of_newTask? new
    exact .inr ⟨_, rfl, answer_add_of_some new, read, tasks⟩

theorem get?_append {s' : Scheduler κ π} {task : Task κ π} (added : s'.tasks = s.tasks ++ [task])
    (id : TaskId) : s'.get? id = (s.get? id).or (if task.id = id then some task else none) := by
  rw [get?, get?, added, List.find?_append, List.find?_singleton]
  simp only [decide_eq_true_eq]

/-- The task of the handle that an added task is given is that task. -/
theorem Balanced.get?_add (balanced : s.Balanced) {now : Instant} {request : NewTask κ π}
    (answer : (s.add now request).answer = .ok id) :
    ∃ remaining, Remaining.ofCount request.count.toInt = .ok remaining ∧
      (s.add now request).state.get? id = some (request.made id remaining now) := by
  obtain ⟨-, tasks, -⟩ := s.add_makes now request
  cases new : s.newTask? now request with
  | none =>
    obtain ⟨why, refused⟩ := answer_add_of_none new
    rw [refused] at answer
    cases answer
  | some task =>
    rw [new] at tasks
    rw [answer_add_of_some new] at answer
    obtain rfl : task.id = id := Except.ok.inj answer
    obtain ⟨remaining, read, rfl⟩ := made_of_newTask? new
    have absent : s.get? (request.made ⟨s.nextTask⟩ remaining now).id = none := balanced.get?_next
    refine ⟨remaining, read, ?_⟩
    rw [get?_append tasks, absent, Option.none_or, if_pos rfl]
    rfl

theorem updatedRemaining_some {count : Int64} {remaining : Option Remaining}
    (read : updatedRemaining (some count) = .ok remaining) :
    ∃ r, Remaining.ofCount count.toInt = .ok r ∧ remaining = some r := by
  simp only [updatedRemaining] at read
  cases counted : Remaining.ofCount count.toInt with
  | error why =>
    rw [counted] at read
    cases read
  | ok r =>
    rw [counted] at read
    cases read
    exact ⟨r, rfl, rfl⟩

/-- A request to change a task is refused, or changes the one task of the handle.  What
    remains of it is what the request says, if it says so. -/
theorem Balanced.modify_tasks (balanced : s.Balanced) (id : TaskId) (update : TaskUpdate κ π) :
    (∃ why, (s.modify id update).answer = .error why) ∧ (s.modify id update).state.tasks = s.tasks ∨
      (s.modify id update).answer = .ok () ∧ (s.get? id).isSome ∧
        ∃ (change : Task κ π → Task κ π) (remaining : Option Remaining),
          updatedRemaining update.count = .ok remaining ∧
          (∀ t, (change t).id = t.id ∧ (change t).remaining = remaining.getD t.remaining) ∧
          (s.modify id update).state.tasks = s.tasks.map fun t => if t.id = id then change t else t := by
  cases found : s.get? id with
  | none =>
    rw [modify_of_absent found]
    exact .inl ⟨⟨_, rfl⟩, rfl⟩
  | some task =>
    cases granted : update.granted with
    | error why =>
      obtain ⟨answer, state⟩ := modify_refused found granted
      refine .inl ⟨⟨_, answer⟩, ?_⟩
      rw [state]
      rfl
    | ok set =>
      obtain ⟨answer, state⟩ := balanced.modify_granted found granted
      refine .inr ⟨answer, rfl, update.applied set.1 set.2, set.2,
        (TaskUpdate.grants_of_granted granted).remaining, fun t => ⟨rfl, rfl⟩, ?_⟩
      rw [state]
      rfl

end Scheduler

/-! ## The stop of a task -/

/-- The handle of the task that was visited. -/
def Visit.task : Visit ε → TaskId
  | fired id _ _ _ _ => id
  | dropped id _ => id

/-- Whether a task of a handle ran. -/
def Visit.isRunOf (id : TaskId) : Visit ε → Bool
  | fired task _ _ _ _ => task = id
  | dropped _ _ => false

/-- The ways that a stop at a task may go, in the tick that began at `now`, when the
    removals in `asked` were asked for before. -/
inductive Stop.Goes (behavior : Behavior κ π σ ε) (now : Instant) (asked : List TaskId)
    (world : World σ) (task : Task κ π) : Stop κ π σ ε → Prop where
  | leaves (ends : task.isPendingRemoval = true ∨ task.id ∈ asked) :
    Goes behavior now asked world task ⟨task, none, asked, world, [.dropped task.id task.name]⟩
  | waits (armed : ¬ (task.isPendingRemoval = true ∨ task.id ∈ asked))
      (early : ¬ task.isDue world.clock = true) :
    Goes behavior now asked world task ⟨task, some task, asked, world, []⟩
  | runs (armed : ¬ (task.isPendingRemoval = true ∨ task.id ∈ asked))
      (due : task.isDue world.clock = true) (reaction : Reaction κ π σ ε)
      (reacts : behavior task.callback ⟨task.id, task.name, now⟩ task.payload world = reaction)
      (stays : Option (Task κ π))
      (settles : stays = if task.id ∈ reaction.removals
        then some (Scheduler.ran task now reaction).marked
        else (Scheduler.ran task now reaction).spent) :
    Goes behavior now asked world task
      ⟨task, stays, asked ++ reaction.removals, reaction.world,
        .fired task.id task.name now world.clock reaction.output ::
          if stays.isNone then [.dropped task.id task.name] else []⟩

namespace Stop

variable {behavior : Behavior κ π σ ε} {now : Instant} {asked : List TaskId} {world : World σ}
  {task : Task κ π} {stop : Stop κ π σ ε}

theorem goes_meet (behavior : Behavior κ π σ ε) (now : Instant) (asked : List TaskId)
    (world : World σ) (task : Task κ π) :
    Goes behavior now asked world task (meet behavior now asked world task) := by
  rw [meet_eq]
  split
  · rename_i ends
    exact .leaves ends
  · rename_i armed
    split
    · rename_i due
      exact .runs armed due _ rfl _ rfl
    · rename_i early
      exact .waits armed early

theorem Goes.task_eq (goes : Goes behavior now asked world task stop) : stop.task = task := by
  cases goes with
  | leaves | waits | runs => rfl

theorem Goes.id_of_stays (goes : Goes behavior now asked world task stop) {left : Task κ π}
    (stays : stop.stays = some left) : left.id = stop.task.id := by
  cases goes with
  | leaves => cases stays
  | waits =>
    cases stays
    rfl
  | runs armed due reaction reacts kept settles =>
    simp only at stays
    subst stays
    split at settles
    · cases settles
      rfl
    · exact (Task.id_of_spent settles.symm).trans rfl

theorem Goes.task_visit (goes : Goes behavior now asked world task stop) :
    ∀ visit ∈ stop.visits, visit.task = stop.task.id := by
  intro visit member
  cases goes with
  | leaves =>
    obtain rfl := List.mem_singleton.mp member
    rfl
  | waits => cases member
  | runs armed due reaction reacts stays settles =>
    rcases List.mem_cons.mp member with rfl | dropped
    · rfl
    · split at dropped
      · obtain rfl := List.mem_singleton.mp dropped
        rfl
      · cases dropped

/-- A stop has no more than one run, which is its task's. -/
theorem Goes.runs_visits (goes : Goes behavior now asked world task stop) :
    stop.visits.countP (·.isRunOf stop.task.id) = if stop.ran then 1 else 0 := by
  cases goes with
  | leaves => rfl
  | waits => rfl
  | runs armed due reaction reacts stays settles =>
    cases stays <;> simp [ran, Visit.isRunOf]

end Stop

/-! ## The stops of a pass -/

theorem goes_of_mem_pass {behavior : Behavior κ π σ ε} {now : Instant} {asked : List TaskId}
    {world : World σ} {tasks : List (Task κ π)} {stop : Stop κ π σ ε}
    (member : stop ∈ (pass behavior now asked world tasks).stops) :
    ∃ earlier before task, stop.Goes behavior now earlier before task := by
  induction tasks generalizing asked world with
  | nil => cases member
  | cons task rest ih =>
    rcases List.mem_cons.mp member with rfl | later
    · exact ⟨asked, world, task, Stop.goes_meet behavior now asked world task⟩
    · exact ih later

namespace Pass

/-- The stop at the task of a handle. -/
def stop? (p : Pass κ π σ ε) (id : TaskId) : Option (Stop κ π σ ε) :=
  p.stops.find? (·.task.id = id)

variable {stops : List (Stop κ π σ ε)}

theorem find?_eq_none_of_fresh {stop : Stop κ π σ ε}
    (fresh : stop.task.id ∉ stops.map (·.task.id)) :
    stops.find? (·.task.id = stop.task.id) = none := by
  rw [List.find?_eq_none]
  intro other member same
  exact fresh (List.mem_map.mpr ⟨other, member, of_decide_eq_true same⟩)

theorem find?_stays (kept : ∀ stop ∈ stops, ∀ left, stop.stays = some left → left.id = stop.task.id)
    (nodup : (stops.map (·.task.id)).Nodup) (id : TaskId) :
    (stops.filterMap (·.stays)).find? (·.id = id) =
      (stops.find? (·.task.id = id)).bind (·.stays) := by
  induction stops with
  | nil => rfl
  | cons stop rest ih =>
    obtain ⟨fresh, nodup⟩ := List.nodup_cons.mp nodup
    have later := ih (fun stop member => kept stop (List.mem_cons_of_mem _ member)) nodup
    by_cases here : stop.task.id = id
    · rw [List.find?_cons_of_pos (by simpa using here), Option.bind_some]
      cases stays : stop.stays with
      | none =>
        -- no other task has the handle
        have absent : rest.find? (·.task.id = id) = none := here ▸ find?_eq_none_of_fresh fresh
        rw [List.filterMap_cons_none stays, later, absent]
        rfl
      | some left =>
        have same : left.id = id := (kept stop List.mem_cons_self left stays).trans here
        rw [List.filterMap_cons_some stays, List.find?_cons_of_pos (by simpa using same)]
    · rw [List.find?_cons_of_neg (by simpa using here), ← later]
      cases stays : stop.stays with
      | none => rw [List.filterMap_cons_none stays]
      | some left =>
        have other : left.id ≠ id := (kept stop List.mem_cons_self left stays).symm ▸ here
        rw [List.filterMap_cons_some stays, List.find?_cons_of_neg (by simpa using other)]

/-- The visits of a task are those of its stop. -/
theorem filter_visits (own : ∀ stop ∈ stops, ∀ visit ∈ stop.visits, visit.task = stop.task.id)
    (nodup : (stops.map (·.task.id)).Nodup) (id : TaskId) :
    (stops.flatMap (·.visits)).filter (·.task = id) =
      ((stops.find? (·.task.id = id)).map (·.visits)).getD [] := by
  induction stops with
  | nil => rfl
  | cons stop rest ih =>
    obtain ⟨fresh, nodup⟩ := List.nodup_cons.mp nodup
    have later := ih (fun stop member => own stop (List.mem_cons_of_mem _ member)) nodup
    have first := own stop List.mem_cons_self
    rw [List.flatMap_cons, List.filter_append, later]
    by_cases here : stop.task.id = id
    · have absent : rest.find? (·.task.id = id) = none := here ▸ find?_eq_none_of_fresh fresh
      have all : stop.visits.filter (·.task = id) = stop.visits :=
        List.filter_eq_self.mpr fun visit member => by simp [first visit member, here]
      rw [List.find?_cons_of_pos (by simpa using here), absent, all]
      exact List.append_nil _
    · have none : stop.visits.filter (·.task = id) = [] :=
        List.filter_eq_nil_iff.mpr fun visit member => by simp [first visit member, here]
      rw [List.find?_cons_of_neg (by simpa using here), none, List.nil_append]

end Pass

namespace Scheduler

variable {s : Scheduler κ π}

theorem ids_stops (behavior : Behavior κ π σ ε) (now : Instant) (asked : List TaskId)
    (world : World σ) (tasks : List (Task κ π)) :
    (pass behavior now asked world tasks).stops.map (·.task.id) = tasks.map (·.id) := by
  conv_rhs => rw [← tasks_stops_pass behavior now asked world tasks]
  rw [List.map_map]
  rfl

theorem get?_eq_task_stop? (s : Scheduler κ π) (behavior : Behavior κ π σ ε) (now : Instant)
    (asked : List TaskId) (world : World σ) (id : TaskId) :
    s.get? id = ((pass behavior now asked world s.tasks).stop? id).map (·.task) := by
  rw [get?, Pass.stop?]
  conv_lhs => rw [← tasks_stops_pass behavior now asked world s.tasks]
  rw [List.find?_map]
  rfl

theorem Balanced.get?_tick (balanced : s.Balanced) (behavior : Behavior κ π σ ε) (world : World σ)
    (id : TaskId) :
    let p := pass behavior world.clock [] world s.tasks
    (s.tick behavior world).scheduler.get? id =
      ((p.stop? id).bind (·.stays)).map (Task.markedIn p.asked) := by
  intro p
  have nodup : (p.stops.map (·.task.id)).Nodup := by
    rw [ids_stops]
    exact balanced.nodup
  have kept : ∀ stop ∈ p.stops, ∀ left, stop.stays = some left → left.id = stop.task.id := by
    intro stop member left stays
    obtain ⟨_, _, _, goes⟩ := goes_of_mem_pass member
    exact goes.id_of_stays stays
  have left : (s.tick behavior world).scheduler.tasks = p.stayed.map (Task.markedIn p.asked) := by
    rw [tick_eq]
    rfl
  -- marks do not change handles, so they are set after the task was found
  rw [Pass.stop?, ← Pass.find?_stays kept nodup, Scheduler.get?, left, List.find?_map]
  simp only [Function.comp_def, Task.id_markedIn]
  rfl

/-- In a tick a task is visited at its stop and nowhere else. -/
theorem Balanced.visits_tick (balanced : s.Balanced) (behavior : Behavior κ π σ ε) (world : World σ)
    (id : TaskId) :
    let p := pass behavior world.clock [] world s.tasks
    (s.tick behavior world).visits.filter (·.task = id) = ((p.stop? id).map (·.visits)).getD [] := by
  intro p
  have nodup : (p.stops.map (·.task.id)).Nodup := by
    rw [ids_stops]
    exact balanced.nodup
  rw [tick_eq]
  apply Pass.filter_visits _ nodup
  intro stop member
  obtain ⟨_, _, _, goes⟩ := goes_of_mem_pass member
  exact goes.task_visit

/-- There it runs once or not at all. -/
theorem Balanced.runs_tick (balanced : s.Balanced) (behavior : Behavior κ π σ ε) (world : World σ)
    (id : TaskId) :
    let p := pass behavior world.clock [] world s.tasks
    (s.tick behavior world).visits.countP (·.isRunOf id) =
      if (p.stop? id).any (·.ran) then 1 else 0 := by
  intro p
  have own : ∀ visit : Visit ε, (visit.isRunOf id && decide (visit.task = id)) = visit.isRunOf id := by
    intro visit
    cases visit with
    | fired => exact Bool.and_self _
    | dropped => rfl
  have among : (s.tick behavior world).visits.countP (·.isRunOf id) =
      ((s.tick behavior world).visits.filter (·.task = id)).countP (·.isRunOf id) := by
    simp only [List.countP_filter, own]
  rw [among, balanced.visits_tick]
  cases found : p.stop? id with
  | none => rfl
  | some stop =>
    obtain ⟨_, _, _, goes⟩ := goes_of_mem_pass (List.mem_of_find?_eq_some found)
    have same : stop.task.id = id := by simpa using List.find?_some found
    have runs := goes.runs_visits
    rw [same] at runs
    simpa using runs

end Scheduler

/-! ## Tasks that there were -/

namespace Scene

open Scheduler

/-- Whether a request makes a task. -/
def Makes (id : TaskId) (scene : Scene κ π σ) : Request κ π σ → Prop
  | .add task => (scene.scheduler.add scene.world.clock task).answer = .ok id
  | _ => False

theorem not_makes {scene : Scene κ π σ} {id : TaskId} (issued : id.number < scene.scheduler.nextTask)
    (request : Request κ π σ) : ¬ scene.Makes id request := by
  intro makes
  cases request with
  | add task =>
    rcases add_tasks scene.scheduler scene.world.clock task with
      ⟨⟨why, refused⟩, -⟩ | ⟨new, next, granted, -, -⟩
    · rw [Makes, refused] at makes
      cases makes
    · rw [Makes, granted] at makes
      rw [← Except.ok.inj makes, next] at issued
      exact Nat.lt_irrefl _ issued
  | registerOwner | releaseOwner | modify | markForRemoval | remove | tick | turn => cases makes

theorem issued_serve (behavior : Behavior κ π σ ε) {scene : Scene κ π σ}
    (balanced : scene.scheduler.Balanced) {id : TaskId}
    (issued : id.number < scene.scheduler.nextTask) (request : Request κ π σ) :
    (scene.serve behavior request).1.scheduler.Balanced ∧
      id.number < (scene.serve behavior request).1.scheduler.nextTask := by
  have moves := serve_moves behavior scene balanced request
  exact ⟨balanced.moves moves, Nat.lt_of_lt_of_le issued (moves.nextTask balanced).1⟩

end Scene

end Backlog
