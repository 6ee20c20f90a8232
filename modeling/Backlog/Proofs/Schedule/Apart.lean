import Backlog.Proofs.Schedule.Leaving

/-!
# What the other tasks notice of one task

Two runs of requests are compared, but for what concerns one task: in one run the task is
marked and in the other it is not.  Callbacks depend on the clock and on what is their own,
`Alike`, and the one task's callback does not meddle, `Scheduler.Meddles`.  Then the two
passes of a tick agree on all other tasks, `Pass.Apart`, and so do the schedulers after it,
`Scheduler.Apart`; by `Scene.otherTicks_eq` the others run in the same ticks.
-/

namespace Backlog

variable {κ π σ ε : Type}

/-! ## Callbacks that agree -/

/-- The same tasks are asked for, but for one. -/
def SameBut (id : TaskId) (asked asked' : List TaskId) : Prop :=
  ∀ other, other ≠ id → (other ∈ asked ↔ other ∈ asked')

/-- Two reactions that leave the same behind, but for the removal of one task and for what
    callbacks share besides the clock. -/
structure Reaction.Alike (id : TaskId) (r r' : Reaction κ π σ ε) : Prop where
  callback : r.callback = r'.callback
  payload : r.payload = r'.payload
  clock : r.world.clock = r'.world.clock
  removals : SameBut id r.removals r'.removals
  output : r.output = r'.output

/-- Two behaviors by which the callbacks of all tasks but one react alike at the same time.  Of one
    behavior and itself this says that callbacks depend on nothing that they share besides
    the clock. -/
def Alike (id : TaskId) (behavior behavior' : Behavior κ π σ ε) : Prop :=
  ∀ callback (context : Context) payload (world world' : World σ), context.id ≠ id →
    world.clock = world'.clock →
      (behavior callback context payload world).Alike id (behavior' callback context payload world')

theorem SameBut.append {id : TaskId} {asked asked' more more' : List TaskId}
    (earlier : SameBut id asked asked') (later : SameBut id more more') :
    SameBut id (asked ++ more) (asked' ++ more') := by
  intro other distinct
  rw [List.mem_append, List.mem_append, earlier other distinct, later other distinct]

/-- What reacts like another behavior depends on nothing shared besides the clock. -/
theorem Alike.right {id : TaskId} {behavior behavior' : Behavior κ π σ ε}
    (alike : Alike id behavior behavior') : Alike id behavior' behavior' := by
  intro callback context payload world world' other clock
  have here := alike callback context payload world world other rfl
  have there := alike callback context payload world world' other clock
  constructor
  · exact here.callback.symm.trans there.callback
  · exact here.payload.symm.trans there.payload
  · exact here.clock.symm.trans there.clock
  · exact fun task distinct => (here.removals task distinct).symm.trans (there.removals task distinct)
  · exact here.output.symm.trans there.output

/-! ## Passes that agree -/

/-- Two passes that agree on all tasks but one. -/
structure Pass.Apart (id : TaskId) (p p' : Pass κ π σ ε) : Prop where
  stayed : p.stayed.filter (·.id ≠ id) = p'.stayed.filter (·.id ≠ id)
  visits : p.visits.filter (·.task ≠ id) = p'.visits.filter (·.task ≠ id)
  asked : SameBut id p.asked p'.asked
  clock : p.world.clock = p'.world.clock

/-- Whether a callback moves the clock or asks for the removal of another task, for which no task
    before it asked. -/
def Stop.Meddles (stop : Stop κ π σ ε) (earlier : Pass κ π σ ε) : Prop :=
  stop.world.clock ≠ earlier.world.clock ∨
    ∃ other ∈ stop.asked, other ≠ stop.task.id ∧ other ∉ earlier.asked

instance (stop : Stop κ π σ ε) (earlier : Pass κ π σ ε) : Decidable (stop.Meddles earlier) :=
  inferInstanceAs (Decidable (_ ∨ ∃ other ∈ stop.asked, other ≠ stop.task.id ∧ other ∉ earlier.asked))

section Passes

variable {behavior behavior' : Behavior κ π σ ε} {id : TaskId}
  {asked asked' : List TaskId} {world world' : World σ}

theorem meet_alike (now : Instant) (alike : Alike id behavior behavior') {task : Task κ π}
    (other : task.id ≠ id) (same : SameBut id asked asked') (clock : world.clock = world'.clock) :
    let stop := meet behavior now asked world task
    let stop' := meet behavior' now asked' world' task
    stop.stays = stop'.stays ∧ stop.visits = stop'.visits ∧ SameBut id stop.asked stop'.asked ∧
      stop.world.clock = stop'.world.clock := by
  have ends : (task.isPendingRemoval = true ∨ task.id ∈ asked) ↔
      (task.isPendingRemoval = true ∨ task.id ∈ asked') := or_congr_right (same task.id other)
  rw [meet_eq, meet_eq]
  by_cases leaves : task.isPendingRemoval = true ∨ task.id ∈ asked
  · rw [if_pos leaves, if_pos (ends.mp leaves)]
    exact ⟨rfl, rfl, same, clock⟩
  · rw [if_neg leaves, if_neg (mt ends.mpr leaves), clock]
    by_cases due : task.isDue world'.clock = true
    · rw [if_pos due, if_pos due]
      have reacts := alike task.callback ⟨task.id, task.name, now⟩ task.payload world world' other clock
      generalize behavior task.callback ⟨task.id, task.name, now⟩ task.payload world = r at reacts
      generalize behavior' task.callback ⟨task.id, task.name, now⟩ task.payload world' = r' at reacts
      obtain ⟨callback, payload, clocks, removals, output⟩ := reacts
      have ran : Scheduler.ran task now r = Scheduler.ran task now r' := by
        rw [Scheduler.ran, Scheduler.ran, callback, payload]
      simp only [ran, removals task.id other, output]
      exact ⟨trivial, trivial, same.append removals, clocks⟩
    · rw [if_neg due, if_neg due]
      exact ⟨rfl, rfl, same, clock⟩

theorem Pass.Apart.trans {p q p' : Pass κ π σ ε} (left : p.Apart id q) (right : q.Apart id p') :
    p.Apart id p' where
  stayed := left.stayed.trans right.stayed
  visits := left.visits.trans right.visits
  asked other distinct := (left.asked other distinct).trans (right.asked other distinct)
  clock := left.clock.trans right.clock

theorem Pass.Apart.symm {p p' : Pass κ π σ ε} (apart : p.Apart id p') : p'.Apart id p where
  stayed := apart.stayed.symm
  visits := apart.visits.symm
  asked other distinct := (apart.asked other distinct).symm
  clock := apart.clock.symm

/-- Over the other tasks, two passes agree. -/
theorem pass_apart (now : Instant) (alike : Alike id behavior behavior') {tasks : List (Task κ π)}
    (others : ∀ t ∈ tasks, t.id ≠ id) (same : SameBut id asked asked')
    (clock : world.clock = world'.clock) :
    (pass behavior now asked world tasks).Apart id (pass behavior' now asked' world' tasks) := by
  induction tasks generalizing asked asked' world world' with
  | nil => exact ⟨rfl, rfl, same, clock⟩
  | cons task rest ih =>
    obtain ⟨other, others⟩ := List.forall_mem_cons.mp others
    obtain ⟨stays, visits, asks, clocks⟩ := meet_alike now alike other same clock
    have later := ih others asks clocks
    simp only [pass]
    constructor
    · rw [Pass.stayed_cons, Pass.stayed_cons, stays, List.filter_append, List.filter_append,
        later.stayed]
    · rw [Pass.visits_cons, Pass.visits_cons, visits, List.filter_append, List.filter_append,
        later.visits]
    · exact later.asked
    · exact later.clock

/-- What happens at the stop of the one task does not show. -/
theorem Pass.Apart.insert {first first' later later' : Pass κ π σ ε} {stop : Stop κ π σ ε}
    (earlier : first.Apart id first') (rest : later.Apart id later')
    (stays : ∀ t, stop.stays = some t → t.id = id) (visits : ∀ visit ∈ stop.visits, visit.task = id) :
    Pass.Apart id ⟨first.stops ++ stop :: later.stops, later.asked, later.world⟩
      ⟨first'.stops ++ later'.stops, later'.asked, later'.world⟩ where
  stayed := by
    have none : stop.stays.toList.filter (·.id ≠ id) = [] := by
      rw [List.filter_eq_nil_iff]
      intro t member
      simpa using stays t (Option.mem_toList.mp member)
    have all : Pass.stayed ⟨first.stops ++ stop :: later.stops, later.asked, later.world⟩ =
        first.stayed ++ (stop.stays.toList ++ later.stayed) := by
      rw [← Pass.stayed_cons]
      exact List.filterMap_append
    have all' : Pass.stayed ⟨first'.stops ++ later'.stops, later'.asked, later'.world⟩ =
        first'.stayed ++ later'.stayed := List.filterMap_append
    rw [all, all', List.filter_append, List.filter_append, List.filter_append, none, List.nil_append,
      earlier.stayed, rest.stayed]
  visits := by
    have none : stop.visits.filter (·.task ≠ id) = [] := by
      rw [List.filter_eq_nil_iff]
      intro visit member
      simpa using visits visit member
    have all : Pass.visits ⟨first.stops ++ stop :: later.stops, later.asked, later.world⟩ =
        first.visits ++ (stop.visits ++ later.visits) := by
      rw [← Pass.visits_cons]
      exact List.flatMap_append
    have all' : Pass.visits ⟨first'.stops ++ later'.stops, later'.asked, later'.world⟩ =
        first'.visits ++ later'.visits := List.flatMap_append
    rw [all, all', List.filter_append, List.filter_append, List.filter_append, none, List.nil_append,
      earlier.visits, rest.visits]
  asked := rest.asked
  clock := rest.clock

end Passes

namespace Scheduler

variable {s s' : Scheduler κ π} {id : TaskId} {behavior behavior' : Behavior κ π σ ε}
  {world world' : World σ}

/-- Whether, in a tick, the callback of a task meddles with what the tasks before it left. -/
def Meddles (behavior : Behavior κ π σ ε) (world : World σ) (id : TaskId) (s : Scheduler κ π) : Prop :=
  let earlier := s.passUpTo behavior world id
  ∃ task ∈ s.get? id, (meet behavior world.clock earlier.asked earlier.world task).Meddles earlier

instance (behavior : Behavior κ π σ ε) (world : World σ) (id : TaskId) (s : Scheduler κ π) :
    Decidable (s.Meddles behavior world id) :=
  inferInstanceAs (Decidable (∃ task ∈ s.get? id, (meet behavior world.clock
    (s.passUpTo behavior world id).asked (s.passUpTo behavior world id).world task).Meddles _))

/-- A task whose callback does not meddle can as well not be there. -/
theorem Balanced.pass_without (balanced : s.Balanced) (alike : Alike id behavior behavior')
    (unmeddled : ¬ s.Meddles behavior world id) (clock : world.clock = world'.clock) :
    (pass behavior world.clock [] world s.tasks).Apart id
      (pass behavior' world.clock [] world' (s.tasks.filter (·.id ≠ id))) := by
  cases found : s.get? id with
  | none =>
    have others : ∀ t ∈ s.tasks, t.id ≠ id := by simpa using List.find?_eq_none.mp found
    rw [List.filter_eq_self.mpr fun t member => decide_eq_true (others t member)]
    exact pass_apart world.clock alike others (fun _ _ => Iff.rfl) clock
  | some task =>
    obtain ⟨before, rest, stands, others, upTo⟩ := stands_of_get? found
    have own := id_of_get? found
    have left : s.tasks.filter (·.id ≠ id) = before ++ rest :=
      own ▸ balanced.filter_ne_of_stands stands
    have others' : ∀ t ∈ rest, t.id ≠ id := by
      intro t member
      have kept : t ∈ s.tasks.filter (·.id ≠ id) := left ▸ List.mem_append_right before member
      exact of_decide_eq_true (List.mem_filter.mp kept).2
    have start : SameBut id [] [] := fun _ _ => Iff.rfl
    have earlier := pass_apart world.clock alike others start clock
    have rests : ¬ Stop.Meddles _ _ := fun meddles => unmeddled ⟨task, found, meddles⟩
    simp only [passUpTo, upTo] at rests
    -- the two passes are alike up to the task and, as it does not meddle, again behind it
    rw [left, stands]
    simp only [pass_append, pass]
    have goes := Stop.goes_meet behavior world.clock (pass behavior world.clock [] world before).asked
      (pass behavior world.clock [] world before).world task
    generalize meet behavior world.clock (pass behavior world.clock [] world before).asked
      (pass behavior world.clock [] world before).world task = stop at rests goes ⊢
    generalize pass behavior world.clock [] world before = first at earlier rests goes ⊢
    generalize pass behavior' world.clock [] world' before = first' at earlier ⊢
    have same : stop.task.id = id := goes.task_eq ▸ own
    obtain ⟨still, quiet⟩ := not_or.mp rests
    have asked : SameBut id stop.asked first'.asked := by
      intro other distinct
      rw [← earlier.asked other distinct]
      refine ⟨fun member => ?_, fun member => goes.asked_subset member⟩
      -- a new mark on another task would be meddling
      by_contra fresh
      exact quiet ⟨other, member, same ▸ distinct, fresh⟩
    have later := pass_apart world.clock alike others' asked
      ((not_not.mp still).trans earlier.clock)
    refine earlier.insert later ?_ ?_
    · exact fun t stays => (goes.id_of_stays stays).trans same
    · exact fun visit member => (goes.task_visit visit member).trans same

/-! ## Schedulers that agree -/

/-- Two schedulers that agree on all tasks but one, on who is registered, and on the handles that
    are given out next. -/
structure Apart (id : TaskId) (s s' : Scheduler κ π) : Prop where
  tasks : s.tasks.filter (·.id ≠ id) = s'.tasks.filter (·.id ≠ id)
  owners : s.books.map (·.1) = s'.books.map (·.1)
  nextTask : s.nextTask = s'.nextTask
  nextOwner : s.nextOwner = s'.nextOwner

theorem Apart.refl (id : TaskId) (s : Scheduler κ π) : Apart id s s := ⟨rfl, rfl, rfl, rfl⟩

theorem Apart.trans {t : Scheduler κ π} (left : Apart id s t) (right : Apart id t s') :
    Apart id s s' where
  tasks := left.tasks.trans right.tasks
  owners := left.owners.trans right.owners
  nextTask := left.nextTask.trans right.nextTask
  nextOwner := left.nextOwner.trans right.nextOwner

/-- Where tasks are only lost or changed, it is enough to compare the tasks. -/
theorem Apart.loses (apart : Apart id s s') {gone gone' : List TaskId} {t t' : Scheduler κ π}
    (loses : Loses gone s t) (loses' : Loses gone' s' t')
    (tasks : t.tasks.filter (·.id ≠ id) = t'.tasks.filter (·.id ≠ id)) : Apart id t t' where
  tasks
  owners := by rw [loses.keys, loses'.keys, apart.owners]
  nextTask := by rw [loses.nextTask, loses'.nextTask, apart.nextTask]
  nextOwner := by rw [loses.nextOwner, loses'.nextOwner, apart.nextOwner]

theorem filter_map_tasks {f : Task κ π → Task κ π} (ids : ∀ t, (f t).id = t.id)
    (tasks : List (Task κ π)) :
    (tasks.map f).filter (·.id ≠ id) = (tasks.filter (·.id ≠ id)).map f := by
  rw [List.filter_map]
  simp only [Function.comp_def, ids]

theorem map_markedIn_congr {asked asked' : List TaskId} (same : SameBut id asked asked')
    (tasks : List (Task κ π)) :
    (tasks.filter (·.id ≠ id)).map (Task.markedIn asked) =
      (tasks.filter (·.id ≠ id)).map (Task.markedIn asked') := by
  apply List.map_congr_left
  intro t member
  have other : t.id ≠ id := of_decide_eq_true (List.mem_filter.mp member).2
  simp only [Task.markedIn, same t.id other]

/-- Ticks of schedulers that agree are the same for the others. -/
theorem Apart.tick (apart : Apart id s s') (balanced : s.Balanced) (balanced' : s'.Balanced)
    (alike : Alike id behavior behavior') (alike' : Alike id behavior' behavior')
    (unmeddled : ¬ s.Meddles behavior world id) (unmeddled' : ¬ s'.Meddles behavior' world' id)
    (clock : world.clock = world'.clock) :
    let done := s.tick behavior world
    let done' := s'.tick behavior' world'
    Apart id done.scheduler done'.scheduler ∧ done.world.clock = done'.world.clock ∧
      done.visits.filter (·.task ≠ id) = done'.visits.filter (·.task ≠ id) := by
  have left := balanced.pass_without alike unmeddled clock
  have right := balanced'.pass_without alike' unmeddled' (rfl : world'.clock = world'.clock)
  rw [apart.tasks, clock] at left
  have both := left.trans right.symm
  rw [← clock] at both
  obtain ⟨gone, loses⟩ := balanced.walk_loses behavior world.clock 0 world
  obtain ⟨gone', loses'⟩ := balanced'.walk_loses behavior' world'.clock 0 world'
  refine ⟨apart.loses loses loses' ?_, ?_, ?_⟩
  · rw [tick_eq, tick_eq, ← clock]
    simp only [afterPass]
    rw [filter_map_tasks (Task.id_markedIn _), filter_map_tasks (Task.id_markedIn _), both.stayed,
      map_markedIn_congr both.asked]
  · rw [tick_eq, tick_eq, ← clock]
    exact both.clock
  · rw [tick_eq, tick_eq, ← clock]
    exact both.visits

theorem Apart.newTask? (apart : Apart id s s') (now : Instant) (request : NewTask κ π) :
    s.newTask? now request = s'.newTask? now request := by
  have known : ∀ o, (s.owner? o).isNone = (s'.owner? o).isNone := by
    intro o
    have iff : (s.owner? o).isSome ↔ (s'.owner? o).isSome := by
      rw [isSome_owner?_iff, isSome_owner?_iff, apart.owners]
    rw [← Option.not_isSome, ← Option.not_isSome, Bool.eq_iff_iff.mpr iff]
  have stranger : s.isStranger request.owner = s'.isStranger request.owner := by
    simp only [isStranger, known]
  rw [Scheduler.newTask?, Scheduler.newTask?, stranger, apart.nextTask]

/-! ### Requests between ticks -/

theorem Apart.add (apart : Apart id s s') (now : Instant) (request : NewTask κ π) :
    Apart id (s.add now request).state (s'.add now request).state := by
  obtain ⟨-, tasks, nextTask⟩ := s.add_makes now request
  obtain ⟨-, tasks', nextTask'⟩ := s'.add_makes now request
  have frame : ∀ s : Scheduler κ π, (s.add now request).state.books.map (·.1) = s.books.map (·.1) ∧
      (s.add now request).state.nextOwner = s.nextOwner := by
    intro s
    rcases add_cases s now request with ⟨-, loses⟩ | ⟨-, gains⟩
    · exact ⟨loses.keys, loses.nextOwner⟩
    · exact ⟨gains.keys, gains.nextOwner⟩
  constructor
  · rw [tasks, tasks', List.filter_append, List.filter_append, apart.tasks, apart.newTask?]
  · rw [(frame s).1, (frame s').1, apart.owners]
  · rw [nextTask, nextTask', apart.newTask?, apart.nextTask]
  · rw [(frame s).2, (frame s').2, apart.nextOwner]

theorem Apart.registerOwner (apart : Apart id s s') (name : String) :
    Apart id (s.registerOwner name).2 (s'.registerOwner name).2 := by
  have keys : ∀ s : Scheduler κ π, (s.registerOwner name).2.books.map (·.1) =
      s.books.map (·.1) ++ [⟨s.nextOwner⟩] := by
    intro s
    simp [books, Scheduler.registerOwner]
  constructor
  · exact apart.tasks
  · rw [keys, keys, apart.owners, apart.nextOwner]
  · exact apart.nextTask
  · exact congrArg (· + 1) apart.nextOwner

theorem Apart.releaseOwner (apart : Apart id s s') (balanced : s.Balanced) (balanced' : s'.Balanced)
    (owner : OwnerId) : Apart id (s.releaseOwner owner).state (s'.releaseOwner owner).state := by
  obtain ⟨keys, nextTask, nextOwner⟩ := balanced.releaseOwner_frame owner
  obtain ⟨keys', nextTask', nextOwner'⟩ := balanced'.releaseOwner_frame owner
  constructor
  · rw [balanced.tasks_releaseOwner, balanced'.tasks_releaseOwner, List.filter_comm, apart.tasks,
      List.filter_comm]
  · rw [keys, keys', apart.owners]
  · rw [nextTask, nextTask', apart.nextTask]
  · rw [nextOwner, nextOwner', apart.nextOwner]

theorem Apart.modify (apart : Apart id s s') (balanced : s.Balanced) (balanced' : s'.Balanced)
    (task : TaskId) (u : TaskUpdate κ π) :
    Apart id (s.modify task u).state (s'.modify task u).state := by
  refine apart.loses (modify_loses s task u) (modify_loses s' task u) ?_
  rw [balanced.tasks_modify, balanced'.tasks_modify, filter_map_tasks (u.id_onTask task),
    filter_map_tasks (u.id_onTask task), apart.tasks]

theorem Apart.markForRemoval (apart : Apart id s s') (task : TaskId) :
    Apart id (s.markForRemoval task).state (s'.markForRemoval task).state := by
  have ids : ∀ t : Task κ π, (t.markedIf task).id = t.id := by
    intro t
    rw [Task.markedIf_eq, Task.id_markedIn]
  refine apart.loses (markForRemoval_loses s task) (markForRemoval_loses s' task) ?_
  rw [tasks_markForRemoval, tasks_markForRemoval, filter_map_tasks ids, filter_map_tasks ids,
    apart.tasks]

theorem Apart.remove (apart : Apart id s s') (balanced : s.Balanced) (balanced' : s'.Balanced)
    (task : TaskId) : Apart id (s.remove task).state (s'.remove task).state := by
  obtain ⟨gone, loses⟩ := balanced.remove_loses task
  obtain ⟨gone', loses'⟩ := balanced'.remove_loses task
  refine apart.loses loses loses' ?_
  rw [balanced.tasks_remove, balanced'.tasks_remove, List.filter_comm, apart.tasks, List.filter_comm]

/-! ### Requests about the one task -/

/-- What is asked of one task by its handle makes no difference to the others. -/
theorem Balanced.apart_modify (balanced : s.Balanced) (u : TaskUpdate κ π) :
    Apart id (s.modify id u).state s := by
  refine (Apart.refl id s).loses (modify_loses s id u) (Loses.refl s) ?_
  rw [balanced.tasks_modify, filter_map_tasks (u.id_onTask id), List.map_congr_left, List.map_id]
  intro t member
  exact if_neg (of_decide_eq_true (List.mem_filter.mp member).2)

theorem apart_markForRemoval (s : Scheduler κ π) (id : TaskId) :
    Apart id (s.markForRemoval id).state s := by
  have ids : ∀ t : Task κ π, (t.markedIf id).id = t.id := by
    intro t
    rw [Task.markedIf_eq, Task.id_markedIn]
  refine (Apart.refl id s).loses (markForRemoval_loses s id) (Loses.refl s) ?_
  rw [tasks_markForRemoval, filter_map_tasks ids, List.map_congr_left, List.map_id]
  intro t member
  exact if_neg (of_decide_eq_true (List.mem_filter.mp member).2)

theorem Balanced.apart_remove (balanced : s.Balanced) (id : TaskId) :
    Apart id (s.remove id).state s := by
  obtain ⟨gone, loses⟩ := balanced.remove_loses id
  refine (Apart.refl id s).loses loses (Loses.refl s) ?_
  rw [balanced.tasks_remove, List.filter_filter]
  simp only [Bool.and_self]

end Scheduler

/-- Whether a request is about a task, and it alone. -/
def Request.IsAbout (id : TaskId) : Request κ π σ → Prop
  | modify task _ | markForRemoval task | remove task => task = id
  | registerOwner _ | releaseOwner _ | add _ | tick | turn _ => False

/-- Requests without some of those that are about a task. -/
inductive Without (id : TaskId) : List (Request κ π σ) → List (Request κ π σ) → Prop where
  | nil : Without id [] []
  | keep (request : Request κ π σ) {rest rest' : List (Request κ π σ)} (later : Without id rest rest') :
    Without id (request :: rest) (request :: rest')
  | leave (request : Request κ π σ) (about : request.IsAbout id) {rest rest' : List (Request κ π σ)}
    (later : Without id rest rest') : Without id (request :: rest) rest'

/-- For each tick, what was visited in it apart from one task. -/
def otherTicks (id : TaskId) (answers : List (Answer ε)) : List (List (Visit ε)) :=
  answers.filterMap fun
    | .ticked visits => some (visits.filter (·.task ≠ id))
    | _ => none

namespace Scene

open Scheduler

variable {scene scene' : Scene κ π σ} {id : TaskId} {behavior behavior' : Behavior κ π σ ε}

/-- Whether a request is a tick in which the callback of a task meddles. -/
def Meddles (behavior : Behavior κ π σ ε) (id : TaskId) (scene : Scene κ π σ) : Request κ π σ → Prop
  | .tick => scene.scheduler.Meddles behavior scene.world id
  | _ => False

instance (behavior : Behavior κ π σ ε) (id : TaskId) (scene : Scene κ π σ) :
    DecidablePred (scene.Meddles behavior id)
  | .tick => inferInstanceAs (Decidable (scene.scheduler.Meddles behavior scene.world id))
  | .registerOwner _ | .releaseOwner _ | .add _ | .modify _ _ | .markForRemoval _ | .remove _
  | .turn _ => inferInstanceAs (Decidable False)

/-- Two scenes that agree on all tasks but one, and on the time. -/
structure Apart (id : TaskId) (scene scene' : Scene κ π σ) : Prop where
  scheduler : Scheduler.Apart id scene.scheduler scene'.scheduler
  clock : scene.world.clock = scene'.world.clock

/-- The same request of scenes that agree. -/
theorem Apart.serve (apart : Apart id scene scene') (balanced : scene.scheduler.Balanced)
    (balanced' : scene'.scheduler.Balanced) (alike : Alike id behavior behavior')
    (alike' : Alike id behavior' behavior') {request : Request κ π σ}
    (unmeddled : ¬ scene.Meddles behavior id request)
    (unmeddled' : ¬ scene'.Meddles behavior' id request) :
    let served := scene.serve behavior request
    let served' := scene'.serve behavior' request
    Apart id served.1 served'.1 ∧ otherTicks id [served.2] = otherTicks id [served'.2] := by
  obtain ⟨same, clock⟩ := apart
  cases request with
  | registerOwner name => exact ⟨⟨same.registerOwner name, clock⟩, rfl⟩
  | releaseOwner owner => exact ⟨⟨same.releaseOwner balanced balanced' owner, clock⟩, rfl⟩
  | add task =>
    refine ⟨⟨?_, clock⟩, rfl⟩
    change Scheduler.Apart id (scene.scheduler.add scene.world.clock task).state
      (scene'.scheduler.add scene'.world.clock task).state
    rw [clock]
    exact same.add scene'.world.clock task
  | modify task update => exact ⟨⟨same.modify balanced balanced' task update, clock⟩, rfl⟩
  | markForRemoval task => exact ⟨⟨same.markForRemoval task, clock⟩, rfl⟩
  | remove task => exact ⟨⟨same.remove balanced balanced' task, clock⟩, rfl⟩
  | tick =>
    obtain ⟨left, clocks, visits⟩ :=
      same.tick balanced balanced' alike alike' unmeddled unmeddled' clock
    exact ⟨⟨left, clocks⟩, congrArg (fun others => [others]) visits⟩
  | turn world => exact ⟨⟨same, rfl⟩, rfl⟩

/-- A request about the one task, of one of the scenes. -/
theorem Apart.leave (behavior : Behavior κ π σ ε) (apart : Apart id scene scene')
    (balanced : scene.scheduler.Balanced) {request : Request κ π σ} (about : request.IsAbout id) :
    let served := scene.serve behavior request
    Apart id served.1 scene' ∧ otherTicks id [served.2] = [] := by
  obtain ⟨same, clock⟩ := apart
  cases request with
  | modify task update =>
    subst about
    exact ⟨⟨(balanced.apart_modify update).trans same, clock⟩, rfl⟩
  | markForRemoval task =>
    subst about
    exact ⟨⟨(apart_markForRemoval _ _).trans same, clock⟩, rfl⟩
  | remove task =>
    subst about
    exact ⟨⟨(balanced.apart_remove _).trans same, clock⟩, rfl⟩
  | registerOwner | releaseOwner | add | tick | turn => cases about

theorem otherTicks_cons (id : TaskId) (answer : Answer ε) (answers : List (Answer ε)) :
    otherTicks id (answer :: answers) = otherTicks id [answer] ++ otherTicks id answers :=
  List.filterMap_append (l := [answer])

/-- The other tasks run in the same ticks. -/
theorem otherTicks_eq (alike : Alike id behavior behavior') (apart : Apart id scene scene')
    (balanced : scene.scheduler.Balanced) (balanced' : scene'.scheduler.Balanced)
    {requests requests' : List (Request κ π σ)} (without : Without id requests requests')
    (unmeddled : scene.Avoids behavior (Meddles behavior id) requests)
    (unmeddled' : scene'.Avoids behavior' (Meddles behavior' id) requests') :
    otherTicks id (scene.answers behavior requests) =
      otherTicks id (scene'.answers behavior' requests') := by
  induction without generalizing scene scene' with
  | nil => rfl
  | keep request later ih =>
    obtain ⟨first, unmeddled⟩ := unmeddled
    obtain ⟨first', unmeddled'⟩ := unmeddled'
    obtain ⟨left, same⟩ := apart.serve balanced balanced' alike alike.right first first'
    have rest := ih left (balanced.moves (serve_moves behavior scene balanced request))
      (balanced'.moves (serve_moves behavior' scene' balanced' request)) unmeddled unmeddled'
    simp only [answers]
    rw [otherTicks_cons id (scene.serve behavior request).2,
      otherTicks_cons id (scene'.serve behavior' request).2, same, rest]
  | leave request about later ih =>
    obtain ⟨left, none⟩ := apart.leave behavior balanced about
    simp only [answers]
    rw [otherTicks_cons, none, List.nil_append]
    exact ih left (balanced.moves (serve_moves behavior scene balanced request)) balanced' unmeddled.2
      unmeddled'

/-- What becomes of a task that is marked, in every scheduler that requests can reach.  A pending
    task does not run any more until it is given a count; it is dropped once, in the next tick,
    unless it is removed before, and is gone then.  A request between ticks leaves the task
    pending.  A callback's does so, too, but if the task that asks stands before it, the task
    is dropped in the same tick.  The report of a tick counts the tasks that it takes out of the
    list, and so a task that is dropped once.  The other tasks run in the same ticks as they do
    when some requests about the task are left out, or its removal is not asked for by
    callbacks. -/
theorem marked_tasks_leave (behavior : Behavior κ π σ ε) (world : World σ)
    (before : List (Request κ π σ)) :
    let scene := (start world).after behavior before
    let done := scene.scheduler.tick behavior scene.world
    done.report.removed =
        scene.scheduler.tasks.countP (fun task => (done.scheduler.get? task.id).isNone) ∧
      ∀ id task, scene.scheduler.get? id = some task →
        (task.remaining = .pendingRemoval → scene.LeavesNext behavior id) ∧
        (∀ request, scene.MarksNow id request →
          (scene.serve behavior request).1.LeavesNext behavior id) ∧
        (task.remaining ≠ .pendingRemoval →
          let ticked := scene.serve behavior .tick
          (scene.scheduler.AsksBefore behavior scene.world id →
            ticked.2.visits.filter (·.task = id) = [.dropped id task.name] ∧
              scene.scheduler.IsCounted behavior scene.world id ∧ ticked.1.GoneFrom behavior id) ∧
          (scene.scheduler.Asks behavior scene.world id →
            ¬ scene.scheduler.AsksBefore behavior scene.world id →
            ticked.1.LeavesNext behavior id)) ∧
        ∀ behavior' requests requests', Alike id behavior behavior' → Without id requests requests' →
          scene.Avoids behavior (Meddles behavior id) requests →
          scene.Avoids behavior' (Meddles behavior' id) requests' →
            otherTicks id (scene.answers behavior requests) =
              otherTicks id (scene.answers behavior' requests') := by
  intro scene done
  have balanced : scene.scheduler.Balanced := balanced_after Balanced.empty before
  refine ⟨balanced.removed_tick behavior scene.world, ?_⟩
  intro id task found
  have issued := balanced.issued_of_get? found
  refine ⟨?_, ?_, ?_, ?_⟩
  · intro pending
    apply leavesNext balanced
    rw [remaining?, found, Option.map_some, pending]
  · intro request marks
    exact leavesNext (balanced.moves (serve_moves behavior scene balanced request))
      (pending_of_marksNow behavior balanced marks)
  · intro armed ticked
    obtain ⟨balanced', issued'⟩ := issued_serve behavior balanced issued .tick
    constructor
    · intro asks
      obtain ⟨visits, absent⟩ := balanced.tick_drops found behavior scene.world (.inr asks)
      exact ⟨visits, balanced.isCounted found absent, goneFrom balanced' issued' absent⟩
    · intro asks later
      exact leavesNext balanced' (balanced.tick_marks found behavior scene.world asks later armed)
  · intro behavior' requests requests' alike without unmeddled unmeddled'
    exact otherTicks_eq alike ⟨Scheduler.Apart.refl id _, rfl⟩ balanced balanced without unmeddled
      unmeddled'

/-- Scripts share nothing besides the clock. -/
theorem alike_script (id : TaskId) : Alike (σ := Unit) id Script.behavior Script.behavior := by
  intro callback context payload world world' _ clock
  have same : world = world' := by
    cases world
    cases world'
    cases clock
    rfl
  rw [same]
  exact ⟨rfl, rfl, rfl, fun _ _ => Iff.rfl, rfl⟩

/-- Three tasks, of which the first asks for the removal of the second, and the third for that of the
    first.  Only the second is removed, and counted, in the tick. -/
theorem marked_tasks_leave_three :
    let world : World Unit := ⟨Instant.epoch, ()⟩
    let task (name : String) (lines : List Script.Line) :
        Request Script.Callback Script.Payload Unit :=
      .add ⟨none, name, .ofLines lines, .unit, 100, 0⟩
    let before := [task "first" [⟨.mark ⟨2⟩, none⟩], task "second" [], task "third" [⟨.mark ⟨1⟩, none⟩],
      .turn ⟨Clock.atSecond 1, ()⟩]
    let scene := (start world).after Script.behavior before
    let marked := (start world).after Script.behavior (before ++ [Request.markForRemoval ⟨3⟩])
    let ticked := scene.serve Script.behavior .tick
    let rounds : List (Request Script.Callback Script.Payload Unit) :=
      [.tick, .turn ⟨Clock.atSecond 2, ()⟩, .tick]
    ticked.2.visits.filter (·.task = ⟨2⟩) = [.dropped ⟨2⟩ "second"] ∧
      (scene.scheduler.tick Script.behavior scene.world).report.removed = 1 ∧
      ticked.1.LeavesNext Script.behavior ⟨1⟩ ∧
      (scene.serve Script.behavior (.markForRemoval ⟨3⟩)).1.LeavesNext Script.behavior ⟨3⟩ ∧
      marked.runs Script.behavior ⟨3⟩ rounds = 0 ∧
      otherTicks ⟨2⟩ (scene.answers Script.behavior (.markForRemoval ⟨2⟩ :: rounds)) =
        otherTicks ⟨2⟩ (scene.answers Script.behavior rounds) := by
  intro world task before scene marked ticked rounds
  have one : scene.scheduler.remaining? ⟨1⟩ = some .forever := by decide +kernel
  have two : (scene.scheduler.get? ⟨2⟩).map (fun t => (t.name, t.remaining)) =
      some ("second", .forever) := by
    decide +kernel
  have three : (scene.scheduler.get? ⟨3⟩).isSome := by decide +kernel
  have pending : marked.scheduler.remaining? ⟨3⟩ = some .pendingRemoval := by decide +kernel
  obtain ⟨first, found, forever⟩ := Option.map_eq_some_iff.mp one
  obtain ⟨second, found', same⟩ := Option.map_eq_some_iff.mp two
  obtain ⟨third, found''⟩ := Option.isSome_iff_exists.mp three
  obtain ⟨left, stays, pending⟩ := Option.map_eq_some_iff.mp pending
  obtain ⟨name, forever'⟩ := Prod.mk.inj same
  -- the first task's removal is asked for after its stop, and the second one's before
  obtain ⟨counts, leave⟩ := marked_tasks_leave Script.behavior world before
  obtain ⟨-, -, later, -⟩ := leave ⟨1⟩ first found
  obtain ⟨-, -, sooner, others⟩ := leave ⟨2⟩ second found'
  obtain ⟨-, outside, -⟩ := leave ⟨3⟩ third found''
  obtain ⟨-, again⟩ := marked_tasks_leave Script.behavior world
    (before ++ [Request.markForRemoval ⟨3⟩])
  obtain ⟨next, -⟩ := again ⟨3⟩ left stays
  have dropped := (sooner (by rw [forever']; decide)).1 (by decide +kernel)
  rw [name] at dropped
  refine ⟨dropped.1, ?_, ?_, ?_, ?_, ?_⟩
  · exact counts.trans (by decide +kernel)
  · exact (later (by rw [forever]; decide)).2 (by decide +kernel) (by decide +kernel)
  · exact outside (.markForRemoval ⟨3⟩) (.inr ⟨rfl, by decide +kernel⟩)
  · exact (next pending).silent rounds (by decide +kernel)
  · have about : Request.IsAbout ⟨2⟩
        (.markForRemoval ⟨2⟩ : Request Script.Callback Script.Payload Unit) :=
      rfl
    have without : Without ⟨2⟩ (.markForRemoval ⟨2⟩ :: rounds) rounds :=
      .leave _ about (.keep _ (.keep _ (.keep _ .nil)))
    exact others Script.behavior _ rounds (alike_script ⟨2⟩) without (by decide +kernel)
      (by decide +kernel)

end Scene

end Backlog
