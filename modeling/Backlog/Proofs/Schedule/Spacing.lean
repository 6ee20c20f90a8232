import Backlog.Proofs.Schedule.Fate
import Backlog.Schedule.Script

/-!
# How far apart the runs of a task are

Whether a task is due is decided by the clock as it stands at the task's stop; what is noted
of a run is when its tick began.  So the interval lies between the start of the tick of one
run and the clock at the next run, `Run.Spaced`.  If a callback moves the clock, a later task
of the same tick runs after the tick began, and its next run may follow sooner than the
interval says.

`Timing.Course` are the ways in which a request can change when a task is due, with the runs
meanwhile.
-/

namespace Backlog

variable {κ π σ ε : Type}

/-- A run of a task: when its tick began, and what the clock showed when the callback was
    called. -/
structure Run where
  start : Instant
  clock : Instant
deriving DecidableEq

/-- The run that a visit is, if it is one of a task. -/
def Visit.runOf? (id : TaskId) : Visit ε → Option Run
  | fired task _ now clock _ => if task = id then some ⟨now, clock⟩ else none
  | dropped _ _ => none

/-- The runs of a task among visits. -/
def runsOf (id : TaskId) (visits : List (Visit ε)) : List Run :=
  visits.filterMap (·.runOf? id)

theorem runsOf_cons {id : TaskId} {visit : Visit ε} {run : Run} (runs : visit.runOf? id = some run)
    (rest : List (Visit ε)) : runsOf id (visit :: rest) = run :: runsOf id rest :=
  List.filterMap_cons_some runs

theorem runsOf_filter (id : TaskId) (visits : List (Visit ε)) :
    runsOf id (visits.filter (·.task = id)) = runsOf id visits := by
  have own : ∀ visit : Visit ε,
      (if decide (visit.task = id) then visit.runOf? id else none) = visit.runOf? id := by
    intro visit
    cases visit with
    | fired task => by_cases own : task = id <;> simp [Visit.task, Visit.runOf?, own]
    | dropped => simp [Visit.runOf?]
  simp only [runsOf, List.filterMap_filter, own]

/-- From one run to the next the interval has passed, counted from the start of the first
    one's tick. -/
def Run.Spaced (ms : UInt64) (run next : Run) : Prop :=
  ((ms.toNat * nanosPerMilli : Nat) : Int) ≤ next.clock.since run.start

/-- What decides when a task is due. -/
structure Timing where
  intervalMs : UInt64
  lastFiredAt : Instant

/-- Whether a task of this timing is due. -/
def Timing.isDue (t : Timing) (now : Instant) : Bool :=
  t.intervalMs == 0 || Clock.elapsedAtLeast now t.lastFiredAt t.intervalMs

/-- The timing of a task. -/
def Task.timing (t : Task κ π) : Timing := ⟨t.intervalMs, t.lastFiredAt⟩

namespace Timing

/-- What a request that is served at `now` can do to the timing of a task, if it is in the
    list, and the runs of the task meanwhile. -/
inductive Course (now : Instant) (retimes makes : Prop) :
    Option Timing → Option Timing → List Run → Prop where
  | rests (t : Option Timing) : Course now retimes makes t t []
  | leaves (t : Timing) : Course now retimes makes (some t) none []
  | runs (t : Timing) (clock : Instant) (due : t.isDue clock) :
    Course now retimes makes (some t) (some { t with lastFiredAt := now }) [⟨now, clock⟩]
  | ends (t : Timing) (clock : Instant) (due : t.isDue clock) :
    Course now retimes makes (some t) none [⟨now, clock⟩]
  | retimed (why : retimes) (t : Timing) (ms : UInt64) (within : IsInterval ms) :
    Course now retimes makes (some t) (some { t with intervalMs := ms }) []
  | made (why : makes) (ms : UInt64) (within : IsInterval ms) :
    Course now retimes makes none (some ⟨ms, now⟩) []

variable {now : Instant} {retimes makes : Prop} {t t' : Option Timing} {runs : List Run}

theorem Course.isInterval (course : Course now retimes makes t t' runs)
    (before : ∀ x, t = some x → IsInterval x.intervalMs) :
    ∀ x, t' = some x → IsInterval x.intervalMs := by
  cases course with
  | rests => exact before
  | leaves | ends => simp
  | runs t =>
    rintro _ ⟨⟩
    exact before t rfl
  | retimed why t ms within | made why ms within =>
    rintro _ ⟨⟩
    exact within

theorem Course.of_gone (course : Course now retimes makes none t' runs) (unmade : ¬ makes) :
    t' = none ∧ runs = [] := by
  cases course with
  | rests => exact ⟨rfl, rfl⟩
  | made why => exact absurd why unmade

/-- With its interval left alone, a task runs when it is due, and then it was last run at
    `now`, or it does not run. -/
theorem Course.steady {t : Timing} (course : Course now retimes makes (some t) t' runs)
    (steady : ¬ retimes) :
    (runs = [] ∧ ∀ x, t' = some x → x = t) ∨
      ∃ clock, t.isDue clock = true ∧ runs = [⟨now, clock⟩] ∧
        ∀ x, t' = some x → x = { t with lastFiredAt := now } := by
  cases course with
  | rests | leaves => simp
  | runs _ clock due | ends _ clock due => exact .inr ⟨clock, due, rfl, by simp⟩
  | retimed why => exact absurd why steady

/-- Of a run, and of a task that is made, the start of the request is noted. -/
theorem Course.noted (course : Course now retimes makes t t' runs) {first : Run}
    (begins : first ∈ runs ∨ t = none ∧ first.start = now) {x : Timing} (left : t' = some x) :
    first.start = x.lastFiredAt := by
  cases course with
  | rests =>
    rcases begins with run | ⟨absent, -⟩
    · cases run
    · rw [absent] at left
      cases left
  | leaves | ends => cases left
  | runs t clock due =>
    cases left
    rcases begins with run | ⟨absent, -⟩
    · rw [List.mem_singleton.mp run]
    · cases absent
  | retimed =>
    rcases begins with run | ⟨absent, -⟩
    · cases run
    · cases absent
  | made =>
    cases left
    rcases begins with run | ⟨-, start⟩
    · cases run
    · exact start

theorem spaced_of_isDue {t : Timing} (within : IsInterval t.intervalMs) (positive : 0 < t.intervalMs)
    {run next : Run} (noted : run.start = t.lastFiredAt) (due : t.isDue next.clock = true) :
    run.Spaced t.intervalMs next := by
  rw [Run.Spaced, noted]
  exact (within.isOver_iff positive _ _).mp due

end Timing

namespace Scheduler

variable {s : Scheduler κ π}

/-- The timing of a task, if it is in the list. -/
def timing? (s : Scheduler κ π) (id : TaskId) : Option Timing :=
  (s.get? id).map Task.timing

theorem timing_markedIn (asked : List TaskId) (t : Task κ π) :
    (t.markedIn asked).timing = t.timing := by
  unfold Task.markedIn
  split <;> rfl

theorem timing_of_spent {t left : Task κ π} (spent : t.spent = some left) : left.timing = t.timing := by
  unfold Task.spent at spent
  split at spent
  · split at spent
    · cases spent
    · cases spent
      rfl
  · cases spent
    rfl

/-! ## Requests, one by one -/

section Courses

variable {now : Instant} {retimes makes : Prop}

open Timing (Course)

theorem Balanced.timing_tick (balanced : s.Balanced) (behavior : Behavior κ π σ ε) (world : World σ)
    (id : TaskId) :
    let done := s.tick behavior world
    Course world.clock retimes makes (s.timing? id) (done.scheduler.timing? id)
      (runsOf id done.visits) := by
  intro done
  -- what the tick does to the task is told by the one stop that the pass makes at it
  rw [← runsOf_filter, balanced.visits_tick behavior world id]
  simp only [timing?, done, balanced.get?_tick, s.get?_eq_task_stop? behavior world.clock [] world]
  generalize passed : pass behavior world.clock [] world s.tasks = p
  cases found : p.stop? id with
  | none => exact .rests none
  | some stop =>
    have same : stop.task.id = id := by simpa using List.find?_some found
    obtain ⟨earlier, before, task, goes⟩ :=
      goes_of_mem_pass (passed ▸ List.mem_of_find?_eq_some found : stop ∈ _)
    simp only [Option.map_some, Option.bind_some, Option.getD_some]
    cases goes with
    | leaves => exact .leaves task.timing
    | waits =>
      simp only [Option.map_some, timing_markedIn]
      exact .rests (some task.timing)
    | runs armed due reaction reacts stays settles =>
      have own : (Visit.fired task.id task.name world.clock before.clock reaction.output).runOf? id =
          some ⟨world.clock, before.clock⟩ := if_pos same
      cases stays with
      | none =>
        simp only [Option.isNone_none, if_true, runsOf_cons own]
        exact .ends task.timing before.clock due
      | some left =>
        have kept : left.timing = { task.timing with lastFiredAt := world.clock } := by
          split at settles
          · cases settles
            rfl
          · exact (timing_of_spent settles.symm).trans rfl
        simp only [Option.isNone_some, Option.map_some, timing_markedIn, kept, runsOf_cons own]
        rw [if_neg Bool.false_ne_true]
        exact .runs task.timing before.clock due

theorem Balanced.timing_releaseOwner (balanced : s.Balanced) (owner : OwnerId) (id : TaskId) :
    Course now retimes makes (s.timing? id) ((s.releaseOwner owner).state.timing? id) [] := by
  simp only [timing?, balanced.get?_releaseOwner]
  cases s.get? id with
  | none => exact .rests none
  | some task =>
    by_cases owned : task.owner = some owner
    · rw [Option.filter_some, if_neg (by simpa using owned)]
      exact .leaves task.timing
    · rw [Option.filter_some, if_pos (by simpa using owned)]
      exact .rests (some task.timing)

theorem Balanced.timing_remove (balanced : s.Balanced) (gone id : TaskId) :
    Course now retimes makes (s.timing? id) ((s.remove gone).state.timing? id) [] := by
  simp only [timing?, balanced.get?_remove]
  cases s.get? id with
  | none => exact .rests none
  | some task =>
    by_cases own : task.id = gone
    · rw [Option.filter_some, if_neg (by simpa using own)]
      exact .leaves task.timing
    · rw [Option.filter_some, if_pos (by simpa using own)]
      exact .rests (some task.timing)

theorem timing_markForRemoval (s : Scheduler κ π) (marking id : TaskId) :
    Course now retimes makes (s.timing? id) ((s.markForRemoval marking).state.timing? id) [] := by
  simp only [timing?, get?_markForRemoval]
  cases s.get? id with
  | none => simpa using .rests none
  | some task =>
    -- a mark changes neither the interval nor the time of the last run
    split <;> exact .rests (some task.timing)

theorem Balanced.timing_add (balanced : s.Balanced) (request : NewTask κ π) (id : TaskId)
    (named : (s.add now request).answer = .ok id → makes) :
    Course now retimes makes (s.timing? id) ((s.add now request).state.timing? id) [] := by
  obtain ⟨-, tasks, -⟩ := s.add_makes now request
  cases new : s.newTask? now request with
  | none =>
    rw [new, Option.toList_none, List.append_nil] at tasks
    simp only [timing?, get?_congr tasks]
    exact .rests _
  | some task =>
    rw [new] at tasks
    have answer := answer_add_of_some new
    obtain ⟨remaining, -, rfl⟩ := made_of_newTask? new
    simp only [timing?, get?_append tasks]
    by_cases own : (⟨s.nextTask⟩ : TaskId) = id
    · -- the handle is new, so no task of the list had it
      have absent : s.get? id = none := own ▸ balanced.get?_next
      rw [absent, Option.none_or, NewTask.made, if_pos own]
      exact .made (named (own ▸ answer)) _ (isInterval_raised _)
    · rw [NewTask.made, if_neg own, Option.or_none]
      exact .rests _

theorem Balanced.timing_modify (balanced : s.Balanced) (changing : TaskId) (u : TaskUpdate κ π)
    (id : TaskId)
    (granted : changing = id → u.intervalMs.isSome → (s.modify changing u).answer = .ok () → retimes) :
    Course now retimes makes (s.timing? id) ((s.modify changing u).state.timing? id) [] := by
  simp only [timing?, get?_mapTasks (u.id_onTask changing) (balanced.tasks_modify changing u)]
  cases found : s.get? id with
  | none => exact .rests none
  | some task =>
    have same := id_of_get? found
    simp only [Option.map_some]
    by_cases own : task.id = changing
    · cases set : u.granted with
      | error why =>
        have kept : u.onTask changing task = task := by simp [TaskUpdate.onTask, set]
        rw [kept]
        exact .rests (some task.timing)
      | ok grant =>
        obtain ⟨ms, remaining⟩ := grant
        -- an interval is set only if the request asked for one
        obtain ⟨-, interval, -, -⟩ := TaskUpdate.grants_of_granted set
        have changed : u.onTask changing task = u.applied ms remaining task := by
          simp [TaskUpdate.onTask, set, own]
        rw [changed]
        cases ms with
        | none => exact .rests (some task.timing)
        | some ms =>
          have here : changing = id := own.symm.trans same
          have asked : u.intervalMs.isSome := by
            cases given : u.intervalMs with
            | none =>
              rw [given] at interval
              cases interval
            | some _ => rfl
          have answer := (balanced.modify_granted (here ▸ found) set).1
          exact .retimed (granted here asked answer) task.timing ms
            (TaskUpdate.isInterval_of_interval interval)
    · have kept : u.onTask changing task = task := if_neg own
      rw [kept]
      exact .rests (some task.timing)

end Courses

end Scheduler

namespace Scene

open Scheduler

/-- Whether a request changes the interval of a task. -/
def Retimes (id : TaskId) (scene : Scene κ π σ) : Request κ π σ → Prop
  | .modify task update =>
    task = id ∧ update.intervalMs.isSome ∧ (scene.scheduler.modify task update).answer = .ok ()
  | _ => False

instance (id : TaskId) (scene : Scene κ π σ) : DecidablePred (scene.Retimes id)
  | .modify _ _ => inferInstanceAs (Decidable (_ ∧ _ ∧ _))
  | .registerOwner _ | .releaseOwner _ | .add _ | .markForRemoval _ | .remove _ | .tick | .turn _ =>
    inferInstanceAs (Decidable False)

theorem serve_timing (behavior : Behavior κ π σ ε) (scene : Scene κ π σ)
    (balanced : scene.scheduler.Balanced) (request : Request κ π σ) (id : TaskId) :
    let served := scene.serve behavior request
    Timing.Course scene.world.clock (scene.Retimes id request) (scene.Makes id request)
      (scene.scheduler.timing? id) (served.1.scheduler.timing? id) (runsOf id served.2.visits) := by
  cases request with
  | registerOwner name => exact .rests _
  | releaseOwner owner => exact balanced.timing_releaseOwner owner id
  | add task => exact balanced.timing_add task id fun makes => makes
  | modify task update =>
    exact balanced.timing_modify task update id fun own set granted => ⟨own, set, granted⟩
  | markForRemoval task => exact timing_markForRemoval scene.scheduler task id
  | remove task => exact balanced.timing_remove task id
  | tick => exact balanced.timing_tick behavior scene.world id
  | turn world => exact .rests _

/-! ## Runs of requests -/

/-- The runs of a task while requests are served. -/
def runsWhile (behavior : Behavior κ π σ ε) (id : TaskId) (scene : Scene κ π σ)
    (requests : List (Request κ π σ)) : List Run :=
  runsOf id ((scene.answers behavior requests).flatMap (·.visits))

theorem runsWhile_cons (behavior : Behavior κ π σ ε) (id : TaskId) (scene : Scene κ π σ)
    (request : Request κ π σ) (rest : List (Request κ π σ)) :
    scene.runsWhile behavior id (request :: rest) =
      runsOf id (scene.serve behavior request).2.visits ++
        (scene.serve behavior request).1.runsWhile behavior id rest := by
  simp only [runsWhile, runsOf, answers, List.flatMap_cons, List.filterMap_append]

variable {behavior : Behavior κ π σ ε} {scene : Scene κ π σ} {id : TaskId}

/-- A task that was in the list and is not any more does not run. -/
theorem runsWhile_of_gone (balanced : scene.scheduler.Balanced)
    (issued : id.number < scene.scheduler.nextTask) (gone : scene.scheduler.timing? id = none)
    (requests : List (Request κ π σ)) : scene.runsWhile behavior id requests = [] := by
  induction requests generalizing scene with
  | nil => rfl
  | cons request rest ih =>
    obtain ⟨balanced', issued'⟩ := issued_serve behavior balanced issued request
    have course := serve_timing behavior scene balanced request id
    rw [gone] at course
    obtain ⟨gone', none⟩ := course.of_gone (not_makes issued request)
    rw [runsWhile_cons, none, List.nil_append]
    exact ih balanced' issued' gone'

/-- Runs are spaced from the last one noted in the timing on. -/
theorem spaced_runsWhile {t : Timing} (balanced : scene.scheduler.Balanced)
    (issued : id.number < scene.scheduler.nextTask) (timed : scene.scheduler.timing? id = some t)
    (within : IsInterval t.intervalMs) (positive : 0 < t.intervalMs)
    {requests : List (Request κ π σ)} (steady : scene.Avoids behavior (Retimes id) requests)
    {first : Run} (noted : first.start = t.lastFiredAt) :
    (first :: scene.runsWhile behavior id requests).IsChain (Run.Spaced t.intervalMs) := by
  induction requests generalizing scene t first with
  | nil => exact .singleton first
  | cons request rest ih =>
    obtain ⟨steady, steady'⟩ := steady
    obtain ⟨balanced', issued'⟩ := issued_serve behavior balanced issued request
    have course := serve_timing behavior scene balanced request id
    rw [timed] at course
    rw [runsWhile_cons]
    rcases course.steady steady with ⟨none, same⟩ | ⟨clock, due, one, same⟩
    · rw [none, List.nil_append]
      cases left : (scene.serve behavior request).1.scheduler.timing? id with
      | none =>
        rw [runsWhile_of_gone balanced' issued' left]
        exact .singleton first
      | some t' =>
        obtain rfl := same t' left
        exact ih balanced' issued' left within positive steady' noted
    · -- the run is spaced from the one before, and those after it from itself
      have spaced : first.Spaced t.intervalMs ⟨scene.world.clock, clock⟩ :=
        Timing.spaced_of_isDue within positive noted due
      rw [one, List.singleton_append]
      refine List.isChain_cons_cons.mpr ⟨spaced, ?_⟩
      cases left : (scene.serve behavior request).1.scheduler.timing? id with
      | none =>
        rw [runsWhile_of_gone balanced' issued' left]
        exact .singleton _
      | some t' =>
        obtain rfl := same t' left
        exact ih balanced' issued' left within positive steady' rfl

/-! ## Spacing in every scheduler -/

/-- Whether a request runs a task, or makes it, which counts as a first run. -/
def Begins (behavior : Behavior κ π σ ε) (id : TaskId) (first : Run) (scene : Scene κ π σ)
    (request : Request κ π σ) : Prop :=
  first ∈ runsOf id (scene.serve behavior request).2.visits ∨
    scene.Makes id request ∧ first = ⟨scene.world.clock, scene.world.clock⟩

/-- Whether a request leaves the clock at an earlier time. -/
def SetsBack (behavior : Behavior κ π σ ε) (scene : Scene κ π σ) (request : Request κ π σ) : Prop :=
  (scene.serve behavior request).1.world.clock < scene.world.clock

instance (behavior : Behavior κ π σ ε) (scene : Scene κ π σ) : DecidablePred (scene.SetsBack behavior) :=
  fun request => inferInstanceAs (Decidable ((scene.serve behavior request).1.world.clock < _))

theorem isInterval_after (behavior : Behavior κ π σ ε) (world : World σ)
    (requests : List (Request κ π σ)) (id : TaskId) (t : Timing)
    (timed : ((start world).after behavior requests).scheduler.timing? id = some t) :
    IsInterval t.intervalMs := by
  suffices both : ((start world).after behavior requests).scheduler.Balanced ∧
      ∀ id t, ((start world).after behavior requests).scheduler.timing? id = some t →
        IsInterval t.intervalMs
    from both.2 id t timed
  have first : ∀ id t, (start world : Scene κ π σ).scheduler.timing? id = some t →
      IsInterval t.intervalMs := by
    intro id t timed
    cases timed
  apply after_of_serve (motive := fun scene => scene.scheduler.Balanced ∧
    ∀ id t, scene.scheduler.timing? id = some t → IsInterval t.intervalMs) _ ⟨Balanced.empty, first⟩
  rintro scene request ⟨balanced, within⟩
  refine ⟨balanced.moves (serve_moves behavior scene balanced request), ?_⟩
  intro id
  exact (serve_timing behavior scene balanced request id).isInterval (within id)

theorem timing?_of_makes (balanced : scene.scheduler.Balanced) {request : Request κ π σ}
    (makes : scene.Makes id request) : scene.scheduler.timing? id = none := by
  have next : ¬ id.number < scene.scheduler.nextTask := fun issued => not_makes issued request makes
  cases found : scene.scheduler.get? id with
  | none => rw [timing?, found, Option.map_none]
  | some task => exact absurd (balanced.issued_of_get? found) next

/-- In every scheduler that requests can reach, whatever callbacks do to the clock or others to it
    between ticks: while its interval is left alone, a task runs no sooner than the interval
    after the start of the tick of its run before, or after it was made.  Where no callback
    moved the clock before it in that tick, this is after the run itself. -/
theorem runs_are_spaced (behavior : Behavior κ π σ ε) (world : World σ)
    (before : List (Request κ π σ)) :
    let scene := (start world).after behavior before
    ∀ (request : Request κ π σ) (id : TaskId) (first : Run), scene.Begins behavior id first request →
      let begun := (scene.serve behavior request).1
      ∀ task, begun.scheduler.get? id = some task → 0 < task.intervalMs →
        ∀ later, begun.Avoids behavior (Retimes id) later →
          let runs := first :: begun.runsWhile behavior id later
          runs.IsChain (Run.Spaced task.intervalMs) ∧
            runs.IsChain fun run next => run.clock = run.start →
              ((task.intervalMs.toNat * nanosPerMilli : Nat) : Int) ≤ next.clock.since run.clock := by
  intro scene request id first begins begun task found positive later steady runs
  have balanced : scene.scheduler.Balanced := balanced_after Balanced.empty before
  have balanced' : begun.scheduler.Balanced :=
    balanced.moves (serve_moves behavior scene balanced request)
  have timed : begun.scheduler.timing? id = some task.timing := by
    rw [timing?, found, Option.map_some]
  have within : IsInterval task.timing.intervalMs := by
    apply isInterval_after behavior world (before ++ [request]) id
    rw [after, List.foldl_append]
    exact timed
  have noted : first.start = task.timing.lastFiredAt := by
    apply (serve_timing behavior scene balanced request id).noted _ timed
    rcases begins with run | ⟨makes, same⟩
    · exact .inl run
    · exact .inr ⟨timing?_of_makes balanced makes, by rw [same]⟩
  have spaced : runs.IsChain (Run.Spaced task.intervalMs) :=
    spaced_runsWhile balanced' (balanced'.issued_of_get? found) timed within positive steady noted
  refine ⟨spaced, spaced.imp ?_⟩
  intro run next spaced same
  rw [same]
  exact spaced

/-- A callback that takes half a second in its first run, and a task after it with an interval of
    a second. -/
theorem runs_are_spaced_second :
    let world : World Unit := ⟨Instant.epoch, ()⟩
    let slow : Request Script.Callback Script.Payload Unit :=
      .add ⟨none, "slow", .ofLines [⟨.advance 500, some [1]⟩], .unit, 1000, 0⟩
    let quick : Request Script.Callback Script.Payload Unit :=
      .add ⟨none, "quick", .ofLines [], .unit, 1000, 0⟩
    let scene := (start world).after Script.behavior [slow]
    let begun := (scene.serve Script.behavior quick).1
    let later : List (Request Script.Callback Script.Payload Unit) :=
      [.turn ⟨Clock.atSecond 1, ()⟩, .tick, .turn ⟨Clock.atSecond 2, ()⟩, .tick]
    let first : Run := ⟨Instant.epoch, Instant.epoch⟩
    scene.Begins Script.behavior ⟨2⟩ first quick ∧
      (begun.scheduler.get? ⟨2⟩).map (·.intervalMs) = some 1000 ∧
      begun.Avoids Script.behavior (Retimes ⟨2⟩) later ∧
      (begun.runsWhile Script.behavior ⟨2⟩ later).length = 2 ∧
      (first :: begun.runsWhile Script.behavior ⟨2⟩ later).IsChain (Run.Spaced 1000) := by
  intro world slow quick scene begun later first
  have makes : scene.Makes ⟨2⟩ quick := by
    change (scene.scheduler.add scene.world.clock _).answer = .ok ⟨2⟩
    decide
  have begins : scene.Begins Script.behavior ⟨2⟩ first quick := .inr ⟨makes, rfl⟩
  have interval : (begun.scheduler.get? ⟨2⟩).map (·.intervalMs) = some 1000 := by decide
  have steady : begun.Avoids Script.behavior (Retimes ⟨2⟩) later := by decide +kernel
  obtain ⟨task, found, same⟩ := Option.map_eq_some_iff.mp interval
  have spaced := (runs_are_spaced Script.behavior world [slow] quick ⟨2⟩ first begins task found
    (by rw [same]; decide) later steady).1
  rw [same] at spaced
  exact ⟨begins, interval, steady, by decide +kernel, spaced⟩

/-- There the clock at a run may be closer to the clock at the run before than the interval, although
    the clock never goes back. -/
theorem runs_are_not_spaced_by_clock :
    let world : World Unit := ⟨Instant.epoch, ()⟩
    let requests : List (Request Script.Callback Script.Payload Unit) :=
      [.add ⟨none, "slow", .ofLines [⟨.advance 500, some [1]⟩], .unit, 1000, 0⟩,
        .add ⟨none, "quick", .ofLines [], .unit, 1000, 0⟩,
        .turn ⟨Clock.atSecond 1, ()⟩, .tick, .turn ⟨Clock.atSecond 2, ()⟩, .tick]
    (start world).Avoids Script.behavior (SetsBack Script.behavior) requests ∧
      (start world).Avoids Script.behavior (Retimes ⟨2⟩) requests ∧
      (((start world).after Script.behavior requests).scheduler.get? ⟨2⟩).map (·.intervalMs) =
        some 1000 ∧
      ¬ ((start world).runsWhile Script.behavior ⟨2⟩ requests).IsChain fun run next =>
        ((1000 * nanosPerMilli : Nat) : Int) ≤ next.clock.since run.clock := by
  intro world requests
  exact ⟨by decide +kernel, by decide +kernel, by decide +kernel, by decide +kernel⟩

end Scene

end Backlog
