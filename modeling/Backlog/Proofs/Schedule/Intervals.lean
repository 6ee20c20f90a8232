import Backlog.Proofs.Schedule.Leaving

/-!
# The intervals of tasks

A `Setting` is an interval that a request was granted for a task, when the task was made or by
a change.  `Scene.settings` collects them along a run, and the interval of a task is what the
last one comes to: 0 where a change asked for that, and the number asked for everywhere else,
raised to the shortest interval.  Such a number is the same as a signed one, so a task runs in a
tick exactly if the clock at its stop is as far from its last run.
-/

namespace Backlog

open Scheduler (raised)

variable {κ π σ ε : Type}

/-! ## Settings -/

/-- An interval that was granted to a task. -/
inductive Setting where
  /-- When the task was made. -/
  | made (ms : Int64)
  | changed (ms : Int64)
deriving DecidableEq

namespace Setting

/-- The milliseconds that were asked for. -/
def asked : Setting → Int64
  | made ms | changed ms => ms

/-- The interval that they come to. -/
def granted : Setting → UInt64
  | made ms => raised ms
  | changed ms => if ms = 0 then 0 else raised ms

theorem raised_ne_zero (ms : Int64) : raised ms ≠ 0 := by
  intro none
  have least := Scheduler.toNat_raised ms
  rw [none, UInt64.toNat_zero] at least
  omega

theorem granted_eq_zero_iff (setting : Setting) : setting.granted = 0 ↔ setting = changed 0 := by
  cases setting with
  | made ms => simp [granted, raised_ne_zero]
  | changed ms => by_cases none : ms = 0 <;> simp [granted, none, raised_ne_zero]

theorem toNat_granted {setting : Setting} (busy : setting ≠ changed 0) :
    (setting.granted.toNat : Int) = max 100 setting.asked.toInt := by
  cases setting with
  | made ms => exact Scheduler.toNat_raised ms
  | changed ms =>
    have some : ms ≠ 0 := fun none => busy (none ▸ rfl)
    rw [granted, if_neg some]
    exact Scheduler.toNat_raised ms

end Setting

/-- What a request sets the interval of a task to, if it was granted. -/
def Request.setting? (id : TaskId) : Request κ π σ → Answer ε → Option Setting
  | .add task, .added (.ok made) => if made = id then some (.made task.intervalMs) else none
  | .modify task update, .modified (.ok ()) =>
    if task = id then update.intervalMs.map .changed else none
  | _, _ => none

namespace Scheduler

variable {s : Scheduler κ π} {id : TaskId} {left : Task κ π}

theorem Balanced.interval_made (balanced : s.Balanced) {now : Instant} {request : NewTask κ π}
    (answer : (s.add now request).answer = .ok id)
    (found : (s.add now request).state.get? id = some left) :
    left.intervalMs = (Setting.made request.intervalMs).granted := by
  obtain ⟨remaining, -, made⟩ := balanced.get?_add answer
  rw [made] at found
  cases found
  rfl

theorem Balanced.interval_changed (balanced : s.Balanced) {update : TaskUpdate κ π} {ms : Int64}
    (answer : (s.modify id update).answer = .ok ()) (asked : update.intervalMs = some ms)
    (found : (s.modify id update).state.get? id = some left) :
    left.intervalMs = (Setting.changed ms).granted := by
  rw [get?_mapTasks (update.id_onTask id) (balanced.tasks_modify id update)] at found
  obtain ⟨task, known, rfl⟩ := Option.map_eq_some_iff.mp found
  cases set : update.granted with
  | error why =>
    rw [(modify_refused known set).1] at answer
    cases answer
  | ok grant =>
    obtain ⟨-, interval, -, -⟩ := TaskUpdate.grants_of_granted set
    have changed : update.onTask id task = update.applied grant.1 grant.2 task := by
      simp [TaskUpdate.onTask, set, id_of_get? known]
    -- 0 is taken as it is, and what is granted besides is raised
    rw [asked, TaskUpdate.interval] at interval
    rw [changed, Setting.granted]
    split at interval
    · cases interval
    · split at interval
      · rename_i zero
        rw [if_pos zero, TaskUpdate.applied, ← Except.ok.inj interval]
        rfl
      · rename_i busy
        rw [if_neg busy, TaskUpdate.applied, ← Except.ok.inj interval]
        rfl

end Scheduler

/-- What neither makes a task nor changes its interval leaves the interval as it was. -/
theorem Timing.Course.interval {now : Instant} {retimes makes : Prop} {t t' : Option Timing}
    {runs : List Run} (course : Course now retimes makes t t' runs) (steady : ¬ retimes)
    (unmade : ¬ makes) {x : Timing} (left : t' = some x) :
    t.map (·.intervalMs) = some x.intervalMs := by
  cases course with
  | rests => rw [left, Option.map_some]
  | leaves | ends => cases left
  | runs =>
    cases left
    rfl
  | retimed why => exact absurd why steady
  | made why => exact absurd why unmade

namespace Scene

open Scheduler

theorem setting?_eq_none (behavior : Behavior κ π σ ε) {scene : Scene κ π σ} {id : TaskId}
    {request : Request κ π σ} (none : request.setting? id (scene.serve behavior request).2 = none) :
    ¬ scene.Retimes id request ∧ ¬ scene.Makes id request := by
  cases request with
  | add task =>
    refine ⟨fun retimes => retimes.elim, ?_⟩
    intro makes
    rw [Makes] at makes
    simp [serve, Request.setting?, makes] at none
  | modify changing update =>
    refine ⟨?_, fun makes => makes.elim⟩
    rintro ⟨rfl, sets, answer⟩
    simp only [serve, Request.setting?, answer, if_true, Option.map_eq_none_iff] at none
    rw [none] at sets
    cases sets
  | registerOwner | releaseOwner | markForRemoval | remove | tick | turn =>
    exact ⟨fun retimes => retimes.elim, fun makes => makes.elim⟩

/-- After a request the interval of a task is what the request set it to, or what it was. -/
theorem interval_serve (behavior : Behavior κ π σ ε) {scene : Scene κ π σ}
    (balanced : scene.scheduler.Balanced) (request : Request κ π σ) {id : TaskId} {left : Task κ π}
    (found : (scene.serve behavior request).1.scheduler.get? id = some left) :
    some left.intervalMs =
      ((request.setting? id (scene.serve behavior request).2).map Setting.granted).or
        ((scene.scheduler.get? id).map (·.intervalMs)) := by
  cases set : request.setting? id (scene.serve behavior request).2 with
  | none =>
    obtain ⟨steady, unmade⟩ := setting?_eq_none behavior set
    -- a request that sets no interval can only note a run or take the task out
    have course := serve_timing behavior scene balanced request id
    have timed : (scene.serve behavior request).1.scheduler.timing? id = some left.timing := by
      rw [timing?, found, Option.map_some]
    have kept := course.interval steady unmade timed
    rw [timing?, Option.map_map] at kept
    exact kept.symm
  | some setting =>
    simp only [Option.map_some, Option.some_or, Option.some.injEq]
    unfold Request.setting? at set
    split at set
    · rename_i task made answer
      split at set
      · rename_i own
        cases set
        subst own
        exact balanced.interval_made (Answer.added.inj answer) found
      · cases set
    · rename_i changing update answer
      split at set
      · rename_i own
        subst own
        obtain ⟨ms, asked, rfl⟩ := Option.map_eq_some_iff.mp set
        exact balanced.interval_changed (Answer.modified.inj answer) asked found
      · cases set
    · cases set

/-- The settings of a task's interval, in order. -/
def settings (behavior : Behavior κ π σ ε) (id : TaskId) :
    Scene κ π σ → List (Request κ π σ) → List Setting
  | _, [] => []
  | scene, request :: rest =>
    let (next, answer) := scene.serve behavior request
    (request.setting? id answer).toList ++ next.settings behavior id rest

/-- The interval of a task is what the last setting made of it. -/
theorem interval_after (behavior : Behavior κ π σ ε) {scene : Scene κ π σ}
    (balanced : scene.scheduler.Balanced) (requests : List (Request κ π σ)) {id : TaskId}
    {left : Task κ π} (found : (scene.after behavior requests).scheduler.get? id = some left) :
    some left.intervalMs =
      ((scene.settings behavior id requests).getLast?.map Setting.granted).or
        ((scene.scheduler.get? id).map (·.intervalMs)) := by
  induction requests generalizing scene with
  | nil =>
    have here : scene.scheduler.get? id = some left := found
    rw [here]
    rfl
  | cons request rest ih =>
    have next := balanced.moves (serve_moves behavior scene balanced request)
    have later := ih next found
    rw [settings, List.getLast?_append]
    cases last : (settings behavior id (scene.serve behavior request).1 rest).getLast? with
    | some setting =>
      rw [last] at later
      exact later
    | none =>
      -- the rest sets nothing, so the task was there before it, with the interval it has
      rw [last, Option.map_none, Option.none_or, eq_comm, Option.map_eq_some_iff] at later
      obtain ⟨task, known, same⟩ := later
      have step := interval_serve behavior balanced request known
      rw [same] at step
      rw [step, Option.none_or]
      cases request.setting? id (scene.serve behavior request).2 <;> rfl

end Scene

/-! ## The stop of a task -/

namespace Scheduler

/-- The difference is one of nanoseconds, without bounds. -/
theorem isDue_iff {task : Task κ π} {now : Instant} (within : IsInterval task.intervalMs)
    (positive : 0 < task.intervalMs) (plain : ¬ now.IsLeap) (fired : ¬ task.lastFiredAt.IsLeap) :
    task.isDue now = true ↔ ((task.intervalMs.toNat * nanosPerMilli : Nat) : Int) ≤
      now.toNanos - task.lastFiredAt.toNanos := by
  rw [Task.isDue, within.isOver_iff positive, Instant.since_eq plain fired]

/-- A task that is not to leave at its stop runs there if it is due, and once. -/
theorem Balanced.runsOf_tick {s : Scheduler κ π} (balanced : s.Balanced) {id : TaskId}
    {task : Task κ π} (found : s.get? id = some task) (behavior : Behavior κ π σ ε)
    (world : World σ) (armed : task.remaining ≠ .pendingRemoval)
    (unasked : ¬ s.AsksBefore behavior world id) :
    let clock := (s.passUpTo behavior world id).world.clock
    runsOf id (s.tick behavior world).visits =
      if task.isDue clock then [⟨world.clock, clock⟩] else [] := by
  intro clock
  obtain ⟨visits, -, -⟩ := balanced.tick_at found behavior world
  have own := id_of_get? found
  have stays : ¬ (task.isPendingRemoval = true ∨
      task.id ∈ (s.passUpTo behavior world id).asked) := by
    rintro (pending | asked)
    · exact armed (of_decide_eq_true pending)
    · exact unasked ⟨by rw [found]; rfl, own ▸ asked⟩
  have goes := Stop.goes_meet behavior world.clock (s.passUpTo behavior world id).asked
    (s.passUpTo behavior world id).world task
  rw [← runsOf_filter, visits]
  generalize meet behavior world.clock (s.passUpTo behavior world id).asked
    (s.passUpTo behavior world id).world task = stop at goes
  cases goes with
  | leaves ends => exact absurd ends stays
  | waits _ early =>
    rw [if_neg early]
    rfl
  | runs _ due reaction reacts left settles =>
    have run : (Visit.fired task.id task.name world.clock clock reaction.output).runOf? id =
        some ⟨world.clock, clock⟩ := if_pos own
    rw [if_pos due, runsOf_cons run]
    cases left <;> rfl

end Scheduler

namespace Scene

open Scheduler

/-- In every scheduler that requests can reach the interval of a task is 0 or at least 100, and the
    same as a signed number.  It is 0 exactly if the last request that set it changed it to 0, and
    otherwise the number asked for there, raised to 100.  In a tick, a task that is not to leave at
    its stop runs there, once, exactly if the clock at its stop is at least the interval after its
    last run, as a difference of nanoseconds without bounds. -/
theorem intervals_decide (behavior : Behavior κ π σ ε) (world : World σ)
    (requests : List (Request κ π σ)) :
    let scene := (start world).after behavior requests
    ∀ task ∈ scene.scheduler.tasks,
      (task.intervalMs = 0 ∨
          100 ≤ task.intervalMs.toNat ∧ task.intervalMs.toNat ≤ 9223372036854775807) ∧
        task.intervalMs.toInt64.toInt = task.intervalMs.toNat ∧
        (∃ last, ((start world).settings behavior task.id requests).getLast? = some last ∧
          (task.intervalMs = 0 ↔ last = .changed 0) ∧
          (last ≠ .changed 0 → (task.intervalMs.toNat : Int) = max 100 last.asked.toInt)) ∧
        let clock := (scene.scheduler.passUpTo behavior scene.world task.id).world.clock
        0 < task.intervalMs → task.remaining ≠ .pendingRemoval →
          ¬ scene.scheduler.AsksBefore behavior scene.world task.id →
            ¬ clock.IsLeap → ¬ task.lastFiredAt.IsLeap →
              runsOf task.id (scene.serve behavior .tick).2.visits =
                if ((task.intervalMs.toNat * nanosPerMilli : Nat) : Int) ≤
                    clock.toNanos - task.lastFiredAt.toNanos
                then [⟨scene.world.clock, clock⟩] else [] := by
  intro scene task member
  have new : (start world : Scene κ π σ).scheduler.Balanced := Balanced.empty
  have balanced : scene.scheduler.Balanced := balanced_after new requests
  have found : scene.scheduler.get? task.id = some task := balanced.get? member
  have within : IsInterval task.intervalMs := by
    apply isInterval_after behavior world requests task.id task.timing
    rw [timing?, found, Option.map_some]
  refine ⟨?_, toInt_toInt64 within.small, ?_, ?_⟩
  · rcases within with none | ⟨least, most⟩
    · exact .inl none
    · rw [Clock.longestMillis] at most
      exact .inr ⟨UInt64.le_iff_toNat_le.mp least, by omega⟩
  · -- a new scheduler has no task, so there is a last setting
    have set := interval_after behavior new requests found
    rw [show (start world : Scene κ π σ).scheduler.get? task.id = none from rfl, Option.map_none,
      Option.or_none, eq_comm, Option.map_eq_some_iff] at set
    obtain ⟨last, final, granted⟩ := set
    rw [← granted]
    exact ⟨last, final, last.granted_eq_zero_iff, Setting.toNat_granted⟩
  · intro clock positive armed unasked plain plain'
    have runs : runsOf task.id (scene.serve behavior .tick).2.visits =
        if task.isDue clock then [⟨scene.world.clock, clock⟩] else [] :=
      balanced.runsOf_tick found behavior scene.world armed unasked
    rw [runs]
    simp only [isDue_iff within positive plain plain']

/-- A task that is made at one end of the range, with its interval changed to 0 and back, runs at the
    other end, and not when the clock is set back. -/
theorem intervals_decide_far :
    let first := Clock.atSecond (-8334601228800)
    let last := Clock.atSecond 8210266876799
    let world : World Unit := ⟨first, ()⟩
    let far : NewTask Script.Callback Script.Payload :=
      ⟨none, "far", .ofLines [], .unit, 50, 0⟩
    let there : List (Request Script.Callback Script.Payload Unit) :=
      [.add far, .modify ⟨1⟩ { intervalMs := some 0 }, .modify ⟨1⟩ { intervalMs := some 30 },
        .turn ⟨last, ()⟩]
    let back := there ++ [.tick, .turn ⟨first, ()⟩]
    (start world).settings Script.behavior ⟨1⟩ there = [.made 50, .changed 0, .changed 30] ∧
      ((start world).after Script.behavior there).scheduler.tasks.map (·.intervalMs) = [100] ∧
      runsOf ⟨1⟩ (((start world).after Script.behavior there).serve Script.behavior .tick).2.visits =
        [⟨last, last⟩] ∧
      runsOf ⟨1⟩ (((start world).after Script.behavior back).serve Script.behavior .tick).2.visits =
        [] := by
  intro first last world far there back
  have early : (((start world).after Script.behavior there).scheduler.get? ⟨1⟩).map
      (fun t => (t.intervalMs, t.remaining, t.lastFiredAt)) = some (100, .forever, first) := by
    decide +kernel
  obtain ⟨task, found, same⟩ := Option.map_eq_some_iff.mp early
  simp only [Prod.mk.injEq] at same
  obtain ⟨interval, remains, fired⟩ := same
  obtain ⟨-, -, -, runs⟩ := intervals_decide Script.behavior world there task (mem_of_get? found)
  rw [id_of_get? found, interval, remains, fired] at runs
  have ran := runs (by decide) (by decide) (by decide +kernel) (by decide +kernel) (by decide +kernel)
  exact ⟨by decide +kernel, by decide +kernel, ran.trans (by decide +kernel), by decide +kernel⟩

end Scene

end Backlog
