import Backlog.Daemon
import Backlog.Proofs.Schedule.Requests

/-!
# The two tasks of a daemon

A daemon sweeps and beats, in this order and forever.  Of each of the two tasks only that
changes when it ran last and how often, `Turns`; the rest of the scheduler is `Daemon.rota`.
A daemon starts with a rota (`Daemon.start_eq`), a tick takes the turns that are due
(`Daemon.tick_rota`), and a shutdown leaves nothing to do.
-/

namespace Backlog

/-! ## Jobs -/

/-- The name of the task that was visited. -/
def Visit.name {ε : Type} : Visit ε → String
  | fired _ name _ _ _ | dropped _ name => name

namespace Job

theorem removals_behavior (job : Job) (context : Context) (payload : JobPayload)
    (world : World Store) : (Job.behavior job context payload world).removals = [] := by
  cases job with
  | retention most age => rfl
  | heartbeat => cases payload <;> rfl

theorem clock_behavior (job : Job) (context : Context) (payload : JobPayload)
    (world : World Store) : (Job.behavior job context payload world).world.clock = world.clock := by
  cases job with
  | retention most age => rfl
  | heartbeat => cases payload <;> rfl

/-- A heartbeat changes nothing but its payload. -/
theorem world_heartbeat (context : Context) (payload : JobPayload) (world : World Store) :
    (Job.behavior .heartbeat context payload world).world = world := by
  cases payload <;> rfl

/-- A run of a task in a tick that begins at `now`. -/
def run (task : Task Job JobPayload) (now : Instant) (store : Store) :
    Reaction Job JobPayload Store (List Event) :=
  Job.behavior task.callback ⟨task.id, task.name, now⟩ task.payload ⟨now, store⟩

/-- A task of the daemon that is there forever runs if it is due, and stays. -/
theorem meet_forever {task : Task Job JobPayload} (forever : task.remaining = .forever)
    (now : Instant) (store : Store) :
    meet Job.behavior now [] ⟨now, store⟩ task =
      ⟨task, some (if task.isDue now then Scheduler.ran task now (run task now store) else task), [],
        ⟨now, if task.isDue now then (run task now store).world.shared else store⟩,
        if task.isDue now then
          [.fired task.id task.name now now (run task now store).output]
        else []⟩ := by
  have armed : ¬ (task.isPendingRemoval = true ∨ task.id ∈ ([] : List TaskId)) := by
    simp [Task.isPendingRemoval, forever]
  have none : (run task now store).removals = [] := removals_behavior _ _ _ _
  have clock : (run task now store).world.clock = now := clock_behavior _ _ _ _
  unfold run at none clock ⊢
  rw [meet_eq]
  generalize Job.behavior task.callback ⟨task.id, task.name, now⟩ task.payload ⟨now, store⟩ =
    reaction at none clock ⊢
  obtain ⟨callback, payload, ⟨time, shared⟩, removals, output⟩ := reaction
  dsimp only at none clock
  subst none clock
  rw [if_neg armed]
  split
  · -- what remains is forever, so the run does not take the last of it
    simp [Task.spent, Scheduler.ran, forever]
  · rfl

end Job

/-! ## The rota -/

/-- The runs of a task. -/
structure Turns where
  /-- When it last ran, or was added. -/
  last : Instant
  count : Nat

/-- The runs after a tick, in which the task runs if it is due. -/
def Turns.after (t : Turns) (due : Bool) (now : Instant) : Turns :=
  if due then ⟨now, t.count + 1⟩ else t

namespace Daemon

/-- The owner of the tasks. -/
def self : OwnerId := ⟨1⟩

/-- The sweep as it stands in the list. -/
def sweepTask (c : Config) (t : Turns) : Task Job JobPayload :=
  { (retentionTask c self).made ⟨1⟩ .forever t.last with fireCount := t.count }

/-- The heartbeat as it stands in the list.  It carries the number of its runs. -/
def beatTask (t : Turns) : Task Job JobPayload :=
  { (heartbeatTask self).made ⟨2⟩ .forever t.last with
    payload := .beats t.count
    fireCount := t.count }

/-- The scheduler of a daemon. -/
def rota (c : Config) (sweeps beats : Turns) : Scheduler Job JobPayload where
  tasks := [sweepTask c sweeps, beatTask beats]
  owners := [⟨self, ownerName, .noError, [⟨1⟩, ⟨2⟩]⟩]
  nextTask := 3
  nextOwner := 2

/-- A daemon at work. -/
def working (c : Config) (sweeps beats : Turns) (store : Store) : Daemon :=
  ⟨rota c sweeps beats, store, self⟩

/-- A daemon after its shutdown. -/
def stopped (store : Store) : Daemon :=
  ⟨⟨[], [], 3, 2⟩, store, self⟩

/-! ## The start -/

/-- There is one backend, and it is taken by its name. -/
theorem openHistory_fst (c : Config) (hash : List UInt8 → Nat) :
    (openHistory c hash).1 =
      if c.backend = Store.backendName then
        .ok (.empty hash c.serverName c.hashBuckets.toNat)
      else .error (.notFound (.backend c.backend)) := by
  by_cases named : c.backend = Store.backendName
  · simp [openHistory, Registry.register, Registry.take, Registry.get?, Registry.empty, named,
      Except.map]
  · have other : ¬ Store.backendName = c.backend := fun same => named same.symm
    simp [openHistory, Registry.register, Registry.take, Registry.get?, Registry.empty, named, other,
      Except.map]

/-- A scheduler that only knows the daemon. -/
def hired : Scheduler Job JobPayload :=
  ⟨[], [⟨self, ownerName, .noError, []⟩], 1, 2⟩

theorem registerOwner_empty :
    (Scheduler.empty : Scheduler Job JobPayload).registerOwner ownerName = (self, hired) := rfl

theorem add_retentionTask_of_negative {c : Config} (negative : c.retentionEveryMs.toInt < 0)
    (now : Instant) :
    (hired.add now (retentionTask c self)).answer =
      .error (.invalidArgument (.negativeInterval c.retentionEveryMs.toInt)) := by
  have refused : Scheduler.checkNew (retentionTask c self) =
      .error (.negativeInterval c.retentionEveryMs.toInt) := by
    simp [Scheduler.checkNew, retentionTask, negative]
  rw [Scheduler.add_of_refused rfl refused]
  rfl

theorem add_retentionTask {c : Config} (valid : ¬ c.retentionEveryMs.toInt < 0) (now : Instant) :
    (hired.add now (retentionTask c self)).answer = .ok ⟨1⟩ ∧
      ∃ status, (hired.add now (retentionTask c self)).state =
        ⟨[sweepTask c ⟨now, 0⟩], [⟨self, ownerName, status, [⟨1⟩]⟩], 2, 2⟩ := by
  have checked : Scheduler.checkNew (retentionTask c self) = .ok .forever := by
    have named : ¬ (retentionTask c self).name = "" := by simp [retentionTask]
    have long : ¬ (retentionTask c self).intervalMs.toInt < 0 := valid
    have counted : ¬ (retentionTask c self).count.toInt < 0 := by simp [retentionTask]
    rw [Scheduler.checkNew, if_neg named, if_neg long, if_neg counted]
    rfl
  obtain ⟨answer, state⟩ := hired.add_of_checked now rfl checked
  exact ⟨answer, _, state⟩

/-- Whatever the owner was told of the sweep, it is told that the heartbeat is as it should. -/
theorem add_heartbeatTask (sweep : Task Job JobPayload) (status : Status) (now : Instant) :
    let swept : Scheduler Job JobPayload := ⟨[sweep], [⟨self, ownerName, status, [⟨1⟩]⟩], 2, 2⟩
    (swept.add now (heartbeatTask self)).answer = .ok ⟨2⟩ ∧
      (swept.add now (heartbeatTask self)).state =
        ⟨[sweep, beatTask ⟨now, 0⟩], [⟨self, ownerName, .noError, [⟨1⟩, ⟨2⟩]⟩], 3, 2⟩ :=
  ⟨rfl, rfl⟩

/-- A daemon starts if there is its backend and its interval is not negative. -/
theorem start_eq (c : Config) (hash : List UInt8 → Nat) (now : Instant) :
    (start c hash now).1 =
      if c.backend = Store.backendName then
        if c.retentionEveryMs.toInt < 0 then
          .error (.invalidArgument (.negativeInterval c.retentionEveryMs.toInt))
        else .ok (working c ⟨now, 0⟩ ⟨now, 0⟩ (.empty hash c.serverName c.hashBuckets.toNat))
      else .error (.notFound (.backend c.backend)) := by
  have opened := openHistory_fst c hash
  unfold start
  -- what the registry logs does not matter for the answer
  generalize openHistory c hash = history at opened ⊢
  obtain ⟨opening, log⟩ := history
  dsimp only at opened
  subst opened
  by_cases named : c.backend = Store.backendName
  · simp only [if_pos named, registerOwner_empty]
    by_cases negative : c.retentionEveryMs.toInt < 0
    · rw [if_pos negative]
      simp only [add_retentionTask_of_negative negative]
    · obtain ⟨answer, status, state⟩ := add_retentionTask negative now
      obtain ⟨answer', state'⟩ := add_heartbeatTask (sweepTask c ⟨now, 0⟩) status now
      rw [if_neg negative]
      simp only [answer, state, answer', state']
      rfl
  · simp only [if_neg named]

/-! ## Ticks and the end -/

variable (c : Config) (sweeps beats : Turns) (now : Instant) (store : Store)

/-- The store after a sweep within the limits of the settings. -/
def swept : Store :=
  (store.trimAll now c.maxLines.toNat (.ofSeconds c.maxAgeSecs.toNat)).state

/-- When the sweep is due: an interval of 0 is none that a new task can have. -/
theorem isDue_sweepTask (plain : ¬ now.IsLeap) (plain' : ¬ sweeps.last.IsLeap) :
    (sweepTask c sweeps).isDue now = true ↔
      sweeps.last.toNanos + max 100 c.retentionEveryMs.toInt * nanosPerMilli ≤ now.toNanos := by
  have long := Scheduler.toNat_raised c.retentionEveryMs
  have positive : 0 < Scheduler.raised c.retentionEveryMs := by
    rw [UInt64.lt_iff_toNat_lt, UInt64.toNat_zero]
    omega
  have passed := (Scheduler.isInterval_raised c.retentionEveryMs).isOver_iff positive now sweeps.last
  rw [Instant.since_eq plain plain', Int.natCast_mul, long] at passed
  refine Iff.trans passed ?_
  omega

theorem sweepTask_after (due : Bool) :
    sweepTask c (sweeps.after due now) =
      if due then Scheduler.ran (sweepTask c sweeps) now (Job.run (sweepTask c sweeps) now store)
      else sweepTask c sweeps := by
  cases due <;> rfl

theorem beatTask_after (due : Bool) :
    beatTask (beats.after due now) =
      if due then Scheduler.ran (beatTask beats) now (Job.run (beatTask beats) now store)
      else beatTask beats := by
  cases due <;> rfl

/-- A tick sweeps or not, and then beats or not, each as it is due. -/
theorem tick_rota :
    let due := (sweepTask c sweeps).isDue now
    let due' := (beatTask beats).isDue now
    let store' := if due then swept c now store else store
    (rota c sweeps beats).tick Job.behavior ⟨now, store⟩ =
      ⟨rota c (sweeps.after due now) (beats.after due' now), ⟨now, store'⟩,
        (if due then
            [.fired ⟨1⟩ "history_retention" now now (Job.run (sweepTask c sweeps) now store).output]
          else []) ++
          if due' then
            [.fired ⟨2⟩ "heartbeat" now now (Job.run (beatTask beats) now store').output]
          else []⟩ := by
  intro due due' store'
  have first := Job.meet_forever (rfl : (sweepTask c sweeps).remaining = .forever) now store
  have second := Job.meet_forever (rfl : (beatTask beats).remaining = .forever) now store'
  have same : (Job.run (beatTask beats) now store').world.shared = store' := rfl
  rw [← sweepTask_after] at first
  rw [← beatTask_after, same, ite_self] at second
  -- the heartbeat finds the history as the sweep leaves it
  change meet _ _ _ _ _ = ⟨_, _, [], ⟨now, store'⟩, _⟩ at first
  rw [Scheduler.tick_eq]
  simp only [rota, pass, first, second]
  -- no task left, and none has a mark
  simp only [Scheduler.afterPass, Pass.stayed, Pass.left, Pass.visits, Stop.left, Task.markedIn_nil,
    List.filterMap_cons, List.filterMap_nil, List.flatMap_cons, List.flatMap_nil, List.append_nil,
    List.map_id_fun']
  rfl

theorem state_tick_working :
    ((working c sweeps beats store).tick now).state =
      working c (sweeps.after ((sweepTask c sweeps).isDue now) now)
        (beats.after ((beatTask beats).isDue now) now)
        (if (sweepTask c sweeps).isDue now then swept c now store else store) := by
  simp only [tick, working, tick_rota]

/-- Whether a tick runs the task of a name. -/
def runs (d : Daemon) (name : String) (now : Instant) : Bool :=
  (d.scheduler.tick Job.behavior ⟨now, d.store⟩).visits.any fun visit =>
    visit.isFired && visit.name == name

theorem runs_working :
    (working c sweeps beats store).runs "history_retention" now = (sweepTask c sweeps).isDue now := by
  rw [runs, working, tick_rota]
  cases (sweepTask c sweeps).isDue now <;> cases (beatTask beats).isDue now <;> rfl

theorem shutdown_working :
    (working c sweeps beats store).shutdown.state = stopped store ∧
      (working c sweeps beats store).shutdown.answer = 2 :=
  ⟨rfl, rfl⟩

theorem tick_stopped : (stopped store).tick now = ⟨stopped store, ⟨0, 0⟩, []⟩ := by
  have idle : (stopped store).scheduler.tick Job.behavior ⟨now, store⟩ =
      ⟨(stopped store).scheduler, ⟨now, store⟩, []⟩ := Scheduler.tick_eq _ _ _
  simp only [tick]
  rw [show (stopped store).store = store from rfl, idle]
  rfl

theorem shutdown_stopped :
    (stopped store).shutdown.state = stopped store ∧ (stopped store).shutdown.answer = 0 :=
  ⟨rfl, rfl⟩

end Daemon

end Backlog
