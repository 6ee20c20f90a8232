import Backlog.Proofs.Schedule.Intervals
import Mathlib.Algebra.Order.Floor.Div

/-!
# Ticks at a steady pace

In `Scene.rounds` the clock is moved and the scheduler ticks, in turns.  Where each round moves
the clock by as much and no callback moves it, a task that is not marked is due when it has waited
for as many rounds as its interval has steps of the clock, rounded up.  `Scene.Paces` says how long
a task has waited, and `Scene.Keeps` what a number of rounds comes to from there on.  Each
run of a task starts the count anew, so that what is rounded up is lost once for each run, and
other tasks change nothing about it.
-/

namespace Backlog

variable {κ π σ ε : Type}

/-! ## What remains after some runs -/

namespace Remaining

/-- How many runs are made out of `k` that are due. -/
def most : Remaining → Nat → Nat
  | pendingRemoval, _ => 0
  | forever, k => k
  | times n, k => min n k

/-- Whether the task stays in the list through `k` runs. -/
def Lasts : Remaining → Nat → Prop
  | pendingRemoval, _ => False
  | forever, _ => True
  | times n, k => k < n

variable {r : Remaining}

theorem lasts_zero (counted : r.IsCount) (armed : r ≠ .pendingRemoval) : r.Lasts 0 := by
  cases r with
  | pendingRemoval => exact absurd rfl armed
  | forever => trivial
  | times n => exact counted.1

theorem armed_of_spent {left : Remaining} (armed : r ≠ .pendingRemoval) (runs : r.spent = some left) :
    left ≠ .pendingRemoval := by
  cases r with
  | pendingRemoval => exact absurd rfl armed
  | forever =>
    cases runs
    exact armed
  | times n =>
    simp only [spent] at runs
    split at runs
    · cases runs
    · cases runs
      simp

/-- The last run is made, and takes the task out of the list. -/
theorem most_of_spent_none (counted : r.IsCount) (last : r.spent = none) (k : Nat) :
    r.most (k + 1) = 1 ∧ ¬ r.Lasts (k + 1) := by
  cases r with
  | pendingRemoval | forever => cases last
  | times n =>
    simp only [spent] at last
    split at last
    · simp only [IsCount] at counted
      simp only [most, Lasts]
      omega
    · cases last

theorem most_of_spent_some (armed : r ≠ .pendingRemoval) {left : Remaining}
    (runs : r.spent = some left) (k : Nat) :
    r.most (k + 1) = left.most k + 1 ∧ (r.Lasts (k + 1) ↔ left.Lasts k) := by
  cases r with
  | pendingRemoval => exact absurd rfl armed
  | forever =>
    cases runs
    exact ⟨rfl, Iff.rfl⟩
  | times n =>
    simp only [spent] at runs
    split at runs
    · cases runs
    · cases runs
      simp only [most, Lasts]
      omega

end Remaining

/-! ## Ticks in which the clock stands -/

namespace Scheduler

variable {s : Scheduler κ π} {id : TaskId}

/-- Whether a callback moves the clock in a tick. -/
def MovesClock (behavior : Behavior κ π σ ε) (world : World σ) (s : Scheduler κ π) : Prop :=
  ∃ stop ∈ (pass behavior world.clock [] world s.tasks).stops, stop.world.clock ≠ world.clock

instance (behavior : Behavior κ π σ ε) (world : World σ) (s : Scheduler κ π) :
    Decidable (s.MovesClock behavior world) :=
  inferInstanceAs (Decidable (∃ stop ∈ (pass behavior world.clock [] world s.tasks).stops, _ ≠ _))

theorem clock_pass {behavior : Behavior κ π σ ε} {now : Instant} {asked : List TaskId}
    {world : World σ} {tasks : List (Task κ π)}
    (still : ∀ stop ∈ (pass behavior now asked world tasks).stops, stop.world.clock = now)
    (first : world.clock = now) : (pass behavior now asked world tasks).world.clock = now := by
  induction tasks generalizing asked world with
  | nil => exact first
  | cons task rest ih =>
    obtain ⟨here, later⟩ := List.forall_mem_cons.mp still
    exact ih later here

/-- Where no callback moves it, the clock stands from the start of a tick to its end. -/
theorem clock_tick {behavior : Behavior κ π σ ε} {world : World σ}
    (still : ¬ s.MovesClock behavior world) (id : TaskId) :
    (s.passUpTo behavior world id).world.clock = world.clock ∧
      (s.tick behavior world).world.clock = world.clock := by
  have stands : ∀ stop ∈ (pass behavior world.clock [] world s.tasks).stops,
      stop.world.clock = world.clock := by
    simpa [MovesClock] using still
  constructor
  · have split := pass_append behavior world.clock [] world (s.tasks.takeWhile (·.id ≠ id))
      (s.tasks.dropWhile (·.id ≠ id))
    rw [List.takeWhile_append_dropWhile] at split
    apply clock_pass _ rfl
    intro stop member
    apply stands stop
    rw [split]
    exact List.mem_append_left _ member
  · rw [tick_eq]
    exact clock_pass stands rfl

theorem asks_of_asksBefore {behavior : Behavior κ π σ ε} {world : World σ}
    (before : s.AsksBefore behavior world id) : s.Asks behavior world id := by
  obtain ⟨present, asked⟩ := before
  obtain ⟨task, found⟩ := Option.isSome_iff_exists.mp present
  obtain ⟨here, -⟩ := stop?_of_get? found behavior world
  have goes := Stop.goes_meet behavior world.clock (s.passUpTo behavior world id).asked
    (s.passUpTo behavior world id).world task
  refine ⟨_, List.mem_of_find?_eq_some here, ?_, .inl (goes.asked_subset asked)⟩
  exact (congrArg Task.id goes.task_eq).trans (id_of_get? found)

/-- A task that is not marked has one run less after a tick if it was due at its stop, and is as it
    was otherwise. -/
theorem Balanced.get?_tick_unmarked (balanced : s.Balanced) {task : Task κ π}
    (found : s.get? id = some task) (behavior : Behavior κ π σ ε) (world : World σ)
    (armed : task.remaining ≠ .pendingRemoval) (unmarked : ¬ s.Asks behavior world id) :
    let clock := (s.passUpTo behavior world id).world.clock
    ∃ reaction : Reaction κ π σ ε, (s.tick behavior world).scheduler.get? id =
      if task.isDue clock then (ran task world.clock reaction).spent else some task := by
  intro clock
  obtain ⟨-, left, -⟩ := balanced.tick_at found behavior world
  obtain ⟨here, -⟩ := stop?_of_get? found behavior world
  have goes := Stop.goes_meet behavior world.clock (s.passUpTo behavior world id).asked
    (s.passUpTo behavior world id).world task
  generalize meet behavior world.clock (s.passUpTo behavior world id).asked
    (s.passUpTo behavior world id).world task = stop at left here goes
  have member := List.mem_of_find?_eq_some here
  have own : stop.task.id = id := (congrArg Task.id goes.task_eq).trans (id_of_get? found)
  have unasked : id ∉ stop.asked := fun asked => unmarked ⟨stop, member, own, .inl asked⟩
  -- no removal is granted later in the tick either, so what stays at the stop is what is left
  have stays : (s.tick behavior world).scheduler.get? id = stop.stays := by
    rw [left]
    cases kept : stop.stays with
    | none => rfl
    | some x =>
      have named : x.id = id := (goes.id_of_stays kept).trans own
      rw [Option.map_some, Task.markedIn_of_not_mem]
      exact fun asked => unmarked ⟨stop, member, own, .inr ⟨kept ▸ rfl, named ▸ asked⟩⟩
  rw [stays]
  have same := id_of_get? found
  cases goes with
  | leaves ends =>
    rcases ends with pending | asked
    · exact absurd (of_decide_eq_true pending) armed
    · exact absurd (same ▸ asked) unasked
  | waits _ early =>
    refine ⟨behavior task.callback ⟨task.id, task.name, world.clock⟩ task.payload world, ?_⟩
    rw [if_neg early]
  | runs _ due reaction reacts rest settles =>
    have kept : task.id ∉ reaction.removals := fun asked =>
      unasked (List.mem_append_right _ (same ▸ asked))
    refine ⟨reaction, ?_⟩
    rw [if_pos due, settles, if_neg kept]

end Scheduler

/-! ## Rounds -/

/-- The numbers of the ticks that run a task, once for each run, where the next tick is number
    `k`. -/
def ticksOf (id : TaskId) : Nat → List (Answer ε) → List Nat
  | _, [] => []
  | k, .ticked visits :: rest => (runsOf id visits).map (fun _ => k) ++ ticksOf id (k + 1) rest
  | k, _ :: rest => ticksOf id k rest

namespace Scene

open Scheduler

variable {behavior : Behavior κ π σ ε} {scene : Scene κ π σ} {id : TaskId}

/-- A tick after each turn of the world. -/
def rounds (worlds : List (World σ)) : List (Request κ π σ) :=
  worlds.flatMap fun world => [.turn world, .tick]

/-- Whether a callback moves the clock while a request is served. -/
def MovesClock (behavior : Behavior κ π σ ε) (scene : Scene κ π σ) : Request κ π σ → Prop
  | .tick => scene.scheduler.MovesClock behavior scene.world
  | _ => False

instance (behavior : Behavior κ π σ ε) (scene : Scene κ π σ) :
    DecidablePred (scene.MovesClock behavior)
  | .tick => inferInstanceAs (Decidable (scene.scheduler.MovesClock behavior scene.world))
  | .registerOwner _ | .releaseOwner _ | .add _ | .modify _ _ | .markForRemoval _ | .remove _ |
    .turn _ => inferInstanceAs (Decidable False)

/-- One round. -/
def round (behavior : Behavior κ π σ ε) (scene : Scene κ π σ) (world : World σ) :
    Scene κ π σ × Answer ε :=
  ({ scene with world } : Scene κ π σ).serve behavior .tick

theorem issued_round (behavior : Behavior κ π σ ε) {scene : Scene κ π σ}
    (balanced : scene.scheduler.Balanced) {id : TaskId} (issued : id.number < scene.scheduler.nextTask)
    (world : World σ) :
    (scene.round behavior world).1.scheduler.Balanced ∧
      id.number < (scene.round behavior world).1.scheduler.nextTask := by
  obtain ⟨balanced, issued⟩ := issued_serve behavior balanced issued (.turn world)
  exact issued_serve behavior balanced issued .tick

theorem after_rounds_cons (behavior : Behavior κ π σ ε) (scene : Scene κ π σ) (world : World σ)
    (worlds : List (World σ)) :
    scene.after behavior (rounds (world :: worlds)) =
      (scene.round behavior world).1.after behavior (rounds worlds) := rfl

theorem ticksOf_rounds_cons (behavior : Behavior κ π σ ε) (scene : Scene κ π σ) (id : TaskId) (k : Nat)
    (world : World σ) (worlds : List (World σ)) :
    ticksOf id k (scene.answers behavior (rounds (world :: worlds))) =
      (runsOf id (scene.round behavior world).2.visits).map (fun _ => k) ++
        ticksOf id (k + 1) ((scene.round behavior world).1.answers behavior (rounds worlds)) := rfl

theorem avoids_rounds_cons (behavior : Behavior κ π σ ε) (P : Scene κ π σ → Request κ π σ → Prop)
    (scene : Scene κ π σ) (world : World σ) (worlds : List (World σ)) :
    scene.Avoids behavior P (rounds (world :: worlds)) ↔
      ¬ P scene (.turn world) ∧ ¬ P { scene with world } .tick ∧
        (scene.round behavior world).1.Avoids behavior P (rounds worlds) := Iff.rfl

theorem length_ticksOf (id : TaskId) (k : Nat) (answers : List (Answer ε)) :
    (ticksOf id k answers).length = (runsOf id (answers.flatMap (·.visits))).length := by
  induction answers generalizing k with
  | nil => rfl
  | cons answer rest ih =>
    cases answer with
    | ticked visits => simp [ticksOf, runsOf, Answer.visits, ih (k + 1)]
    | registered | released | added | modified | marked | removed | turned =>
      simp [ticksOf, Answer.visits, ih k]

/-- A task of the list, with the interval `ms` and `r` remaining, that last ran or was made `p` steps
    of `d` milliseconds before the clock. -/
structure Paces (id : TaskId) (ms : UInt64) (d p : Nat) (r : Remaining) (scene : Scene κ π σ) :
    Prop where
  balanced : scene.scheduler.Balanced
  plain : ¬ scene.world.clock.IsLeap
  counted : r.IsCount
  armed : r ≠ .pendingRemoval
  stands : ∃ task, scene.scheduler.get? id = some task ∧ task.remaining = r ∧
    task.intervalMs = ms ∧ ¬ task.lastFiredAt.IsLeap ∧
      scene.world.clock.toNanos - task.lastFiredAt.toNanos = ((p * d * nanosPerMilli : Nat) : Int)

variable {ms : UInt64} {d p : Nat} {r : Remaining}

theorem Paces.round (paces : scene.Paces id ms d p r) (within : IsInterval ms) (positive : 0 < ms)
    {world : World σ} (step : Clock.advance? scene.world.clock d = some world.clock)
    (still : ¬ scene.scheduler.MovesClock behavior world)
    (unmarked : ¬ scene.scheduler.Asks behavior world id) :
    let ticked := scene.round behavior world
    ticked.1.world.clock = world.clock ∧
      if ms.toNat ≤ d * (p + 1) then
        runsOf id ticked.2.visits = [⟨world.clock, world.clock⟩] ∧
          (r.spent = none → ticked.1.scheduler.get? id = none) ∧
          ∀ left, r.spent = some left → ticked.1.Paces id ms d 0 left
      else runsOf id ticked.2.visits = [] ∧ ticked.1.Paces id ms d (p + 1) r := by
  intro ticked
  obtain ⟨balanced, plain, counted, armed, task, found, remains, interval, fired, phase⟩ := paces
  subst remains
  obtain ⟨stands, clock⟩ := clock_tick still id
  obtain ⟨plain', later⟩ := Clock.advance?_plain plain step
  have balanced' : ticked.1.scheduler.Balanced :=
    balanced.moves (serve_moves behavior { scene with world } balanced .tick)
  have since : world.clock.toNanos - task.lastFiredAt.toNanos =
      (((p + 1) * d * nanosPerMilli : Nat) : Int) := by
    rw [Nat.add_mul, Nat.add_mul, Nat.one_mul, Int.natCast_add, ← phase, Int.natCast_mul d]
    omega
  have due : task.isDue world.clock = true ↔ ms.toNat ≤ d * (p + 1) := by
    subst interval
    rw [isDue_iff within positive plain' fired, since, Int.ofNat_le,
      Nat.mul_le_mul_right_iff (by decide), Nat.mul_comm]
  have runs := balanced.runsOf_tick found behavior world armed fun before =>
    unmarked (asks_of_asksBefore before)
  obtain ⟨reaction, left⟩ := balanced.get?_tick_unmarked found behavior world armed unmarked
  simp only [stands] at runs left
  by_cases ripe : ms.toNat ≤ d * (p + 1)
  · rw [if_pos (due.mpr ripe)] at runs left
    have spent := Task.map_remaining_spent (ran task world.clock reaction)
    rw [if_pos ripe]
    -- the last run is now that of this tick, so no step of the clock has passed since
    refine ⟨clock, runs, ?_, ?_⟩
    · intro last
      rw [show (ran task world.clock reaction).remaining.spent = none from last,
        Option.map_eq_none_iff] at spent
      exact left.trans spent
    · intro rest more
      rw [show (ran task world.clock reaction).remaining.spent = some rest from more] at spent
      obtain ⟨x, stays, rfl⟩ := Option.map_eq_some_iff.mp spent
      have timed := timing_of_spent stays
      have ms_eq : x.intervalMs = ms := (congrArg Timing.intervalMs timed).trans interval
      have fired_eq : x.lastFiredAt = world.clock := congrArg Timing.lastFiredAt timed
      refine ⟨balanced', clock.symm ▸ plain', Remaining.isCount_of_spent counted more,
        Remaining.armed_of_spent armed more, x, left.trans stays, rfl, ms_eq, fired_eq ▸ plain', ?_⟩
      rw [fired_eq, show ticked.1.world.clock = world.clock from clock]
      simp
  · rw [if_neg (fun isDue => ripe (due.mp isDue))] at runs left
    rw [if_neg ripe]
    refine ⟨clock, runs, balanced', clock.symm ▸ plain', counted, armed, task, left, rfl, interval,
      fired, ?_⟩
    rw [show ticked.1.world.clock = world.clock from clock, since]

theorem ticksOf_of_gone (balanced : scene.scheduler.Balanced)
    (issued : id.number < scene.scheduler.nextTask) (absent : scene.scheduler.get? id = none)
    (k : Nat) (requests : List (Request κ π σ)) :
    ticksOf id k (scene.answers behavior requests) = [] := by
  have gone : scene.scheduler.timing? id = none := by rw [timing?, absent, Option.map_none]
  have none : scene.runsWhile behavior id requests = [] :=
    runsWhile_of_gone balanced issued gone requests
  rw [← List.length_eq_zero_iff, length_ticksOf]
  exact List.length_eq_zero_iff.mpr none

/-- What rounds come to for a task with `r` remaining, when it ran in round `b`, or was made after it,
    and `p` rounds have passed since.  It runs `q` rounds after its last run, as often as something
    remains. -/
structure Keeps (behavior : Behavior κ π σ ε) (id : TaskId) (q b p : Nat) (r : Remaining)
    (worlds : List (World σ)) (scene : Scene κ π σ) : Prop where
  numbers : ticksOf id (b + p + 1) (scene.answers behavior (rounds worlds)) =
    (List.range (r.most ((worlds.length + p) / q))).map fun j => b + (j + 1) * q
  listed : ((scene.after behavior (rounds worlds)).scheduler.get? id).isSome ↔
    r.Lasts ((worlds.length + p) / q)

variable {q b : Nat} {world : World σ} {worlds : List (World σ)} {run : Run}

theorem Paces.keeps_nil (paces : scene.Paces id ms d p r) (early : p < q) :
    scene.Keeps behavior id q b p r [] := by
  obtain ⟨task, found, -⟩ := paces.stands
  have present : ((scene.after behavior (rounds [])).scheduler.get? id).isSome := by
    change (scene.scheduler.get? id).isSome
    rw [found]
    rfl
  constructor
  · cases r <;> simp [Remaining.most, rounds, answers, ticksOf, Nat.div_eq_of_lt early]
  · rw [List.length_nil, Nat.zero_add, Nat.div_eq_of_lt early]
    exact ⟨fun _ => Remaining.lasts_zero paces.counted paces.armed, fun _ => present⟩

theorem Keeps.waits (later : (scene.round behavior world).1.Keeps behavior id q b (p + 1) r worlds)
    (none : runsOf id (scene.round behavior world).2.visits = []) :
    scene.Keeps behavior id q b p r (world :: worlds) := by
  have rounds_eq : (world :: worlds).length + p = worlds.length + (p + 1) := by
    rw [List.length_cons]
    omega
  constructor
  · rw [ticksOf_rounds_cons, none, rounds_eq]
    exact later.numbers
  · rw [after_rounds_cons, rounds_eq]
    exact later.listed

/-- One run more is due in the rounds that begin with it. -/
theorem due_cons (here : p + 1 = q) :
    ((world :: worlds).length + p) / q = worlds.length / q + 1 := by
  rw [List.length_cons, Nat.add_assoc, Nat.add_comm 1 p, here]
  exact Nat.add_div_right _ (here ▸ Nat.succ_pos p)

theorem Keeps.runs {left : Remaining}
    (later : (scene.round behavior world).1.Keeps behavior id q (b + q) 0 left worlds)
    (here : p + 1 = q) (ran : runsOf id (scene.round behavior world).2.visits = [run])
    (armed : r ≠ .pendingRemoval) (more : r.spent = some left) :
    scene.Keeps behavior id q b p r (world :: worlds) := by
  obtain ⟨once, lasts⟩ := Remaining.most_of_spent_some armed more (worlds.length / q)
  obtain ⟨numbers, listed⟩ := later
  simp only [Nat.add_zero] at numbers listed
  constructor
  · rw [ticksOf_rounds_cons, ran, due_cons here, once, Nat.add_assoc b, here, numbers,
      List.range_succ_eq_map]
    simp only [List.map_cons, List.map_nil, List.map_map, Nat.zero_add, Nat.one_mul,
      List.singleton_append]
    congr 1
    apply List.map_congr_left
    intro j _
    rw [Function.comp_apply, Nat.succ_eq_add_one, Nat.add_mul (j + 1) 1 q, Nat.one_mul]
    omega
  · rw [after_rounds_cons, due_cons here, lasts]
    exact listed

theorem keeps_last (here : p + 1 = q) (ran : runsOf id (scene.round behavior world).2.visits = [run])
    (counted : r.IsCount) (last : r.spent = none)
    (balanced : (scene.round behavior world).1.scheduler.Balanced)
    (issued : id.number < (scene.round behavior world).1.scheduler.nextTask)
    (absent : (scene.round behavior world).1.scheduler.get? id = none) :
    scene.Keeps behavior id q b p r (world :: worlds) := by
  obtain ⟨once, done⟩ := Remaining.most_of_spent_none counted last (worlds.length / q)
  have gone : (scene.round behavior world).1.GoneFrom behavior id := goneFrom balanced issued absent
  constructor
  · rw [ticksOf_rounds_cons, ran, due_cons here, once, ticksOf_of_gone balanced issued absent,
      Nat.add_assoc b, here]
    simp
  · rw [after_rounds_cons, due_cons here, (gone (rounds worlds)).1.absent]
    simpa using done

/-- From any state of a task on, rounds of `d` milliseconds come to what they are to. -/
theorem Paces.keeps (within : IsInterval ms) (positive : 0 < ms) (steps : 0 < d)
    (paces : scene.Paces id ms d p r) (early : p < ms.toNat ⌈/⌉ d)
    (steady : (scene.world.clock :: worlds.map (·.clock)).IsChain
      fun now later => Clock.advance? now d = some later)
    (still : scene.Avoids behavior (MovesClock behavior) (rounds worlds))
    (unmarked : scene.Avoids behavior (Marks behavior id) (rounds worlds)) (b : Nat) :
    scene.Keeps behavior id (ms.toNat ⌈/⌉ d) b p r worlds := by
  -- by induction on the rounds, from any phase, whatever remains, and for any number of the last run
  induction worlds generalizing scene p r b with
  | nil => exact paces.keeps_nil early
  | cons world worlds ih =>
    obtain ⟨step, steady⟩ := List.isChain_cons_cons.mp steady
    -- what holds of all the rounds holds of the first, and of the rest after it
    obtain ⟨-, still, still'⟩ := (avoids_rounds_cons behavior _ scene world worlds).mp still
    obtain ⟨-, unmarked, unmarked'⟩ := (avoids_rounds_cons behavior _ scene world worlds).mp unmarked
    obtain ⟨clock, ticked⟩ := paces.round within positive step still unmarked
    have steady' : ((scene.round behavior world).1.world.clock :: worlds.map (·.clock)).IsChain
        fun now later => Clock.advance? now d = some later := by rwa [clock]
    have due : ms.toNat ⌈/⌉ d ≤ p + 1 ↔ ms.toNat ≤ d * (p + 1) := ceilDiv_le_iff_le_mul steps
    by_cases ripe : ms.toNat ≤ d * (p + 1)
    · have here : p + 1 = ms.toNat ⌈/⌉ d := Nat.le_antisymm early (due.mpr ripe)
      rw [if_pos ripe] at ticked
      obtain ⟨ran, ends, more⟩ := ticked
      cases spent : r.spent with
      | none =>
        obtain ⟨task, found, -⟩ := paces.stands
        obtain ⟨balanced, issued⟩ := issued_round behavior paces.balanced
          (paces.balanced.issued_of_get? found) world
        exact keeps_last here ran paces.counted spent balanced issued (ends spent)
      | some left =>
        have next := ih (more left spent) (here ▸ Nat.succ_pos p) steady' still' unmarked'
          (b + ms.toNat ⌈/⌉ d)
        exact next.runs here ran paces.armed spent
    · rw [if_neg ripe] at ticked
      obtain ⟨none, paces'⟩ := ticked
      have early' : p + 1 < ms.toNat ⌈/⌉ d := Nat.lt_of_not_le fun late => ripe (due.mp late)
      exact (ih paces' early' steady' still' unmarked' b).waits none

/-- A task that was just made. -/
theorem paces_of_add (behavior : Behavior κ π σ ε) (balanced : scene.scheduler.Balanced)
    (plain : ¬ scene.world.clock.IsLeap)
    {request : NewTask κ π} {c : Nat} (count : request.count.toInt = c)
    (answer : (scene.scheduler.add scene.world.clock request).answer = .ok id) (d : Nat) :
    (scene.serve behavior (.add request)).1.Paces id (raised request.intervalMs) d 0
      (if c = 0 then .forever else .times c) := by
  obtain ⟨r, read, made⟩ := balanced.get?_add answer
  rw [count] at read
  have counted := Remaining.isCount_of_ofCount read
  have same : r = if c = 0 then .forever else .times c := by
    split
    · rename_i none
      rw [none] at read
      exact (Except.ok.inj read).symm
    · exact Remaining.eq_times_of_ofCount (Nat.pos_of_ne_zero ‹_›) read
  have armed : r ≠ .pendingRemoval := by
    rw [same]
    split <;> simp
  rw [← same]
  exact ⟨balanced.moves (serve_moves behavior scene balanced (.add request)), plain, counted, armed,
    _, made, rfl, rfl, plain, by simp [serve, NewTask.made]⟩

/-- In every scheduler that requests can reach, whatever other tasks it has, a task is added with the
    interval `i` and the count `c`, while the clock shows no leap second.  From then on the clock is
    moved by `d` milliseconds before each tick, by no callback, and the task is not marked.  Then it
    runs in each round whose number is a multiple of `q`, the interval in steps of the clock rounded
    up, but not more than `c` times if that is not 0, and it is out of the list after the last. -/
theorem tasks_keep_pace (behavior : Behavior κ π σ ε) (world : World σ)
    (before : List (Request κ π σ)) :
    let scene := (start world).after behavior before
    ∀ (request : NewTask κ π) (id : TaskId) (i c : Nat),
      request.intervalMs.toInt = i → request.count.toInt = c →
        (scene.serve behavior (.add request)).2 = .added (.ok id) → ¬ scene.world.clock.IsLeap →
          let begun := (scene.serve behavior (.add request)).1
          ∀ (d : Nat) (worlds : List (World σ)), 0 < d →
            ((scene.world.clock :: worlds.map (·.clock)).IsChain
              fun now later => Clock.advance? now d = some later) →
            begun.Avoids behavior (MovesClock behavior) (rounds worlds) →
            begun.Avoids behavior (Marks behavior id) (rounds worlds) →
              let q := max 100 i ⌈/⌉ d
              let due := worlds.length / q
              let fired := if c = 0 then due else min c due
              ticksOf id 1 (begun.answers behavior (rounds worlds)) =
                  (List.range fired).map (fun k => (k + 1) * q) ∧
                (begun.runsWhile behavior id (rounds worlds)).length = fired ∧
                (((begun.after behavior (rounds worlds)).scheduler.get? id).isSome ↔
                  c = 0 ∨ fired < c) := by
  intro scene request id i c interval count added plain begun d worlds steps steady still unmarked
    q due fired
  have balanced : scene.scheduler.Balanced := balanced_after Balanced.empty before
  have answer : (scene.scheduler.add scene.world.clock request).answer = .ok id :=
    Answer.added.inj added
  have paces := paces_of_add behavior balanced plain count answer d
  have ms : (raised request.intervalMs).toNat = max 100 i := by
    have same := toNat_raised request.intervalMs
    omega
  have positive : 0 < raised request.intervalMs := by
    rw [UInt64.lt_iff_toNat_lt, ms]
    exact Nat.lt_of_lt_of_le (by decide) (Nat.le_max_left 100 i)
  -- the first run comes after the start
  have early : 0 < (raised request.intervalMs).toNat ⌈/⌉ d := by
    rw [Nat.pos_iff_ne_zero, ne_eq, ← Nat.le_zero, ceilDiv_le_iff_le_mul steps, ms]
    omega
  obtain ⟨ticks, listed⟩ : begun.Keeps behavior id _ 0 0 _ worlds :=
    paces.keeps (isInterval_raised _) positive steps early steady still unmarked 0
  rw [ms, Nat.add_zero] at ticks listed
  have fires : (if c = 0 then Remaining.forever else .times c).most due = fired := by
    by_cases endless : c = 0 <;> simp [fired, endless, Remaining.most]
  have lasts : (if c = 0 then Remaining.forever else .times c).Lasts due ↔ c = 0 ∨ fired < c := by
    by_cases endless : c = 0 <;> simp [fired, endless, Remaining.Lasts]
  have numbers : ticksOf id 1 (begun.answers behavior (rounds worlds)) =
      (List.range fired).map (fun k => (k + 1) * q) := by
    rw [← fires]
    simpa using ticks
  refine ⟨numbers, ?_, listed.trans lasts⟩
  have length := length_ticksOf id 1 (begun.answers behavior (rounds worlds))
  rw [numbers, List.length_map, List.length_range] at length
  exact length.symm

/-- A task that is to run every quarter of a second, three times at most, beside one that runs ten
    times a second, in seven ticks at that rate. -/
theorem tasks_keep_pace_quarter :
    let other : Request Script.Callback Script.Payload Unit :=
      .add ⟨none, "other", .ofLines [], .unit, 0, 0⟩
    let task : NewTask Script.Callback Script.Payload :=
      ⟨none, "task", .ofLines [], .unit, 250, 3⟩
    let scene := (start ⟨Instant.epoch, ()⟩).after Script.behavior [other]
    let begun := (scene.serve Script.behavior (.add task)).1
    let worlds : List (World Unit) := (List.range 7).map fun k =>
      ⟨(Clock.advance? Instant.epoch (100 * (k + 1))).getD Instant.epoch, ()⟩
    ¬ scene.world.clock.IsLeap ∧
      begun.Avoids Script.behavior (MovesClock Script.behavior) (rounds worlds) ∧
      begun.Avoids Script.behavior (Marks Script.behavior ⟨2⟩) (rounds worlds) ∧
      ticksOf ⟨2⟩ 1 (begun.answers Script.behavior (rounds worlds)) = [3, 6] ∧
      ((begun.after Script.behavior (rounds worlds)).scheduler.get? ⟨2⟩).isSome := by
  intro other task scene begun worlds
  have plain : ¬ scene.world.clock.IsLeap := by decide
  have still : begun.Avoids Script.behavior (MovesClock Script.behavior) (rounds worlds) := by
    decide +kernel
  have unmarked : begun.Avoids Script.behavior (Marks Script.behavior ⟨2⟩) (rounds worlds) := by
    decide +kernel
  obtain ⟨ticks, -, listed⟩ := tasks_keep_pace Script.behavior ⟨Instant.epoch, ()⟩ [other] task ⟨2⟩
    250 3 rfl rfl rfl plain 100 worlds (by decide) (by decide +kernel) still unmarked
  exact ⟨plain, still, unmarked, ticks.trans (by decide +kernel), listed.mpr (by decide +kernel)⟩

end Scene

end Backlog
