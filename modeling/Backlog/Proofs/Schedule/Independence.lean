import Backlog.Proofs.Schedule.Fate
import Backlog.Schedule.Script
import Mathlib.Algebra.GroupWithZero.Nat

/-!
# Tasks that do not affect each other

Where callbacks keep to themselves (`Behavior.Confines`), a tick does with a list of tasks what it
does with each of them alone, one after the other (`Scheduler.tick_confined`).  A run of such a
scheduler is then the runs of as many schedulers that have one task each: `Scene.Split`
is the relation between the many and the one, and clock moves and ticks preserve it.
-/

namespace Backlog

variable {κ π σ ε : Type}

/-! ## Callbacks that keep to themselves -/

/-- What `own` says of a task's callback and payload confines what the callback does: it depends on
    nothing but them and what it is told, asks for the removal of no other task, and leaves
    the clock alone.  That goes on in its next runs. -/
structure Behavior.Confines (behavior : Behavior κ π σ ε) (own : TaskId → κ → π → Prop) : Prop where
  depends : ∀ (context : Context) {callback payload}, own context.id callback payload →
    ∀ world world',
      let reaction := behavior callback context payload world
      let reaction' := behavior callback context payload world'
      reaction.callback = reaction'.callback ∧ reaction.payload = reaction'.payload ∧
        reaction.removals = reaction'.removals ∧ reaction.output = reaction'.output
  removals : ∀ (context : Context) {callback payload}, own context.id callback payload →
    ∀ world, ∀ id ∈ (behavior callback context payload world).removals, id = context.id
  clock : ∀ (context : Context) {callback payload}, own context.id callback payload →
    ∀ world, (behavior callback context payload world).world.clock = world.clock
  goesOn : ∀ (context : Context) {callback payload}, own context.id callback payload →
    ∀ world, let reaction := behavior callback context payload world
      own context.id reaction.callback reaction.payload

/-- Whether the callback of a task is confined. -/
def Task.Owns (own : TaskId → κ → π → Prop) (t : Task κ π) : Prop :=
  own t.id t.callback t.payload

/-- Whether all callbacks of a scheduler keep to themselves, now and in all their later runs. -/
def Scheduler.IsConfined (behavior : Behavior κ π σ ε) (s : Scheduler κ π) : Prop :=
  ∃ own, behavior.Confines own ∧ ∀ t ∈ s.tasks, t.Owns own

/-- The behavior that puts out the payload that a callback was given, too. -/
def Behavior.recording (behavior : Behavior κ π σ ε) : Behavior κ π σ (π × ε) :=
  fun callback context payload world =>
    let reaction := behavior callback context payload world
    { callback := reaction.callback
      payload := reaction.payload
      world := reaction.world
      removals := reaction.removals
      output := (payload, reaction.output) }

variable {behavior : Behavior κ π σ ε} {own : TaskId → κ → π → Prop}

theorem Behavior.Confines.recording (confines : behavior.Confines own) :
    behavior.recording.Confines own where
  depends context _ _ owned world world' := by
    obtain ⟨callback, payload, removals, output⟩ := confines.depends context owned world world'
    simp only [Behavior.recording, callback, payload, removals, output, and_self]
  removals context _ _ owned := confines.removals context owned
  clock context _ _ owned := confines.clock context owned
  goesOn context _ _ owned := confines.goesOn context owned

/-! ## One task -/

/-- What stays of a task in a tick of a scheduler that has no other. -/
def Task.leftAlone (behavior : Behavior κ π σ ε) (world : World σ) (t : Task κ π) :
    Option (Task κ π) :=
  let stop := meet behavior world.clock [] world t
  stop.stays.map (Task.markedIn stop.asked)

/-- What happens to a task in a tick of a scheduler that has no other. -/
def Task.seenAlone (behavior : Behavior κ π σ ε) (world : World σ) (t : Task κ π) : List (Visit ε) :=
  (meet behavior world.clock [] world t).visits

theorem Stop.Goes.asked_of_confined {now : Instant} {asked : List TaskId} {world : World σ}
    {task : Task κ π} {stop : Stop κ π σ ε} (goes : stop.Goes behavior now asked world task)
    (confines : behavior.Confines own) (owned : task.Owns own) :
    stop.world.clock = world.clock ∧ ∀ id ∈ stop.asked, id ∈ asked ∨ id = task.id := by
  cases goes with
  | leaves | waits => exact ⟨rfl, fun id asks => .inl asks⟩
  | runs armed due reaction reacts =>
    subst reacts
    refine ⟨confines.clock ⟨task.id, task.name, now⟩ owned world, ?_⟩
    intro id asks
    rcases List.mem_append.mp asks with earlier | here
    · exact .inl earlier
    · exact .inr (confines.removals ⟨task.id, task.name, now⟩ owned world id here)

/-- At its stop a task notices nothing of what was asked for before, of which it is no part, and
    nothing of the world but the clock. -/
theorem meet_confined (confines : behavior.Confines own) {task : Task κ π} (owned : task.Owns own)
    {asked : List TaskId} (fresh : task.id ∉ asked) {world world' : World σ} (now : Instant)
    (clock : world.clock = world'.clock) :
    let stop := meet behavior now asked world task
    let stop' := meet behavior now [] world' task
    stop.stays = stop'.stays ∧ stop.visits = stop'.visits ∧ stop.asked = asked ++ stop'.asked := by
  have ends : (task.isPendingRemoval = true ∨ task.id ∈ asked) ↔
      (task.isPendingRemoval = true ∨ task.id ∈ ([] : List TaskId)) := by simp [fresh]
  rw [meet_eq, meet_eq]
  by_cases leaves : task.isPendingRemoval = true ∨ task.id ∈ asked
  · simp only [if_pos leaves, if_pos (ends.mp leaves), List.append_nil, and_self]
  · simp only [if_neg leaves, if_neg (mt ends.mpr leaves), clock]
    by_cases due : task.isDue world'.clock = true
    · simp only [if_pos due]
      obtain ⟨callback, payload, removals, output⟩ :=
        confines.depends ⟨task.id, task.name, now⟩ owned world world'
      have ran : Scheduler.ran task now
          (behavior task.callback ⟨task.id, task.name, now⟩ task.payload world) =
          Scheduler.ran task now
            (behavior task.callback ⟨task.id, task.name, now⟩ task.payload world') := by
        rw [Scheduler.ran, Scheduler.ran, callback, payload]
      simp only [ran, removals, output, List.nil_append, and_self]
    · simp only [if_neg due, List.append_nil, and_self]

theorem Task.leftAlone_congr (confines : behavior.Confines own) {t : Task κ π} (owned : t.Owns own)
    {world world' : World σ} (clock : world.clock = world'.clock) :
    t.leftAlone behavior world = t.leftAlone behavior world' ∧
      t.seenAlone behavior world = t.seenAlone behavior world' := by
  obtain ⟨stays, visits, asks⟩ :=
    meet_confined confines owned (List.not_mem_nil) world'.clock clock
  simp only [leftAlone, seenAlone, clock, stays, visits, asks, List.nil_append, and_self]

/-- What stays of a task is that task, and is confined as it was. -/
theorem Task.owns_of_leftAlone (confines : behavior.Confines own) {t : Task κ π} (owned : t.Owns own)
    {world : World σ} {left : Task κ π} (stays : t.leftAlone behavior world = some left) :
    left.id = t.id ∧ left.Owns own := by
  have marks : ∀ (asked : List TaskId) (left : Task κ π),
      left.Owns own → (left.markedIn asked).Owns own := by
    intro asked left owned
    unfold markedIn
    split <;> exact owned
  have goes := Stop.goes_meet behavior world.clock [] world t
  simp only [leftAlone] at stays
  generalize meet behavior world.clock [] world t = stop at goes stays
  obtain ⟨unmarked, kept, rfl⟩ := Option.map_eq_some_iff.mp stays
  rw [id_markedIn, goes.id_of_stays kept, goes.task_eq]
  refine ⟨rfl, marks _ _ ?_⟩
  cases goes with
  | leaves => cases kept
  | waits =>
    cases kept
    exact owned
  | runs armed due reaction reacts stays' settles =>
    subst reacts
    have ran := confines.goesOn ⟨t.id, t.name, world.clock⟩ owned world
    rw [show stays' = some unmarked from kept] at settles
    split at settles
    · cases settles
      exact ran
    · -- the last run takes the task out, and any other leaves callback and payload alone
      unfold spent at settles
      split at settles
      · split at settles
        · cases settles
        · cases settles
          exact ran
      · cases settles
        exact ran

theorem Task.task_of_seenAlone {t : Task κ π} {world : World σ} :
    ∀ visit ∈ t.seenAlone behavior world, visit.task = t.id := by
  have goes := Stop.goes_meet behavior world.clock [] world t
  intro visit member
  rw [goes.task_visit visit member, goes.task_eq]

/-! ## One tick -/

/-- Over tasks that are confined, a pass does with each what it does with it alone. -/
theorem pass_confined (confines : behavior.Confines own) {tasks : List (Task κ π)}
    (owned : ∀ t ∈ tasks, t.Owns own) (nodup : (tasks.map (·.id)).Nodup) {asked : List TaskId}
    (fresh : ∀ t ∈ tasks, t.id ∉ asked) {world world' : World σ} (clock : world.clock = world'.clock) :
    let p := pass behavior world'.clock asked world tasks
    let solo t := meet behavior world'.clock [] world' t
    p.stayed = tasks.filterMap (fun t => (solo t).stays) ∧
      p.visits = tasks.flatMap (fun t => (solo t).visits) ∧
      p.asked = asked ++ tasks.flatMap (fun t => (solo t).asked) ∧ p.world.clock = world'.clock := by
  induction tasks generalizing asked world with
  | nil => simp [pass, clock]
  | cons task rest ih =>
    obtain ⟨mine, owned⟩ := List.forall_mem_cons.mp owned
    obtain ⟨first, fresh⟩ := List.forall_mem_cons.mp fresh
    obtain ⟨other, nodup⟩ := List.nodup_cons.mp nodup
    obtain ⟨stays, visits, asks⟩ := meet_confined confines mine first world'.clock clock
    obtain ⟨clocks, others⟩ := (Stop.goes_meet behavior world'.clock asked world task).asked_of_confined
      confines mine
    -- what the first task asks for is no concern of the others
    have fresh' : ∀ t ∈ rest, t.id ∉ (meet behavior world'.clock asked world task).asked := by
      intro t member asked
      rcases others t.id asked with earlier | own
      · exact fresh t member earlier
      · exact other (List.mem_map.mpr ⟨t, member, own⟩)
    obtain ⟨stayed, visited, asked', ended⟩ := ih owned nodup fresh' (clocks.trans clock)
    simp only [pass]
    refine ⟨?_, ?_, ?_, ended⟩
    · rw [Pass.stayed_cons, stayed, stays, List.filterMap_cons]
      cases (meet behavior world'.clock [] world' task).stays <;> rfl
    · rw [Pass.visits_cons, visited, visits, List.flatMap_cons]
    · rw [asked', asks, List.append_assoc, List.flatMap_cons]

namespace Scheduler

/-- A tick does with tasks that are confined what it does with each of them alone. -/
theorem tick_confined (confines : behavior.Confines own) {s : Scheduler κ π}
    (owned : ∀ t ∈ s.tasks, t.Owns own) (nodup : (s.tasks.map (·.id)).Nodup) (world : World σ) :
    (s.tick behavior world).scheduler.tasks = s.tasks.filterMap (Task.leftAlone behavior world) ∧
      (s.tick behavior world).visits = s.tasks.flatMap (Task.seenAlone behavior world) ∧
      (s.tick behavior world).world.clock = world.clock := by
  obtain ⟨stayed, visits, asked, clock⟩ := pass_confined confines owned nodup
    (fun _ _ => List.not_mem_nil) (rfl : world.clock = world.clock)
  rw [tick_eq]
  refine ⟨?_, visits, clock⟩
  simp only [afterPass, stayed, List.map_filterMap]
  apply List.filterMap_congr
  intro t member
  apply Option.map_congr
  intro left stays
  have goes := Stop.goes_meet behavior world.clock [] world t
  have same : left.id = t.id := (goes.id_of_stays stays).trans (congrArg (·.id) goes.task_eq)
  -- the mark of a task is asked for by the task itself or by none
  have marked : left.id ∈ (pass behavior world.clock [] world s.tasks).asked ↔
      left.id ∈ (meet behavior world.clock [] world t).asked := by
    rw [asked, List.nil_append, List.mem_flatMap]
    constructor
    · rintro ⟨t', member', asks⟩
      have goes' := Stop.goes_meet behavior world.clock [] world t'
      rcases (goes'.asked_of_confined confines (owned t' member')).2 _ asks with none | own
      · cases none
      · rwa [← List.inj_on_of_nodup_map nodup member' member (own.symm.trans same)]
    · exact fun asks => ⟨t, member, asks⟩
  simp only [Task.markedIn, marked]

end Scheduler

/-! ## Scripts -/

namespace Script

/-- Whether an action works on nothing but the task that takes it. -/
def Action.IsOwn : Action → Bool
  | markSelf | increase _ | append _ => true
  | mark _ | advance _ | clock => false

/-- An action of one's own goes the same by any clock, which it does not move. -/
theorem Progress.take_own {action : Action} (own : action.IsOwn = true) (p : Progress)
    (self : TaskId) (time : Instant) :
    ({ p with clock := time }).take self action = { p.take self action with clock := time } ∧
      (p.take self action).clock = p.clock ∧
      ∀ id ∈ (p.take self action).removals, id ∈ p.removals ∨ id = self := by
  cases action with
  | markSelf => simp [take]
  | increase => cases h : p.payload <;> simp +contextual [take, h]
  | append => cases h : p.payload <;> simp +contextual [take, h]
  | mark | advance | clock => cases own

theorem Progress.foldl_own {lines : List Line} (own : ∀ line ∈ lines, line.action.IsOwn = true)
    (p : Progress) (self : TaskId) (time : Instant) :
    let run (p : Progress) := lines.foldl (fun (p : Progress) line => p.take self line.action) p
    run { p with clock := time } = { run p with clock := time } ∧ (run p).clock = p.clock ∧
      ∀ id ∈ (run p).removals, id ∈ p.removals ∨ id = self := by
  induction lines generalizing p with
  | nil => exact ⟨rfl, rfl, fun id asked => .inl asked⟩
  | cons line rest ih =>
    obtain ⟨first, rest⟩ := List.forall_mem_cons.mp own
    obtain ⟨same, clock, asks⟩ := p.take_own first self time
    obtain ⟨same', clock', asks'⟩ := ih rest (p.take self line.action)
    simp only [List.foldl_cons, same]
    refine ⟨same', clock'.trans clock, fun id asked => ?_⟩
    rcases asks' id asked with earlier | own
    · exact asks id earlier
    · exact .inr own

theorem behavior_own {callback : Callback} (own : ∀ line ∈ callback.lines, line.action.IsOwn = true)
    (context : Context) (payload : Payload) (world world' : World Unit) :
    let reaction := Script.behavior callback context payload world
    let reaction' := Script.behavior callback context payload world'
    (reaction.payload = reaction'.payload ∧ reaction.removals = reaction'.removals ∧
        reaction.output = reaction'.output) ∧
      reaction.world.clock = world.clock ∧ ∀ id ∈ reaction.removals, id = context.id := by
  have active : ∀ line ∈ callback.lines.filter fun line => line.runs.all (·.contains (callback.runs + 1)),
      line.action.IsOwn = true := fun line member => own line (List.mem_filter.mp member).1
  obtain ⟨same, clock, asks⟩ :=
    Progress.foldl_own active ⟨payload, world.clock, [], []⟩ context.id world'.clock
  simp only [Script.behavior] at same clock asks ⊢
  refine ⟨?_, clock, by simpa using asks⟩
  simp only [same, and_self]

/-- Scripts of such actions keep to themselves. -/
theorem confines_own :
    Script.behavior.Confines fun _ callback _ => ∀ line ∈ callback.lines, line.action.IsOwn = true where
  depends context _ payload own world world' :=
    ⟨rfl, (behavior_own own context payload world world').1⟩
  removals context _ payload own world := (behavior_own own context payload world world).2.2
  clock context _ payload own world := (behavior_own own context payload world world).2.1
  goesOn _ _ _ own _ := own

end Script

/-! ## Runs -/

/-- Whether the clock moves or the scheduler ticks. -/
def Request.IsRound : Request κ π σ → Prop
  | tick | turn _ => True
  | registerOwner _ | releaseOwner _ | add _ | modify _ _ | markForRemoval _ | remove _ => False

namespace Scene

open Scheduler

/-- A scheduler whose list is that of schedulers with a task each, at the same time.  The tasks are
    those that there were in the beginning; some may have left since. -/
structure Split (own : TaskId → κ → π → Prop) (tasks : List (Task κ π)) (many : Scene κ π σ)
    (one : Task κ π → Scene κ π σ) : Prop where
  whole : many.scheduler.tasks = tasks.flatMap fun t => (one t).scheduler.tasks
  single : ∀ t ∈ tasks, ∃ left : Option (Task κ π), (one t).scheduler.tasks = left.toList
  same : ∀ t ∈ tasks, ∀ left ∈ (one t).scheduler.tasks, left.id = t.id ∧ left.Owns own
  clocks : ∀ t ∈ tasks, (one t).world.clock = many.world.clock

variable {tasks : List (Task κ π)} {many : Scene κ π σ} {one : Task κ π → Scene κ π σ}

theorem Split.owns (split : Split own tasks many one) : ∀ t ∈ many.scheduler.tasks, t.Owns own := by
  intro t member
  rw [split.whole] at member
  obtain ⟨origin, among, left⟩ := List.mem_flatMap.mp member
  exact (split.same origin among t left).2

/-- What the one scheduler does in a tick. -/
theorem Split.tick_one (split : Split own tasks many one) (confines : behavior.Confines own)
    {t : Task κ π} (member : t ∈ tasks) :
    let ticked := (one t).scheduler.tick behavior (one t).world
    ticked.scheduler.tasks = (one t).scheduler.tasks.filterMap (Task.leftAlone behavior many.world) ∧
      ticked.visits = (one t).scheduler.tasks.flatMap (Task.seenAlone behavior many.world) ∧
      ticked.world.clock = many.world.clock := by
  have owned : ∀ left ∈ (one t).scheduler.tasks, left.Owns own :=
    fun left here => (split.same t member left here).2
  have nodup : ((one t).scheduler.tasks.map (·.id)).Nodup := by
    obtain ⟨left, single⟩ := split.single t member
    rw [single]
    cases left <;> simp
  obtain ⟨left, visits, clock⟩ := tick_confined confines owned nodup (one t).world
  have congr (left : Task κ π) (here : left ∈ (one t).scheduler.tasks) :=
    Task.leftAlone_congr confines (owned left here) (split.clocks t member)
  refine ⟨left.trans ?_, visits.trans ?_, clock.trans (split.clocks t member)⟩
  · exact List.filterMap_congr fun left here => (congr left here).1
  · exact List.flatMap_congr fun left here => (congr left here).2

/-- The tick of the many is the ticks of the ones. -/
theorem Split.tick (split : Split own tasks many one) (confines : behavior.Confines own)
    (balanced : many.scheduler.Balanced) :
    let ticked := many.scheduler.tick behavior many.world
    let ticked' t := (one t).scheduler.tick behavior (one t).world
    ticked.scheduler.tasks = tasks.flatMap (fun t => (ticked' t).scheduler.tasks) ∧
      ticked.visits = tasks.flatMap (fun t => (ticked' t).visits) ∧
      ticked.world.clock = many.world.clock := by
  obtain ⟨left, visits, clock⟩ := tick_confined confines split.owns balanced.nodup many.world
  rw [split.whole, List.filterMap_flatMap] at left
  rw [split.whole, List.flatMap_assoc] at visits
  refine ⟨left.trans ?_, visits.trans ?_, clock⟩
  · exact List.flatMap_congr fun t member => (split.tick_one confines member).1.symm
  · exact List.flatMap_congr fun t member => (split.tick_one confines member).2.1.symm

theorem Split.serve (split : Split own tasks many one) (confines : behavior.Confines own)
    (balanced : many.scheduler.Balanced) {request : Request κ π σ} (round : request.IsRound) :
    Split own tasks (many.serve behavior request).1 fun t => ((one t).serve behavior request).1 := by
  cases request with
  | turn world => exact ⟨split.whole, split.single, split.same, fun _ _ => rfl⟩
  | tick =>
    obtain ⟨whole, -, clock⟩ := split.tick confines balanced
    refine ⟨whole, ?_, ?_, ?_⟩
    · -- a scheduler of one task is left with that task or with none
      intro t member
      obtain ⟨left, single⟩ := split.single t member
      refine ⟨left.bind (Task.leftAlone behavior many.world), ?_⟩
      simp only [Scene.serve, (split.tick_one confines member).1, single]
      cases left with
      | none => rfl
      | some left =>
        simp only [Option.toList_some, List.filterMap_cons, List.filterMap_nil, Option.bind_some]
        cases left.leftAlone behavior many.world <;> rfl
    · intro t member left after
      simp only [Scene.serve, (split.tick_one confines member).1] at after
      obtain ⟨before, here, stays⟩ := List.mem_filterMap.mp after
      obtain ⟨same, owned⟩ := split.same t member before here
      obtain ⟨same', owned'⟩ := Task.owns_of_leftAlone confines owned stays
      exact ⟨same'.trans same, owned'⟩
    · intro t member
      exact (split.tick_one confines member).2.2.trans clock.symm
  | registerOwner | releaseOwner | add | modify | markForRemoval | remove => cases round

theorem Split.after (split : Split own tasks many one) (confines : behavior.Confines own)
    (balanced : many.scheduler.Balanced) {requests : List (Request κ π σ)}
    (rounds : ∀ request ∈ requests, request.IsRound) :
    Split own tasks (many.after behavior requests) fun t => (one t).after behavior requests := by
  induction requests generalizing many one with
  | nil => exact split
  | cons request rest ih =>
    obtain ⟨round, rounds⟩ := List.forall_mem_cons.mp rounds
    exact ih (split.serve confines balanced round)
      (balanced.moves (serve_moves behavior many balanced request)) rounds

theorem Split.get? (split : Split own tasks many one) (balanced : many.scheduler.Balanced)
    (nodup : (tasks.map (·.id)).Nodup) {t : Task κ π} (member : t ∈ tasks) :
    many.scheduler.get? t.id = (one t).scheduler.get? t.id := by
  apply Option.ext
  intro left
  rw [balanced.get?_eq_some_iff, split.whole, List.mem_flatMap]
  constructor
  · rintro ⟨⟨origin, among, here⟩, own⟩
    have same := (split.same origin among left here).1
    obtain rfl := List.inj_on_of_nodup_map nodup among member (same.symm.trans own)
    obtain ⟨only, single⟩ := split.single origin among
    rw [single, Option.mem_toList] at here
    rw [Scheduler.get?, single, show only = some left from here]
    simpa using same
  · intro found
    exact ⟨⟨t, member, mem_of_get? found⟩, id_of_get? found⟩

/-- Of what happened to several tasks, that which happened to one of them. -/
theorem filter_flatMap_visits {seen : Task κ π → List (Visit ε)}
    (own : ∀ t ∈ tasks, ∀ visit ∈ seen t, visit.task = t.id) (nodup : (tasks.map (·.id)).Nodup)
    {t : Task κ π} (member : t ∈ tasks) :
    (tasks.flatMap seen).filter (·.task = t.id) = seen t := by
  induction tasks with
  | nil => cases member
  | cons first rest ih =>
    obtain ⟨mine, others⟩ := List.forall_mem_cons.mp own
    obtain ⟨fresh, nodup⟩ := List.nodup_cons.mp nodup
    rw [List.flatMap_cons, List.filter_append]
    -- the visits of each task name it, and no two tasks have one handle
    rcases List.mem_cons.mp member with rfl | later
    · have all : (seen t).filter (·.task = t.id) = seen t :=
        List.filter_eq_self.mpr fun visit happened => by simp [mine visit happened]
      have none : (rest.flatMap seen).filter (·.task = t.id) = [] := by
        rw [List.filter_eq_nil_iff]
        intro visit happened
        obtain ⟨other, among, seen⟩ := List.mem_flatMap.mp happened
        have distinct : other.id ≠ t.id := fun same => fresh (List.mem_map.mpr ⟨other, among, same⟩)
        simpa [others other among visit seen] using distinct
      rw [all, none, List.append_nil]
    · have distinct : first.id ≠ t.id := fun same => fresh (List.mem_map.mpr ⟨t, later, same.symm⟩)
      have none : (seen first).filter (·.task = t.id) = [] :=
        List.filter_eq_nil_iff.mpr fun visit happened => by simpa [mine visit happened] using distinct
      rw [none, List.nil_append]
      exact ih others nodup later

/-- What happened to a task in the tick of the many is what happened in its own. -/
theorem Split.visits_of (split : Split own tasks many one) (confines : behavior.Confines own)
    (balanced : many.scheduler.Balanced) (nodup : (tasks.map (·.id)).Nodup) {t : Task κ π}
    (member : t ∈ tasks) :
    (many.scheduler.tick behavior many.world).visits.filter (·.task = t.id) =
      ((one t).scheduler.tick behavior (one t).world).visits := by
  rw [(split.tick confines balanced).2.1]
  refine filter_flatMap_visits ?_ nodup member
  intro t member visit happened
  rw [(split.tick_one confines member).2.1] at happened
  obtain ⟨left, here, seen⟩ := List.mem_flatMap.mp happened
  rw [Task.task_of_seenAlone visit seen, (split.same t member left here).1]

theorem Split.report (split : Split own tasks many one) (confines : behavior.Confines own)
    (balanced : many.scheduler.Balanced) :
    let report (v : Scene κ π σ) := (v.scheduler.tick behavior v.world).report
    (report many).fired = (tasks.map fun t => (report (one t)).fired).sum ∧
      (report many).removed = (tasks.map fun t => (report (one t)).removed).sum := by
  obtain ⟨-, visits, -⟩ := split.tick confines balanced
  simp only [TickResult.report, TickReport.ofVisits, visits, List.countP_flatMap]
  exact ⟨rfl, rfl⟩

/-- Where callbacks keep to themselves, tasks do not affect each other, in every scheduler that
    requests can reach.  While the clock moves and the scheduler ticks, each task is as it
    would be in a scheduler of its own: it runs in the same ticks, is called with the same
    payload at the same time, and is left in the same state.  The list is that of the single
    schedulers one after the other, and the numbers of a tick are the sums of theirs. -/
theorem tasks_run_as_if_alone (behavior : Behavior κ π σ ε) (world : World σ)
    (before : List (Request κ π σ)) :
    let scene := (start world).after behavior before
    let tasks := scene.scheduler.tasks
    scene.scheduler.IsConfined behavior →
      ∀ alone : Task κ π → Scene κ π σ,
        (∀ task ∈ tasks, (alone task).scheduler.tasks = [task] ∧
          (alone task).world.clock = scene.world.clock) →
        ∀ requests : List (Request κ π σ), (∀ request ∈ requests, request.IsRound) →
          let many := scene.after behavior requests
          let one task := (alone task).after behavior requests
          let calls (v : Scene κ π σ) := (v.scheduler.tick behavior.recording v.world).visits
          let report (v : Scene κ π σ) := (v.scheduler.tick behavior v.world).report
          (∀ task ∈ tasks,
            many.scheduler.get? task.id = (one task).scheduler.get? task.id ∧
              (calls many).filter (·.task = task.id) = calls (one task)) ∧
            many.scheduler.tasks = tasks.flatMap (fun task => (one task).scheduler.tasks) ∧
            (report many).fired = (tasks.map fun task => (report (one task)).fired).sum ∧
            (report many).removed = (tasks.map fun task => (report (one task)).removed).sum := by
  rintro scene tasks ⟨own, confines, owned⟩ alone single requests rounds many one calls report
  have balanced : scene.scheduler.Balanced := balanced_after Balanced.empty before
  have begun : Split own tasks scene alone := by
    refine ⟨?_, ?_, ?_, fun task member => (single task member).2⟩
    · have each : ∀ task ∈ tasks, (alone task).scheduler.tasks = [task] :=
        fun task member => (single task member).1
      exact (List.flatMap_singleton' tasks).symm.trans (List.flatMap_congr fun t m => (each t m).symm)
    · intro task member
      exact ⟨some task, (single task member).1⟩
    · intro task member left here
      rw [(single task member).1, List.mem_singleton] at here
      subst here
      exact ⟨rfl, owned left member⟩
  have split : Split own tasks many one := begun.after confines balanced rounds
  have balanced' : many.scheduler.Balanced := balanced_after balanced requests
  refine ⟨?_, split.whole, split.report confines balanced'⟩
  intro task member
  exact ⟨split.get? balanced' balanced.nodup member,
    split.visits_of confines.recording balanced' balanced.nodup member⟩

/-- Three tasks: one that runs twice, one that asks for its own removal in its second run, and one that
    goes on.  In the second tick the first one leaves, in the third the second one. -/
theorem tasks_run_as_if_alone_three :
    let world : World Unit := ⟨Instant.epoch, ()⟩
    let task (name : String) (line : Script.Line) (payload : Script.Payload) (count : Int64) :
        Request Script.Callback Script.Payload Unit :=
      .add ⟨none, name, .ofLines [line], payload, 100, count⟩
    let before := [task "twice" ⟨.increase 1, none⟩ (.number 5) 2,
      task "quits" ⟨.markSelf, some [2]⟩ .unit 0, task "writes" ⟨.append "x", none⟩ (.text "") 0]
    let scene := (start world).after Script.behavior before
    let alone (t : Task Script.Callback Script.Payload) : Scene Script.Callback Script.Payload Unit :=
      ⟨{ (Scheduler.empty : Scheduler Script.Callback Script.Payload) with tasks := [t] }, world⟩
    let turn (second : Int) : Request Script.Callback Script.Payload Unit :=
      .turn ⟨Clock.atSecond second, ()⟩
    let requests := [turn 1, .tick, turn 2, .tick, turn 3]
    let many := scene.after Script.behavior requests
    scene.scheduler.IsConfined Script.behavior ∧
      (∀ t ∈ scene.scheduler.tasks, (alone t).scheduler.tasks = [t] ∧
        (alone t).world.clock = scene.world.clock) ∧
      (∀ request ∈ requests, request.IsRound) ∧
      many.scheduler.tasks.map (·.payload) = [.unit, .text "xx"] ∧
      many.scheduler.tasks = scene.scheduler.tasks.flatMap (fun t =>
        ((alone t).after Script.behavior requests).scheduler.tasks) ∧
      (many.scheduler.tick Script.behavior many.world).report.fired = 1 ∧
      (many.scheduler.tick Script.behavior many.world).report.removed = 1 := by
  intro world task before scene alone turn requests many
  have confined : scene.scheduler.IsConfined Script.behavior :=
    ⟨_, Script.confines_own, by unfold Task.Owns; decide +kernel⟩
  have single : ∀ t ∈ scene.scheduler.tasks, (alone t).scheduler.tasks = [t] ∧
      (alone t).world.clock = scene.world.clock := fun t _ => ⟨rfl, rfl⟩
  have rounds : ∀ request ∈ requests, request.IsRound := by simp [requests, turn, Request.IsRound]
  obtain ⟨-, whole, fired, removed⟩ := tasks_run_as_if_alone Script.behavior world before confined
    alone single requests rounds
  refine ⟨confined, single, rounds, by decide +kernel, whole, fired.trans ?_, removed.trans ?_⟩
  · decide +kernel
  · decide +kernel

end Scene

end Backlog
