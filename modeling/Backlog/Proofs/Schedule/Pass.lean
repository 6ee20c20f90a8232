import Backlog.Schedule.Tick
import Mathlib.Data.List.Basic

/-!
# A tick as one pass over its tasks

`Scheduler.tick` walks with a cursor through a list that shrinks under it.  Here is
the same tick without a cursor: `pass` goes once through the tasks as they are when
the tick begins, and remembers the removals asked for so far.  Each task gets one
`Stop`, which `meet` computes from the task itself, the removals asked for before,
and the world as the stops before left it.  What a run does to a task and when it is
due are written out there, and not taken from the walk.

`Scheduler.tick_eq_pass` says that a tick leaves behind what the pass says.  The
walk and the pass are related at every cursor by `Scheduler.visit_eq_meet`: the
tasks before the cursor are the ones that stayed, those from the cursor on are the
ones to come, and all of them carry the marks asked for so far.
-/

namespace Backlog

variable {κ π σ ε : Type}

/-! ## The pass -/

/-- What stays of a task that has run, unless its removal was asked for: one run less
    remains, and after the last it leaves. -/
def Task.spent (t : Task κ π) : Option (Task κ π) :=
  match t.remaining with
  | .times n => if n ≤ 1 then none else some { t with remaining := .times (n - 1) }
  | _ => some t

/-- The task, with nothing remaining if its removal is among those asked for. -/
def Task.markedIn (asked : List TaskId) (t : Task κ π) : Task κ π :=
  if t.id ∈ asked then { t with remaining := .pendingRemoval } else t

/-- The visit of one task on a pass. -/
structure Stop (κ π σ ε : Type) where
  /-- The task as it was when the tick began. -/
  task : Task κ π
  /-- The task as it stays in the list, or nothing if it leaves. -/
  stays : Option (Task κ π)
  /-- The removals asked for in this tick, in this visit or before. -/
  asked : List TaskId
  /-- The world after the visit. -/
  world : World σ
  visits : List (Visit ε)

/-- The task, if it leaves. -/
def Stop.left (s : Stop κ π σ ε) : List (Task κ π) :=
  if s.stays.isNone then [s.task] else []

/-- Whether the task ran. -/
def Stop.ran (s : Stop κ π σ ε) : Bool :=
  match s.visits with
  | .fired _ _ _ _ _ :: _ => true
  | _ => false

/-- Visits a task, in the tick that began at `now`.  A task that is pending, or whose
    removal an earlier callback of this tick asked for, leaves without a run.
    Otherwise it runs if its interval is 0 or has passed on the clock as it stands.  A
    run is noted with the time at which the tick began, and counted.  A task that asks
    for its own removal stays, pending; any other has one run less, and leaves after the
    last. -/
def meet (behavior : Behavior κ π σ ε) (now : Instant) (asked : List TaskId) (world : World σ)
    (task : Task κ π) : Stop κ π σ ε :=
  if task.remaining = .pendingRemoval ∨ task.id ∈ asked then
    ⟨task, none, asked, world, [.dropped task.id task.name]⟩
  else if task.intervalMs = 0 ∨
      Clock.elapsedAtLeast world.clock task.lastFiredAt task.intervalMs = true then
    let reaction := behavior task.callback ⟨task.id, task.name, now⟩ task.payload world
    let ran : Task κ π :=
      { task with
        callback := reaction.callback
        payload := reaction.payload
        lastFiredAt := now
        fireCount := task.fireCount + 1 }
    let stays :=
      if task.id ∈ reaction.removals then some { ran with remaining := .pendingRemoval }
      else ran.spent
    ⟨task, stays, asked ++ reaction.removals, reaction.world,
      .fired task.id task.name now world.clock reaction.output ::
        if stays.isNone then [.dropped task.id task.name] else []⟩
  else ⟨task, some task, asked, world, []⟩

/-- All stops of a pass, in order, and what it has come to at its end. -/
structure Pass (κ π σ ε : Type) where
  stops : List (Stop κ π σ ε)
  asked : List TaskId
  world : World σ

/-- Visits tasks one after the other, in the tick that began at `now`. -/
def pass (behavior : Behavior κ π σ ε) (now : Instant) (asked : List TaskId) (world : World σ) :
    List (Task κ π) → Pass κ π σ ε
  | [] => ⟨[], asked, world⟩
  | task :: rest =>
    let stop := meet behavior now asked world task
    let later := pass behavior now stop.asked stop.world rest
    { later with stops := stop :: later.stops }

namespace Pass

/-- The tasks that stay, as their own visits leave them. -/
def stayed (p : Pass κ π σ ε) : List (Task κ π) :=
  p.stops.filterMap (·.stays)

/-- The tasks that leave. -/
def left (p : Pass κ π σ ε) : List (Task κ π) :=
  p.stops.flatMap (·.left)

/-- What happened, in order. -/
def visits (p : Pass κ π σ ε) : List (Visit ε) :=
  p.stops.flatMap (·.visits)

end Pass

/-- The owner without the tasks of its own among those that left. -/
def Owner.without (left : List (Task κ π)) (o : Owner) : Owner :=
  { o with tasks := o.tasks.diff ((left.filter (·.owner = some o.id)).map (·.id)) }

namespace Scheduler

/-- What a pass leaves of a scheduler.  A task that stays is pending if its removal
    was asked for at its own visit or at a later one. -/
def afterPass (s : Scheduler κ π) (p : Pass κ π σ ε) : Scheduler κ π :=
  { s with
    tasks := p.stayed.map (Task.markedIn p.asked)
    owners := s.owners.map (Owner.without p.left) }

end Scheduler

/-! ## Marks -/

namespace Task

theorem markedIn_nil : (markedIn [] : Task κ π → Task κ π) = fun t => t := by
  funext t
  simp [markedIn]

@[simp] theorem id_markedIn (asked : List TaskId) (t : Task κ π) : (t.markedIn asked).id = t.id := by
  unfold markedIn
  split <;> rfl

theorem name_markedIn (asked : List TaskId) (t : Task κ π) : (t.markedIn asked).name = t.name := by
  unfold markedIn
  split <;> rfl

theorem owner_markedIn (asked : List TaskId) (t : Task κ π) :
    (t.markedIn asked).owner = t.owner := by
  unfold markedIn
  split <;> rfl

theorem markedIn_of_mem {asked : List TaskId} {t : Task κ π} (member : t.id ∈ asked) :
    t.markedIn asked = t.marked := if_pos member

theorem markedIn_of_not_mem {asked : List TaskId} {t : Task κ π} (absent : t.id ∉ asked) :
    t.markedIn asked = t := if_neg absent

@[simp] theorem markedIn_marked (asked : List TaskId) (t : Task κ π) :
    t.marked.markedIn asked = t.marked := by
  unfold markedIn
  split <;> rfl

/-- Marks asked for one after the other add up. -/
@[simp] theorem markedIn_markedIn (earlier later : List TaskId) (t : Task κ π) :
    (t.markedIn earlier).markedIn later = t.markedIn (earlier ++ later) := by
  by_cases member : t.id ∈ earlier
  · rw [markedIn_of_mem member, markedIn_marked, markedIn_of_mem (List.mem_append_left _ member)]
  · rw [markedIn_of_not_mem member]
    simp [markedIn, member]

theorem markedIf_eq (id : TaskId) : (markedIf id : Task κ π → Task κ π) = markedIn [id] := by
  funext t
  simp [markedIf, markedIn, marked]

theorem isPendingRemoval_markedIn (asked : List TaskId) (t : Task κ π) :
    (t.markedIn asked).isPendingRemoval = true ↔ t.isPendingRemoval = true ∨ t.id ∈ asked := by
  by_cases member : t.id ∈ asked
  · simp [markedIn_of_mem member, member, isPendingRemoval, marked]
  · simp [markedIn_of_not_mem member, member]

theorem id_of_spent {t stays : Task κ π} (spent : t.spent = some stays) : stays.id = t.id := by
  unfold Task.spent at spent
  split at spent
  · split at spent
    · cases spent
    · cases spent; rfl
  · cases spent; rfl

theorem spent_marked (t : Task κ π) : t.marked.spent = some t.marked := rfl

end Task

/-! ## Stops in the words of the walk -/

/-- The walk drops, runs and marks a task as its stop does. -/
theorem meet_eq (behavior : Behavior κ π σ ε) (now : Instant) (asked : List TaskId)
    (world : World σ) (task : Task κ π) :
    meet behavior now asked world task =
      if task.isPendingRemoval = true ∨ task.id ∈ asked then
        ⟨task, none, asked, world, [.dropped task.id task.name]⟩
      else if task.isDue world.clock = true then
        let reaction := behavior task.callback ⟨task.id, task.name, now⟩ task.payload world
        let ran := Scheduler.ran task now reaction
        let stays := if task.id ∈ reaction.removals then some ran.marked else ran.spent
        ⟨task, stays, asked ++ reaction.removals, reaction.world,
          .fired task.id task.name now world.clock reaction.output ::
            if stays.isNone then [.dropped task.id task.name] else []⟩
      else ⟨task, some task, asked, world, []⟩ := by
  simp only [meet, Task.isPendingRemoval, Task.isDue, decide_eq_true_eq, Bool.or_eq_true,
    beq_iff_eq]
  -- the records of the walk are the ones written out in `meet`
  rfl

/-! ## Owners -/

namespace Owner

@[simp] theorem without_nil : without ([] : List (Task κ π)) = fun o => o := by
  funext o
  simp [without]

theorem without_cons (task : Task κ π) (left : List (Task κ π)) :
    without (task :: left) = without left ∘ without [task] := by
  funext o
  by_cases owned : task.owner = some o.id
  · simp [without, owned, List.diff_cons]
  · simp [without, owned]

theorem without_append (earlier later : List (Task κ π)) :
    without (earlier ++ later) = without later ∘ without earlier := by
  induction earlier with
  | nil => rw [without_nil]; rfl
  | cons task earlier ih =>
    rw [List.cons_append, without_cons task (earlier ++ later), ih, without_cons task earlier]
    rfl

/-- Only the handle and the owner of a task that left count. -/
theorem without_congr {task task' : Task κ π} (ids : task.id = task'.id)
    (owners : task.owner = task'.owner) : without [task] = without [task'] := by
  funext o
  by_cases owned : task'.owner = some o.id <;> simp [without, ids, owners, owned]

end Owner

/-! ## What a pass has come to, stop by stop -/

namespace Pass

@[simp] theorem stayed_nil (asked : List TaskId) (world : World σ) :
    (⟨[], asked, world⟩ : Pass κ π σ ε).stayed = [] := rfl

@[simp] theorem left_nil (asked : List TaskId) (world : World σ) :
    (⟨[], asked, world⟩ : Pass κ π σ ε).left = [] := rfl

@[simp] theorem visits_nil (asked : List TaskId) (world : World σ) :
    (⟨[], asked, world⟩ : Pass κ π σ ε).visits = [] := rfl

@[simp] theorem stayed_cons (stop : Stop κ π σ ε) (p : Pass κ π σ ε) :
    ({ p with stops := stop :: p.stops } : Pass κ π σ ε).stayed = stop.stays.toList ++ p.stayed := by
  simp only [stayed, List.filterMap_cons]
  cases stop.stays <;> rfl

@[simp] theorem left_cons (stop : Stop κ π σ ε) (p : Pass κ π σ ε) :
    ({ p with stops := stop :: p.stops } : Pass κ π σ ε).left = stop.left ++ p.left := rfl

@[simp] theorem visits_cons (stop : Stop κ π σ ε) (p : Pass κ π σ ε) :
    ({ p with stops := stop :: p.stops } : Pass κ π σ ε).visits = stop.visits ++ p.visits := rfl

theorem length_left (p : Pass κ π σ ε) : p.left.length = p.stops.countP (·.stays.isNone) := by
  obtain ⟨stops, asked, world⟩ := p
  induction stops with
  | nil => rfl
  | cons stop rest ih =>
    have here : stop.left.length = if stop.stays.isNone then 1 else 0 := by
      unfold Stop.left
      split <;> rfl
    rw [left_cons stop ⟨rest, asked, world⟩, List.length_append, ih, List.countP_cons, here,
      Nat.add_comm]

end Pass

/-! ## The walk, step by step

`before` are the tasks in front of the cursor, which is their number. -/

namespace Scheduler

@[simp] theorem id_ran (task : Task κ π) (now : Instant) (reaction : Reaction κ π σ ε) :
    (ran task now reaction).id = task.id := rfl

@[simp] theorem name_ran (task : Task κ π) (now : Instant) (reaction : Reaction κ π σ ε) :
    (ran task now reaction).name = task.name := rfl

/-- Granting removals one after the other marks the tasks that they name. -/
theorem markAll_eq (s : Scheduler κ π) (ids : List TaskId) :
    s.markAll ids = { s with tasks := s.tasks.map (Task.markedIn ids) } := by
  induction ids generalizing s with
  | nil => simp [markAll, Task.markedIn_nil]
  | cons id ids ih =>
    change (s.mark id).markAll ids = _
    rw [ih]
    simp [mark, Task.markedIf_eq, Function.comp_def]

theorem unlink_eq (s : Scheduler κ π) {before rest : List (Task κ π)} {task : Task κ π}
    {cursor : Nat} (stands : s.tasks = before ++ task :: rest) (here : before.length = cursor) :
    s.unlink cursor =
      { s with tasks := before ++ rest, owners := s.owners.map (Owner.without [task]) } := by
  subst here
  have found : s.tasks[before.length]? = some task := by simp [stands]
  have erased : s.tasks.eraseIdx before.length = before ++ rest := by
    rw [stands, List.eraseIdx_append_of_length_le (Nat.le_refl _)]
    simp
  simp only [unlink, found, erased, updateOwner]
  congr 1
  apply List.map_congr_left
  intro o _
  by_cases owned : task.owner = some o.id
  · simp [Owner.without, owned, List.diff_cons]
  · simp [Owner.without, owned]

theorem fire_eq (s : Scheduler κ π) {before rest : List (Task κ π)} {task : Task κ π} {cursor : Nat}
    (now : Instant) (reaction : Reaction κ π σ ε) (stands : s.tasks = before ++ task :: rest)
    (here : before.length = cursor) :
    s.fire cursor task now reaction =
      { s with
        tasks := (before ++ ran task now reaction :: rest).map (Task.markedIn reaction.removals) } := by
  subst here
  simp [fire, markAll_eq, replace, stands]

theorem settle_eq (s : Scheduler κ π) {before rest : List (Task κ π)} {task : Task κ π}
    {cursor : Nat} (world : World σ) (visit : Visit ε) (stands : s.tasks = before ++ task :: rest)
    (here : before.length = cursor) :
    s.settle cursor world visit =
      ⟨(before ++ task.spent.toList).length,
        { s with
          tasks := before ++ task.spent.toList ++ rest
          owners := s.owners.map (Owner.without (if task.spent.isNone then [task] else [])) },
        world, visit :: if task.spent.isNone then [.dropped task.id task.name] else []⟩ := by
  have found : s.tasks[cursor]? = some task := by simp [stands, ← here]
  unfold settle
  rw [found]
  obtain ⟨id, name, intervalMs, remaining, lastFiredAt, callback, payload, owner, fireCount⟩ := task
  cases remaining with
  | pendingRemoval | forever => simp [Task.spent, ← stands, here]
  | times n =>
    by_cases last : n ≤ 1
    · simp [Task.spent, last, unlink_eq s stands here, here]
    · subst here
      simp [Task.spent, last, replace, stands]

/-- The walk and the pass do the same at one task.  `kept` are the tasks that stayed
    so far, without the marks asked for in this tick, and `rest` the tasks to come. -/
theorem visit_eq_meet (behavior : Behavior κ π σ ε) (now : Instant) (s : Scheduler κ π)
    (world : World σ) (asked : List TaskId) (kept rest : List (Task κ π)) (task : Task κ π)
    (stands : s.tasks = (kept ++ task :: rest).map (Task.markedIn asked)) :
    let stop := meet behavior now asked world task
    visit behavior now kept.length (task.markedIn asked) s world =
      ⟨(kept ++ stop.stays.toList).length,
        { s with
          tasks := (kept ++ stop.stays.toList ++ rest).map (Task.markedIn stop.asked)
          owners := s.owners.map (Owner.without stop.left) },
        stop.world, stop.visits⟩ := by
  have stands' : s.tasks =
      kept.map (Task.markedIn asked) ++ task.markedIn asked :: rest.map (Task.markedIn asked) := by
    simp [stands]
  have here : (kept.map (Task.markedIn asked)).length = kept.length := List.length_map _
  rw [meet_eq]
  unfold visit
  by_cases pending : (task.markedIn asked).isPendingRemoval = true
  · -- it leaves without a run
    have leaves := (Task.isPendingRemoval_markedIn asked task).mp pending
    have name := Task.name_markedIn asked task
    rw [if_pos pending, if_pos leaves, unlink_eq s stands' here]
    simp [Stop.left, Owner.without_congr (Task.id_markedIn asked task) (Task.owner_markedIn asked task),
      name]
  · have stays := mt (Task.isPendingRemoval_markedIn asked task).mpr pending
    have absent : task.id ∉ asked := fun member => stays (.inr member)
    rw [if_neg pending, if_neg stays]
    rw [Task.markedIn_of_not_mem absent] at stands' ⊢
    by_cases due : task.isDue world.clock = true
    · rw [if_pos due, if_pos due]
      -- from here on only what the callback asked for matters
      generalize behavior task.callback ⟨task.id, task.name, now⟩ task.payload world = reaction
      have fired : (s.fire kept.length task now reaction).tasks =
          kept.map (Task.markedIn (asked ++ reaction.removals)) ++
            (ran task now reaction).markedIn reaction.removals ::
              rest.map (Task.markedIn (asked ++ reaction.removals)) := by
        rw [fire_eq s now reaction stands' here]
        simp [Function.comp_def]
      simp only []
      rw [settle_eq _ _ _ fired (List.length_map _), fire_eq s now reaction stands' here]
      by_cases own : task.id ∈ reaction.removals
      · -- it asked for its own removal, and stays
        have marked : (ran task now reaction).markedIn reaction.removals =
            (ran task now reaction).marked := Task.markedIn_of_mem own
        simp [own, marked, Task.spent_marked, Stop.left]
      · have unmarked : (ran task now reaction).markedIn reaction.removals =
            ran task now reaction := Task.markedIn_of_not_mem own
        have absent' : task.id ∉ asked ++ reaction.removals := by simp [absent, own]
        rw [unmarked]
        cases spent : (ran task now reaction).spent with
        | none =>
          have same : Owner.without [ran task now reaction] = Owner.without [task] :=
            Owner.without_congr rfl rfl
          simp [own, Stop.left, same]
        | some stays =>
          have same : stays.id = task.id := (Task.id_of_spent spent).trans rfl
          simp [own, Stop.left, Task.markedIn_of_not_mem (same ▸ absent')]
    · -- it is not due and stays as it is
      rw [if_neg due, if_neg due]
      simp [Stop.left, ← stands', Task.markedIn_of_not_mem absent]

/-! ## The whole walk -/

/-- A pass stops once at every task, in the order of the list. -/
theorem tasks_stops_pass (behavior : Behavior κ π σ ε) (now : Instant) (asked : List TaskId)
    (world : World σ) (tasks : List (Task κ π)) :
    (pass behavior now asked world tasks).stops.map (·.task) = tasks := by
  induction tasks generalizing asked world with
  | nil => rfl
  | cons task rest ih =>
    simp only [pass, List.map_cons, ih]
    unfold meet
    split
    · rfl
    · split <;> rfl

/-- From any cursor on, the walk does what the pass does over the tasks to come. -/
theorem walk_eq_pass (behavior : Behavior κ π σ ε) (now : Instant) (rest : List (Task κ π))
    (s : Scheduler κ π) (world : World σ) (asked : List TaskId) (kept : List (Task κ π))
    (stands : s.tasks = (kept ++ rest).map (Task.markedIn asked)) :
    let p := pass behavior now asked world rest
    walk behavior now kept.length s world =
      ⟨{ s with
          tasks := (kept ++ p.stayed).map (Task.markedIn p.asked)
          owners := s.owners.map (Owner.without p.left) },
        p.world, p.visits⟩ := by
  induction rest generalizing s world asked kept with
  | nil =>
    have ended : ¬ kept.length < s.tasks.length := by simp [stands]
    unfold walk
    rw [dif_neg ended]
    rw [List.append_nil] at stands
    simp [pass, ← stands]
  | cons task rest ih =>
    have before : kept.length < s.tasks.length := by simp [stands]
    have here : s.tasks[kept.length] = task.markedIn asked := by simp [stands]
    unfold walk
    rw [dif_pos before, here]
    simp only [visit_eq_meet behavior now s world asked kept rest task stands]
    rw [ih _ _ _ _ rfl]
    simp [pass, TickResult.after, Owner.without_append]

/-- One stop counts once: as a run, as a task that leaves, or as both. -/
theorem ofVisits_visits_meet (behavior : Behavior κ π σ ε) (now : Instant) (asked : List TaskId)
    (world : World σ) (task : Task κ π) :
    let stop := meet behavior now asked world task
    TickReport.ofVisits stop.visits = ⟨if stop.ran then 1 else 0, stop.left.length⟩ := by
  rw [meet_eq]
  split
  · rfl
  · split
    · generalize behavior task.callback ⟨task.id, task.name, now⟩ task.payload world = reaction
      simp only []
      cases (if task.id ∈ reaction.removals then some (ran task now reaction).marked
        else (ran task now reaction).spent) <;> rfl
    · rfl

/-- The report of a tick is the number of runs and of tasks that left. -/
theorem ofVisits_visits_pass (behavior : Behavior κ π σ ε) (now : Instant) (asked : List TaskId)
    (world : World σ) (tasks : List (Task κ π)) :
    let p := pass behavior now asked world tasks
    TickReport.ofVisits p.visits = ⟨p.stops.countP (·.ran), p.left.length⟩ := by
  induction tasks generalizing asked world with
  | nil => rfl
  | cons task rest ih =>
    have here := ofVisits_visits_meet behavior now asked world task
    have later := ih (meet behavior now asked world task).asked (meet behavior now asked world task).world
    simp only [TickReport.ofVisits, TickReport.mk.injEq] at here later ⊢
    simp only [pass, Pass.visits_cons, Pass.left_cons, List.countP_append, List.countP_cons,
      List.length_append, here, later]
    exact ⟨Nat.add_comm _ _, trivial⟩

theorem tick_eq (behavior : Behavior κ π σ ε) (s : Scheduler κ π) (world : World σ) :
    let p := pass behavior world.clock [] world s.tasks
    s.tick behavior world = ⟨s.afterPass p, p.world, p.visits⟩ := by
  have stands : s.tasks = ([] ++ s.tasks).map (Task.markedIn []) := by simp [Task.markedIn_nil]
  exact walk_eq_pass behavior world.clock s.tasks s world [] [] stands

/-- A tick is one pass over the tasks as they are when it begins: it stops once at
    every task, in the order of the list, and leaves the scheduler, the world and the
    report that the stops add up to. -/
theorem tick_eq_pass (behavior : Behavior κ π σ ε) (s : Scheduler κ π) (world : World σ) :
    let p := pass behavior world.clock [] world s.tasks
    p.stops.map (·.task) = s.tasks ∧
      s.tick behavior world = ⟨s.afterPass p, p.world, p.visits⟩ ∧
      (s.tick behavior world).report = ⟨p.stops.countP (·.ran), p.left.length⟩ := by
  refine ⟨tasks_stops_pass behavior world.clock [] world s.tasks, tick_eq behavior s world, ?_⟩
  rw [tick_eq]
  exact ofVisits_visits_pass behavior world.clock [] world s.tasks

end Scheduler

end Backlog
