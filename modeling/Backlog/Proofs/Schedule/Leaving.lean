import Backlog.Proofs.Schedule.Counts
import Backlog.Proofs.Schedule.Spacing

/-!
# How marked tasks leave

A marked task does not run any more, unless it is given a count again.  It leaves the list at
its stop in the next tick, `Scene.LeavesNext`, and then it is gone for good, `Scene.GoneFrom`.
The report of that tick counts it, `Scheduler.IsCounted`.  If the callback of a task that stands before it asks for its removal, that stop is in the
same tick still.
-/

namespace Backlog

variable {κ π σ ε : Type}

/-- What is pending stays so, as long as it is in the list and is given no count. -/
theorem Remaining.Course.pending {marks counts removes : Prop} {left : Remaining} {k : Nat}
    (course : Course marks counts removes (some .pendingRemoval) (some left) k)
    (uncounted : ¬ counts) : left = .pendingRemoval := by
  cases course with
  | rests | marked => rfl
  | runs _ armed | runsMarked _ _ armed => exact absurd rfl armed
  | counted why => exact absurd why uncounted

/-! ## The stop of a task in a pass -/

theorem pass_append (behavior : Behavior κ π σ ε) (now : Instant) (asked : List TaskId)
    (world : World σ) (before rest : List (Task κ π)) :
    let first := pass behavior now asked world before
    let second := pass behavior now first.asked first.world rest
    pass behavior now asked world (before ++ rest) =
      ⟨first.stops ++ second.stops, second.asked, second.world⟩ := by
  induction before generalizing asked world with
  | nil => rfl
  | cons task before ih => simp only [List.cons_append, pass, ih]

theorem Stop.Goes.asked_subset {behavior : Behavior κ π σ ε} {now : Instant} {asked : List TaskId}
    {world : World σ} {task : Task κ π} {stop : Stop κ π σ ε}
    (goes : stop.Goes behavior now asked world task) : asked ⊆ stop.asked := by
  cases goes with
  | leaves | waits => exact List.Subset.refl asked
  | runs => exact List.subset_append_left _ _

/-- A task whose own callback asks for its removal stays until the next tick. -/
theorem Stop.Goes.stays_of_asked {behavior : Behavior κ π σ ε} {now : Instant} {asked : List TaskId}
    {world : World σ} {task : Task κ π} {stop : Stop κ π σ ε}
    (goes : stop.Goes behavior now asked world task) (unasked : task.id ∉ asked)
    (armed : task.remaining ≠ .pendingRemoval) (own : task.id ∈ stop.asked) : stop.stays.isSome := by
  cases goes with
  | leaves ends =>
    rcases ends with pending | before
    · exact absurd (of_decide_eq_true pending) armed
    · exact absurd before unasked
  | waits => rfl
  | runs _ due reaction reacts stays settles =>
    rcases List.mem_append.mp own with before | removal
    · exact absurd before unasked
    · rw [settles, if_pos removal]
      rfl

theorem asked_subset_pass (behavior : Behavior κ π σ ε) (now : Instant) (asked : List TaskId)
    (world : World σ) (tasks : List (Task κ π)) :
    asked ⊆ (pass behavior now asked world tasks).asked := by
  induction tasks generalizing asked world with
  | nil => exact List.Subset.refl asked
  | cons task rest ih =>
    exact List.Subset.trans (Stop.goes_meet behavior now asked world task).asked_subset (ih _ _)

namespace Scheduler

variable {s : Scheduler κ π} {id : TaskId}

/-- The part of a tick that comes before the stop of a task. -/
def passUpTo (behavior : Behavior κ π σ ε) (world : World σ) (id : TaskId) (s : Scheduler κ π) :
    Pass κ π σ ε :=
  pass behavior world.clock [] world (s.tasks.takeWhile (·.id ≠ id))

/-- Whether, in a tick, the callback of a task that stands before a task asks for its removal. -/
def AsksBefore (behavior : Behavior κ π σ ε) (world : World σ) (id : TaskId) (s : Scheduler κ π) :
    Prop :=
  (s.get? id).isSome ∧ id ∈ (s.passUpTo behavior world id).asked

instance (behavior : Behavior κ π σ ε) (world : World σ) (id : TaskId) (s : Scheduler κ π) :
    Decidable (s.AsksBefore behavior world id) :=
  inferInstanceAs (Decidable (_ ∧ _))

/-- The place of a task in the list. -/
theorem stands_of_get? {task : Task κ π} (found : s.get? id = some task) :
    ∃ before rest, s.tasks = before ++ task :: rest ∧ (∀ t ∈ before, t.id ≠ id) ∧
      s.tasks.takeWhile (·.id ≠ id) = before := by
  obtain ⟨own, before, rest, stands, others⟩ := List.find?_eq_some_iff_append.mp found
  have others : ∀ t ∈ before, t.id ≠ id := by simpa using others
  refine ⟨before, rest, stands, others, ?_⟩
  rw [stands, List.takeWhile_append_of_pos (by simpa using others),
    List.takeWhile_cons_of_neg (by simpa using own), List.append_nil]

theorem Balanced.filter_ne_of_stands (balanced : s.Balanced) {before rest : List (Task κ π)}
    {task : Task κ π} (stands : s.tasks = before ++ task :: rest) :
    s.tasks.filter (·.id ≠ task.id) = before ++ rest := by
  rw [stands]
  simpa using filter_id_ne (stands ▸ balanced.nodup)

/-- A task has its stop after the tasks before it had theirs. -/
theorem stop?_of_get? {task : Task κ π} (found : s.get? id = some task) (behavior : Behavior κ π σ ε)
    (world : World σ) :
    let earlier := s.passUpTo behavior world id
    let stop := meet behavior world.clock earlier.asked earlier.world task
    let p := pass behavior world.clock [] world s.tasks
    p.stop? id = some stop ∧ stop.asked ⊆ p.asked := by
  obtain ⟨before, rest, stands, others, first⟩ := stands_of_get? found
  have own := id_of_get? found
  simp only [passUpTo, first]
  simp only [stands, pass_append, pass, Pass.stop?]
  constructor
  · have none : (pass behavior world.clock [] world before).stops.find? (·.task.id = id) = none := by
      rw [List.find?_eq_none]
      intro stop member same
      have among : stop.task.id ∈ before.map (·.id) := by
        rw [← ids_stops behavior world.clock [] world before]
        exact List.mem_map_of_mem member
      obtain ⟨t, inside, equal⟩ := List.mem_map.mp among
      exact others t inside (equal.trans (of_decide_eq_true same))
    have task_eq := (Stop.goes_meet behavior world.clock
      (pass behavior world.clock [] world before).asked
      (pass behavior world.clock [] world before).world task).task_eq
    rw [List.find?_append, none, Option.none_or, List.find?_cons_of_pos (by rw [task_eq, own]; simp)]
  · exact asked_subset_pass _ _ _ _ _

/-- What a tick does with a task. -/
theorem Balanced.tick_at (balanced : s.Balanced) {task : Task κ π} (found : s.get? id = some task)
    (behavior : Behavior κ π σ ε) (world : World σ) :
    let earlier := s.passUpTo behavior world id
    let stop := meet behavior world.clock earlier.asked earlier.world task
    let p := pass behavior world.clock [] world s.tasks
    (s.tick behavior world).visits.filter (·.task = id) = stop.visits ∧
      (s.tick behavior world).scheduler.get? id = stop.stays.map (Task.markedIn p.asked) ∧
      stop.asked ⊆ p.asked := by
  intro earlier stop p
  obtain ⟨here, asked⟩ := stop?_of_get? found behavior world
  refine ⟨?_, ?_, asked⟩
  · rw [balanced.visits_tick behavior world id, here]
    rfl
  · rw [balanced.get?_tick behavior world id, here]
    rfl

/-- A task that is pending at its stop leaves there, without a run. -/
theorem Balanced.tick_drops (balanced : s.Balanced) {task : Task κ π} (found : s.get? id = some task)
    (behavior : Behavior κ π σ ε) (world : World σ)
    (ends : task.remaining = .pendingRemoval ∨ s.AsksBefore behavior world id) :
    (s.tick behavior world).visits.filter (·.task = id) = [.dropped id task.name] ∧
      (s.tick behavior world).scheduler.get? id = none := by
  obtain ⟨visits, left, -⟩ := balanced.tick_at found behavior world
  have own := id_of_get? found
  have leaves : task.isPendingRemoval = true ∨
      task.id ∈ (s.passUpTo behavior world id).asked := by
    rcases ends with pending | ⟨-, asked⟩
    · exact .inl (decide_eq_true pending)
    · exact .inr (own ▸ asked)
  rw [visits, left, meet_eq, if_pos leaves, own]
  exact ⟨rfl, rfl⟩

theorem Balanced.stop?_of_mem (balanced : s.Balanced) {behavior : Behavior κ π σ ε} {world : World σ}
    {stop : Stop κ π σ ε} (member : stop ∈ (pass behavior world.clock [] world s.tasks).stops) :
    (pass behavior world.clock [] world s.tasks).stop? stop.task.id = some stop := by
  have nodup : ((pass behavior world.clock [] world s.tasks).stops.map (·.task.id)).Nodup := by
    rw [ids_stops]
    exact balanced.nodup
  exact (find?_key_eq_some_iff nodup).mpr ⟨member, rfl⟩

/-- The report of a tick counts the tasks that the tick takes out of the list. -/
theorem Balanced.removed_tick (balanced : s.Balanced) (behavior : Behavior κ π σ ε)
    (world : World σ) :
    let ticked := s.tick behavior world
    ticked.report.removed = s.tasks.countP fun task => (ticked.scheduler.get? task.id).isNone := by
  intro ticked
  let p := pass behavior world.clock [] world s.tasks
  have report : ticked.report = TickReport.ofVisits p.visits :=
    congrArg TickResult.report (tick_eq behavior s world)
  -- whether a task is still in the list is told by its own stop
  have out : ∀ stop ∈ p.stops, stop.stays.isNone = (ticked.scheduler.get? stop.task.id).isNone := by
    intro stop member
    rw [balanced.get?_tick, balanced.stop?_of_mem member, Option.isNone_map, Option.bind_some]
  calc
    ticked.report.removed = p.left.length := by
      rw [report, ofVisits_visits_pass]
    _ = p.stops.countP (·.stays.isNone) := p.length_left
    _ = p.stops.countP fun stop => (ticked.scheduler.get? stop.task.id).isNone :=
      List.countP_congr fun stop member => by rw [out stop member]
    _ = (p.stops.map (·.task)).countP fun task => (ticked.scheduler.get? task.id).isNone := by
      rw [List.countP_map]
      rfl
    _ = s.tasks.countP fun task => (ticked.scheduler.get? task.id).isNone := by
      rw [tasks_stops_pass]

/-- Whether the report of a tick counts a task, and once: it tells of one task more than of the
    others that the tick takes out of the list. -/
def IsCounted (behavior : Behavior κ π σ ε) (world : World σ) (id : TaskId) (s : Scheduler κ π) :
    Prop :=
  let ticked := s.tick behavior world
  ticked.report.removed =
    (s.tasks.filter (·.id ≠ id)).countP (fun task => (ticked.scheduler.get? task.id).isNone) + 1

theorem Balanced.isCounted (balanced : s.Balanced) {task : Task κ π} (found : s.get? id = some task)
    {behavior : Behavior κ π σ ε} {world : World σ}
    (left : (s.tick behavior world).scheduler.get? id = none) : s.IsCounted behavior world id := by
  obtain ⟨before, rest, stands, -, -⟩ := stands_of_get? found
  have own := id_of_get? found
  subst own
  rw [IsCounted, balanced.removed_tick, balanced.filter_ne_of_stands stands]
  generalize (s.tick behavior world).scheduler = after at left
  rw [stands, List.countP_append, List.countP_append, List.countP_cons_of_pos (by rw [left]; rfl),
    Nat.add_assoc]

/-- A removal that is asked for at a task's stop, or later, leaves the task pending. -/
theorem Balanced.tick_marks (balanced : s.Balanced) {task : Task κ π} (found : s.get? id = some task)
    (behavior : Behavior κ π σ ε) (world : World σ) (asks : s.Asks behavior world id)
    (later : ¬ s.AsksBefore behavior world id) (armed : task.remaining ≠ .pendingRemoval) :
    (s.tick behavior world).scheduler.remaining? id = some .pendingRemoval := by
  obtain ⟨-, left, subset⟩ := balanced.tick_at found behavior world
  obtain ⟨here, -⟩ := stop?_of_get? found behavior world
  have own := id_of_get? found
  have unasked : id ∉ (s.passUpTo behavior world id).asked := fun asked =>
    later ⟨by rw [found]; rfl, asked⟩
  have goes := Stop.goes_meet behavior world.clock (s.passUpTo behavior world id).asked
    (s.passUpTo behavior world id).world task
  generalize meet behavior world.clock (s.passUpTo behavior world id).asked
    (s.passUpTo behavior world id).world task = stop at left subset here goes
  -- it stays at its stop, and its removal is asked for when the tick ends
  have both : stop.stays.isSome ∧ id ∈ (pass behavior world.clock [] world s.tasks).asked := by
    obtain ⟨other, member, same, asked⟩ := asks
    have equal : other = stop := by
      have there := balanced.stop?_of_mem member
      rw [same, here] at there
      exact (Option.some.inj there).symm
    subst equal
    rcases asked with inside | after
    · exact ⟨goes.stays_of_asked (own.symm ▸ unasked) armed (own.symm ▸ inside), subset inside⟩
    · exact after
  obtain ⟨x, stays⟩ := Option.isSome_iff_exists.mp both.1
  have named : x.id = id := (goes.id_of_stays stays).trans (goes.task_eq ▸ own)
  rw [remaining?, left, stays, Option.map_some, Option.map_some,
    Task.markedIn_of_mem (named.symm ▸ both.2), Task.marked]

/-! ## Tasks that are gone -/

/-- A task that is neither in the list nor known to an owner. -/
structure Gone (id : TaskId) (s : Scheduler κ π) : Prop where
  absent : s.get? id = none
  unlisted : ∀ owner, id ∉ s.ownerTasks owner

theorem Balanced.gone (balanced : s.Balanced) (absent : s.get? id = none) : s.Gone id where
  absent
  unlisted := by
    intro owner member
    cases known : s.owner? owner with
    | none =>
      rw [ownerTasks_of_none known] at member
      cases member
    | some record =>
      rw [balanced.ownerTasks (by rw [known]; rfl), mem_handlesOf_iff] at member
      obtain ⟨task, among, -, same⟩ := member
      exact List.find?_eq_none.mp absent task among (decide_eq_true same)

theorem Balanced.visits_of_absent (balanced : s.Balanced) (absent : s.get? id = none)
    (behavior : Behavior κ π σ ε) (world : World σ) :
    (s.tick behavior world).visits.filter (·.task = id) = [] := by
  rw [s.get?_eq_task_stop? behavior world.clock [] world, Option.map_eq_none_iff] at absent
  rw [balanced.visits_tick behavior world id, absent]
  rfl

end Scheduler

/-- Whether the request is a tick. -/
def Request.isTick : Request κ π σ → Bool
  | tick => true
  | registerOwner _ | releaseOwner _ | add _ | modify _ _ | markForRemoval _ | remove _ | turn _ => false

namespace Scene

open Scheduler

variable {scene : Scene κ π σ} {id : TaskId}

theorem visits_of_not_tick (behavior : Behavior κ π σ ε) {request : Request κ π σ}
    (between : request.isTick = false) : (scene.serve behavior request).2.visits = [] := by
  cases request with
  | tick => cases between
  | registerOwner | releaseOwner | add | modify | markForRemoval | remove | turn => rfl

theorem absent_serve (behavior : Behavior κ π σ ε) (balanced : scene.scheduler.Balanced)
    (issued : id.number < scene.scheduler.nextTask) (absent : scene.scheduler.get? id = none)
    (request : Request κ π σ) :
    (scene.serve behavior request).1.scheduler.get? id = none ∧
      (scene.serve behavior request).2.visits.filter (·.task = id) = [] := by
  constructor
  · have course := serve_timing behavior scene balanced request id
    rw [timing?, absent, Option.map_none] at course
    exact Option.map_eq_none_iff.mp (course.of_gone (not_makes issued request)).1
  · cases ticks : request.isTick with
    | false =>
      rw [visits_of_not_tick behavior ticks]
      rfl
    | true =>
      cases request with
      | tick => exact balanced.visits_of_absent absent behavior scene.world
      | registerOwner | releaseOwner | add | modify | markForRemoval | remove | turn => cases ticks

/-- From here on a task is gone, and visited no more. -/
def GoneFrom (behavior : Behavior κ π σ ε) (id : TaskId) (scene : Scene κ π σ) : Prop :=
  ∀ rest, (scene.after behavior rest).scheduler.Gone id ∧
    ∀ visit ∈ (scene.answers behavior rest).flatMap (·.visits), visit.task ≠ id

theorem goneFrom {behavior : Behavior κ π σ ε} (balanced : scene.scheduler.Balanced)
    (issued : id.number < scene.scheduler.nextTask) (absent : scene.scheduler.get? id = none) :
    scene.GoneFrom behavior id := by
  intro rest
  induction rest generalizing scene with
  | nil => exact ⟨balanced.gone absent, by simp [answers]⟩
  | cons request rest ih =>
    obtain ⟨balanced', issued'⟩ := issued_serve behavior balanced issued request
    obtain ⟨absent', unvisited⟩ := absent_serve behavior balanced issued absent request
    obtain ⟨gone, others⟩ := ih balanced' issued' absent'
    refine ⟨gone, ?_⟩
    intro visit member
    rw [answers, List.flatMap_cons, List.mem_append] at member
    rcases member with first | later
    · exact fun own => List.filter_eq_nil_iff.mp unvisited visit first (decide_eq_true own)
    · exact others visit later

/-! ## Pending tasks -/

/-- Between ticks a task stays in the list, unless it is removed. -/
theorem listed_serve (behavior : Behavior κ π σ ε) (balanced : scene.scheduler.Balanced)
    {task : Task κ π} (found : scene.scheduler.get? id = some task) {request : Request κ π σ}
    (between : request.isTick = false) (kept : ¬ scene.Removes id request) :
    ((scene.serve behavior request).1.scheduler.get? id).isSome := by
  cases request with
  | registerOwner | turn =>
    change (scene.scheduler.get? id).isSome
    rw [found]
    rfl
  | releaseOwner owner =>
    have free : task.owner ≠ some owner := by simpa [Removes, found] using kept
    change ((scene.scheduler.releaseOwner owner).state.get? id).isSome
    rw [balanced.get?_releaseOwner, found, Option.filter_some, if_pos (decide_eq_true free)]
    rfl
  | add new =>
    change ((scene.scheduler.add scene.world.clock new).state.get? id).isSome
    rw [get?] at found ⊢
    rw [(scene.scheduler.add_makes scene.world.clock new).2.1, List.find?_append, found]
    rfl
  | modify changing update =>
    change ((scene.scheduler.modify changing update).state.get? id).isSome
    rw [get?_mapTasks (update.id_onTask changing) (balanced.tasks_modify changing update), found]
    rfl
  | markForRemoval marking =>
    change ((scene.scheduler.markForRemoval marking).state.get? id).isSome
    rw [get?_markForRemoval, found]
    split <;> rfl
  | remove gone =>
    have other : task.id ≠ gone := fun same => kept (same.symm.trans (id_of_get? found))
    change ((scene.scheduler.remove gone).state.get? id).isSome
    rw [balanced.get?_remove, found, Option.filter_some, if_pos (decide_eq_true other)]
    rfl
  | tick => cases between

/-- Between ticks a pending task stays pending, unless it is given a count or removed. -/
theorem pending_serve (behavior : Behavior κ π σ ε) (balanced : scene.scheduler.Balanced)
    (pending : scene.scheduler.remaining? id = some .pendingRemoval) {request : Request κ π σ}
    (between : request.isTick = false) (uncounted : ¬ scene.Recounts id request)
    (kept : ¬ scene.Removes id request) :
    (scene.serve behavior request).1.scheduler.remaining? id = some .pendingRemoval := by
  obtain ⟨task, found, -⟩ := Option.map_eq_some_iff.mp pending
  obtain ⟨left, stays⟩ := Option.isSome_iff_exists.mp
    (listed_serve behavior balanced found between kept)
  have course := serve_course behavior scene balanced request id
  have made := not_makes (balanced.issued_of_get? found) request
  have remains : (scene.serve behavior request).1.scheduler.remaining? id = some left.remaining := by
    rw [remaining?, stays, Option.map_some]
  simp only [pending, remains] at course
  rw [remains, course.pending (not_or.mpr ⟨uncounted, made⟩)]

theorem pending_after {behavior : Behavior κ π σ ε} (balanced : scene.scheduler.Balanced)
    (pending : scene.scheduler.remaining? id = some .pendingRemoval) {requests : List (Request κ π σ)}
    (between : ∀ request ∈ requests, request.isTick = false)
    (uncounted : scene.Avoids behavior (Recounts id) requests)
    (kept : scene.Avoids behavior (Removes id) requests) :
    (scene.after behavior requests).scheduler.remaining? id = some .pendingRemoval := by
  induction requests generalizing scene with
  | nil => exact pending
  | cons request rest ih =>
    obtain ⟨first, between⟩ := List.forall_mem_cons.mp between
    obtain ⟨uncounted, uncounted'⟩ := uncounted
    obtain ⟨kept, kept'⟩ := kept
    exact ih (balanced.moves (serve_moves behavior scene balanced request))
      (pending_serve behavior balanced pending first uncounted kept) between uncounted' kept'

/-- A task that does not run until it is given a count, and that the next tick drops and counts,
    unless it is given a count or removed before.  After that tick it is gone. -/
structure LeavesNext (behavior : Behavior κ π σ ε) (id : TaskId) (scene : Scene κ π σ) : Prop where
  silent : ∀ later, scene.Avoids behavior (Recounts id) later → scene.runs behavior id later = 0
  dropped : ∀ between, (∀ request ∈ between, Request.isTick request = false) →
    scene.Avoids behavior (Recounts id) between → scene.Avoids behavior (Removes id) between →
      let last := scene.after behavior between
      let ticked := last.serve behavior .tick
      (∃ name, ticked.2.visits.filter (·.task = id) = [.dropped id name]) ∧
        last.scheduler.IsCounted behavior last.world id ∧ ticked.1.GoneFrom behavior id

theorem leavesNext {behavior : Behavior κ π σ ε} (balanced : scene.scheduler.Balanced)
    (pending : scene.scheduler.remaining? id = some .pendingRemoval) :
    scene.LeavesNext behavior id where
  silent := by
    intro later uncounted
    obtain ⟨task, found, -⟩ := Option.map_eq_some_iff.mp pending
    have spare : Remaining.Spare 0 (scene.scheduler.remaining? id) := by
      rw [pending]
      trivial
    exact Nat.le_zero.mp (runs_le_of_spare balanced (balanced.issued_of_get? found) spare uncounted)
  dropped := by
    intro between waits uncounted kept last ticked
    have still := pending_after balanced pending waits uncounted kept
    have balanced' : last.scheduler.Balanced := balanced_after balanced between
    obtain ⟨task, found, remains⟩ := Option.map_eq_some_iff.mp still
    obtain ⟨visits, absent⟩ := balanced'.tick_drops found behavior last.world (.inl remains)
    obtain ⟨balanced'', issued⟩ := issued_serve behavior balanced' (balanced'.issued_of_get? found) .tick
    exact ⟨⟨task.name, visits⟩, balanced'.isCounted found absent, goneFrom balanced'' issued absent⟩

/-- Whether a request leaves a task pending at once. -/
def MarksNow (id : TaskId) (scene : Scene κ π σ) (request : Request κ π σ) : Prop :=
  scene.Arms id (-1) request ∨
    request = .markForRemoval id ∧ (scene.scheduler.markForRemoval id).answer = .ok ()

theorem pending_of_marksNow (behavior : Behavior κ π σ ε) (balanced : scene.scheduler.Balanced)
    {request : Request κ π σ} (marks : scene.MarksNow id request) :
    (scene.serve behavior request).1.scheduler.remaining? id = some .pendingRemoval := by
  rcases marks with arms | ⟨rfl, answer⟩
  · obtain ⟨r, read, remains⟩ := ofCount_of_arms behavior balanced arms
    rw [remains, ← Except.ok.inj read]
  · change (scene.scheduler.markForRemoval id).state.remaining? id = _
    rw [remaining?, get?_markForRemoval, if_pos rfl]
    cases found : scene.scheduler.get? id with
    | none =>
      simp only [markForRemoval, found] at answer
      cases answer
    | some task => rfl

end Scene

end Backlog
