import Backlog.Proofs.Schedule.Fate

/-!
# Followers

Tasks stand in the order in which they were added, and handles are given out in that order too.
So the first task such as one looks for is the one with the smallest handle: the first of a name,
and the task that follows one that is removed.  Whoever removes a task and goes on with the
follower that the answer names, as `Scheduler.removeOnward` does, comes once to each of the tasks
from there to the end of the list.
-/

namespace Backlog

namespace Scheduler

variable {κ π σ ε : Type}

/-- `found` is the smallest handle of a task such as `P` says, or nothing if there is no such task. -/
def IsEarliest (s : Scheduler κ π) (P : Task κ π → Prop) (found : Option TaskId) : Prop :=
  (∀ id, found = some id → ∃ task ∈ s.tasks, task.id = id ∧ P task ∧
    ∀ other ∈ s.tasks, P other → id.number ≤ other.id.number) ∧
  (found = none → ∀ task ∈ s.tasks, ¬ P task)

/-- What stands behind a task has greater handles, and what stands before it smaller ones. -/
theorem Balanced.split {s : Scheduler κ π} (balanced : s.Balanced) {before rest : List (Task κ π)}
    {task : Task κ π} (stands : s.tasks = before ++ task :: rest) :
    (∀ t ∈ before, t.id.number < task.id.number) ∧ ∀ t ∈ rest, task.id.number < t.id.number := by
  have ascending := balanced.ascending_tasks
  rw [stands, List.pairwise_append] at ascending
  obtain ⟨-, ordered, less⟩ := ascending
  exact ⟨fun t member => less t member task List.mem_cons_self, (List.pairwise_cons.mp ordered).1⟩

theorem Balanced.le_onward {s : Scheduler κ π} (balanced : s.Balanced)
    {before rest : List (Task κ π)} {task : Task κ π} (stands : s.tasks = before ++ task :: rest) :
    ∀ t ∈ task :: rest, task.id.number ≤ t.id.number := by
  obtain ⟨-, greater⟩ := balanced.split stands
  intro t member
  rcases List.mem_cons.mp member with rfl | later
  · exact Nat.le_refl _
  · exact Nat.le_of_lt (greater t later)

/-- The first of tasks with ascending handles is the one with the smallest. -/
theorem Balanced.isEarliest_find? {s : Scheduler κ π} (balanced : s.Balanced)
    (P : Task κ π → Prop) [DecidablePred P] :
    s.IsEarliest P ((s.tasks.find? fun task => P task).map (·.id)) := by
  constructor
  · intro id found
    obtain ⟨task, first, rfl⟩ := Option.map_eq_some_iff.mp found
    obtain ⟨passes, before, rest, stands, fail⟩ := List.find?_eq_some_iff_append.mp first
    refine ⟨task, List.mem_of_find?_eq_some first, rfl, of_decide_eq_true passes, ?_⟩
    intro other member passes'
    rw [stands] at member
    rcases List.mem_append.mp member with early | late
    · have fails := fail other early
      simp [passes'] at fails
    · exact balanced.le_onward stands other late
  · intro none task member passes
    exact List.find?_eq_none.mp (Option.map_eq_none_iff.mp none) task member (decide_eq_true passes)

/-! ## The follower of a task -/

/-- The answer to a removal is the head of what stood behind the task. -/
theorem Balanced.remove_split {s : Scheduler κ π} (balanced : s.Balanced)
    {before rest : List (Task κ π)} {task : Task κ π} (stands : s.tasks = before ++ task :: rest) :
    (s.remove task.id).state = s.without [task.id] ∧
      (s.remove task.id).answer = .ok (rest.head?.map (·.id)) ∧
      (s.without [task.id]).tasks = before ++ rest := by
  have member : task ∈ s.tasks := by
    rw [stands]
    exact List.mem_append_right _ List.mem_cons_self
  obtain ⟨place, here, removed⟩ := balanced.remove member
  have left : (s.without [task.id]).tasks = before ++ rest := by
    have nodup := balanced.nodup
    rw [stands] at nodup
    rw [without, stands]
    exact filter_id_ne nodup
  -- no other place has the task
  have first : place = before.length := by
    obtain ⟨bound, -⟩ := List.getElem?_eq_some_iff.mp here
    apply (List.getElem?_inj bound balanced.nodup.of_map).mp
    rw [here, stands, List.getElem?_append_right (Nat.le_refl _), Nat.sub_self, List.getElem?_cons_zero]
  rw [removed, left, first, List.getElem?_append_right (Nat.le_refl _), Nat.sub_self,
    ← List.head?_eq_getElem?]
  exact ⟨rfl, rfl, rfl⟩

theorem Balanced.head?_split {s : Scheduler κ π} (balanced : s.Balanced)
    {before rest : List (Task κ π)} {task : Task κ π} (stands : s.tasks = before ++ task :: rest) :
    rest.head? = s.tasks.find? (task.id.number < ·.id.number) := by
  obtain ⟨smaller, greater⟩ := balanced.split stands
  have none : before.find? (task.id.number < ·.id.number) = none := by
    apply List.find?_eq_none.mpr
    intro t member
    simpa using Nat.le_of_lt (smaller t member)
  rw [stands, List.find?_append, none, Option.none_or, List.find?_cons_of_neg (by simp)]
  cases rest with
  | nil => rfl
  | cons next rest =>
    rw [List.head?_cons, List.find?_cons_of_pos]
    simpa using greater next List.mem_cons_self

theorem exists_of_remove {s : Scheduler κ π} {id : TaskId} {follower : Option TaskId}
    (removed : (s.remove id).answer = .ok follower) : ∃ task ∈ s.tasks, task.id = id := by
  by_contra absent
  rw [remove_absent fun task member same => absent ⟨task, member, same⟩] at removed
  cases removed

theorem Balanced.answer_remove {s : Scheduler κ π} (balanced : s.Balanced) {task : Task κ π}
    (member : task ∈ s.tasks) :
    (s.remove task.id).answer =
      .ok ((s.tasks.find? (task.id.number < ·.id.number)).map (·.id)) := by
  obtain ⟨before, rest, stands⟩ := List.append_of_mem member
  rw [(balanced.remove_split stands).2.1, balanced.head?_split stands]

/-! ## Going on with the follower -/

theorem length_remove_lt {s : Scheduler κ π} {id : TaskId} {follower : Option TaskId}
    (removed : (s.remove id).answer = .ok follower) :
    (s.remove id).state.tasks.length < s.tasks.length := by
  unfold remove at removed ⊢
  split at removed
  · rename_i place task position _
    obtain ⟨bound, -⟩ := List.findIdx?_eq_some_iff_getElem.mp position
    rw [length_tasks_unlink s place bound]
    omega
  · cases removed

/-- Removes a task, then the follower that the answer names, and so on while there is one.  The
    outcome are the handles that were removed, in order, and what is left. -/
def removeOnward (s : Scheduler κ π) (id : TaskId) : List TaskId × Scheduler κ π :=
  match removed : (s.remove id).answer with
  | .ok (some next) =>
    have := length_remove_lt removed
    let onward := (s.remove id).state.removeOnward next
    (id :: onward.1, onward.2)
  | .ok none => ([id], (s.remove id).state)
  | .error _ => ([], (s.remove id).state)
termination_by s.tasks.length

theorem removeOnward_of_ok {s : Scheduler κ π} {id : TaskId} {follower : Option TaskId}
    (removed : (s.remove id).answer = .ok follower) :
    s.removeOnward id =
      (follower.map (s.remove id).state.removeOnward).elim ([id], (s.remove id).state)
        fun onward => (id :: onward.1, onward.2) := by
  rw [removeOnward]
  split
  · rename_i next found
    rw [found] at removed
    cases removed
    rfl
  · rename_i found
    rw [found] at removed
    cases removed
    rfl
  · rename_i found
    rw [found] at removed
    cases removed

theorem Balanced.removeOnward_split {s : Scheduler κ π} (balanced : s.Balanced)
    {before rest : List (Task κ π)} {task : Task κ π} (stands : s.tasks = before ++ task :: rest) :
    (s.removeOnward task.id).1 = (task :: rest).map (·.id) ∧
      (s.removeOnward task.id).2.tasks = before := by
  -- what stands before the task is the same all the way
  induction rest generalizing s task with
  | nil =>
    obtain ⟨state, answer, left⟩ := balanced.remove_split stands
    rw [removeOnward_of_ok answer, state]
    exact ⟨rfl, left.trans (List.append_nil before)⟩
  | cons next rest ih =>
    obtain ⟨state, answer, left⟩ := balanced.remove_split stands
    obtain ⟨removed, cleared⟩ := ih (balanced.loses (Loses.without s [task.id])) left
    rw [removeOnward_of_ok answer, state]
    simp only [List.head?_cons, Option.map_some, Option.elim_some, removed, cleared, List.map_cons,
      and_self]

/-- Handles tell on which side of a task the others stand. -/
theorem Balanced.filter_split {s : Scheduler κ π} (balanced : s.Balanced)
    {before rest : List (Task κ π)} {task : Task κ π} (stands : s.tasks = before ++ task :: rest) :
    s.tasks.filter (task.id.number ≤ ·.id.number) = task :: rest ∧
      s.tasks.filter (·.id.number < task.id.number) = before := by
  obtain ⟨smaller, -⟩ := balanced.split stands
  have onward := balanced.le_onward stands
  rw [stands, List.filter_append, List.filter_append]
  constructor
  · rw [List.filter_eq_nil_iff.mpr fun t member => by simpa using smaller t member,
      List.filter_eq_self.mpr fun t member => by simpa using onward t member, List.nil_append]
  · rw [List.filter_eq_self.mpr fun t member => by simpa using smaller t member,
      List.filter_eq_nil_iff.mpr fun t member => by simpa using onward t member, List.append_nil]

/-- The tasks from one to the end of the list are removed, and no others. -/
theorem Balanced.removeOnward {s : Scheduler κ π} (balanced : s.Balanced) {task : Task κ π}
    (member : task ∈ s.tasks) :
    (s.removeOnward task.id).1 = (s.tasks.filter (task.id.number ≤ ·.id.number)).map (·.id) ∧
      (s.removeOnward task.id).2.tasks = s.tasks.filter (·.id.number < task.id.number) := by
  obtain ⟨before, rest, stands⟩ := List.append_of_mem member
  obtain ⟨onward, earlier⟩ := balanced.filter_split stands
  rw [onward, earlier]
  exact balanced.removeOnward_split stands

/-! ## Handles in the list -/

/-- The list gains the handle of a new task at its end, and otherwise only loses some. -/
theorem Moves.handles {s s' : Scheduler κ π} {new : Option TaskId} (balanced : s.Balanced)
    (moves : Moves s s' new) : (s'.tasks.map (·.id)).Sublist (s.tasks.map (·.id) ++ new.toList) := by
  have listed : ∀ s : Scheduler κ π, s.tasks.map (·.id) = s.roll.map (·.1) := by
    intro s
    simp [roll, Function.comp_def]
  cases moves with
  | loses gone loses =>
    rw [listed s, listed s', loses.roll, Option.toList_none, List.append_nil]
    exact List.filter_sublist.map _
  | gains owner gains =>
    rw [listed s, listed s', gains.roll, List.map_append]
    exact List.Sublist.refl _
  | registers name registers =>
    rw [registers, Option.toList_none, List.append_nil]
    exact List.Sublist.refl _
  | releases owner releases =>
    rw [releases, balanced.tasks_releaseOwner, Option.toList_none, List.append_nil]
    exact List.filter_sublist.map _

end Scheduler

namespace Scene

open Scheduler

variable {κ π σ ε : Type}

theorem handles_after (behavior : Behavior κ π σ ε) {scene : Scene κ π σ}
    (balanced : scene.scheduler.Balanced) (requests : List (Request κ π σ)) :
    ((scene.after behavior requests).scheduler.tasks.map (·.id)).Sublist
      (scene.scheduler.tasks.map (·.id) ++
        (scene.answers behavior requests).filterMap Answer.newTask?) := by
  induction requests generalizing scene with
  | nil => simp [after, answers]
  | cons request rest ih =>
    have moves := serve_moves behavior scene balanced request
    have later := ih (balanced.moves moves)
    have step := moves.handles balanced
    have issued : (scene.answers behavior (request :: rest)).filterMap Answer.newTask? =
        (scene.serve behavior request).2.newTask?.toList ++
          ((scene.serve behavior request).1.answers behavior rest).filterMap Answer.newTask? := by
      cases new : (scene.serve behavior request).2.newTask? <;> simp [answers, new]
    rw [issued, ← List.append_assoc]
    exact List.Sublist.trans later (step.append_right _)

/-- In every scheduler that requests can reach the tasks stand in the order in which they were added,
    so the first of a name is the one with the smallest handle.  A task is removed if it is there,
    all others stay as they are, and the answer is the smallest handle above it.  Whoever goes on
    with that removes each task from there to the end once, and no other. -/
theorem list_keeps_registration_order (behavior : Behavior κ π σ ε) (world : World σ)
    (requests : List (Request κ π σ)) :
    let s := ((start world).after behavior requests).scheduler
    s.tasks.Pairwise (·.id.number < ·.id.number) ∧
      (s.tasks.map (·.id)).Sublist
        (((start world).answers behavior requests).filterMap Answer.newTask?) ∧
      (∀ name, s.IsEarliest (·.name = name) (s.find? name)) ∧
      (∀ id,
        ((∃ follower, (s.remove id).answer = .ok follower) ↔ ∃ task ∈ s.tasks, task.id = id) ∧
          ∀ follower, (s.remove id).answer = .ok follower →
            s.IsEarliest (id.number < ·.id.number) follower ∧
              (s.remove id).state.tasks = s.tasks.filter (·.id ≠ id)) ∧
      ∀ task ∈ s.tasks,
        (s.removeOnward task.id).1 = (s.tasks.filter (task.id.number ≤ ·.id.number)).map (·.id) ∧
          (s.removeOnward task.id).1.Nodup ∧
          (s.removeOnward task.id).2.tasks = s.tasks.filter (·.id.number < task.id.number) := by
  intro s
  have new : (start world : Scene κ π σ).scheduler.Balanced := Balanced.empty
  have balanced : s.Balanced := balanced_after new requests
  refine ⟨balanced.ascending_tasks, ?_, ?_, ?_, ?_⟩
  · exact handles_after behavior new requests
  · intro name
    exact balanced.isEarliest_find? (·.name = name)
  · intro id
    refine ⟨⟨?_, ?_⟩, ?_⟩
    · rintro ⟨follower, answer⟩
      exact exists_of_remove answer
    · rintro ⟨task, member, rfl⟩
      exact ⟨_, balanced.answer_remove member⟩
    · intro follower answer
      obtain ⟨task, member, rfl⟩ := exists_of_remove answer
      rw [balanced.answer_remove member] at answer
      cases answer
      refine ⟨?_, balanced.tasks_remove task.id⟩
      exact balanced.isEarliest_find? (task.id.number < ·.id.number)
  · intro task member
    obtain ⟨removed, left⟩ := balanced.removeOnward member
    refine ⟨removed, ?_, left⟩
    rw [removed]
    exact balanced.nodup.sublist (List.filter_sublist.map _)

/-- Of four tasks, two of a name, the first is renamed; then the third is the first of that name, and
    going on from the second removes all but the first. -/
theorem list_keeps_registration_order_renamed :
    let world : World Unit := ⟨Instant.epoch, ()⟩
    let named (name : String) : Request Script.Callback Script.Payload Unit :=
      .add ⟨none, name, .ofLines [], .unit, 500, 0⟩
    let s := ((start world).after Script.behavior
      [named "ping", named "sweep", named "ping", named "beat",
        .modify ⟨1⟩ { name := some "beat" }]).scheduler
    s.tasks.map (·.id) = [⟨1⟩, ⟨2⟩, ⟨3⟩, ⟨4⟩] ∧
      s.find? "ping" = some ⟨3⟩ ∧ s.find? "beat" = some ⟨1⟩ ∧
      (∀ task ∈ s.tasks, task.name = "ping" → 3 ≤ task.id.number) ∧
      (s.remove ⟨2⟩).answer = .ok (some ⟨3⟩) ∧
      (s.remove ⟨2⟩).state.tasks.map (·.id) = [⟨1⟩, ⟨3⟩, ⟨4⟩] ∧
      (s.removeOnward ⟨2⟩).1 = [⟨2⟩, ⟨3⟩, ⟨4⟩] ∧
      (s.removeOnward ⟨2⟩).2.tasks.map (·.id) = [⟨1⟩] := by
  intro world named s
  obtain ⟨-, -, finding, removing, going⟩ := list_keeps_registration_order Script.behavior world
    [named "ping", named "sweep", named "ping", named "beat", .modify ⟨1⟩ { name := some "beat" }]
  have found : s.find? "ping" = some ⟨3⟩ := by decide +kernel
  have least : ∀ task ∈ s.tasks, task.name = "ping" → 3 ≤ task.id.number := by
    obtain ⟨-, -, -, -, least⟩ := (finding "ping").1 ⟨3⟩ found
    exact least
  have answer : (s.remove ⟨2⟩).answer = .ok (some ⟨3⟩) := by decide +kernel
  obtain ⟨-, left⟩ := (removing ⟨2⟩).2 (some ⟨3⟩) answer
  have second : (s.get? ⟨2⟩).isSome := by decide +kernel
  obtain ⟨task, known⟩ := Option.isSome_iff_exists.mp second
  obtain ⟨removed, -, cleared⟩ := going task (mem_of_get? known)
  rw [id_of_get? known] at removed cleared
  refine ⟨by decide +kernel, found, by decide +kernel, least, answer, ?_, ?_, ?_⟩
  · rw [left]
    decide +kernel
  · rw [removed]
    decide +kernel
  · rw [cleared]
    decide +kernel

end Scene

end Backlog
