import Backlog.Proofs.Schedule.Ownership
import Backlog.Schedule.Script

/-!
# Handles in every scheduler

What a request may do to handles and owners comes in four kinds, `Scheduler.Moves`.
By them, the roll and the books of every scheduler that requests can reach agree,
handles are given out once, and an owner that was released stays unknown.
-/

namespace Backlog

namespace Scheduler

variable {κ π σ ε : Type}

/-- The ways to get from `s` to `s'`, each with the handle that it gives to a new task. -/
inductive Moves (s s' : Scheduler κ π) : Option TaskId → Prop where
  | loses (gone : List TaskId) (loses : Loses gone s s') : Moves s s' none
  | gains (owner : Option OwnerId) (gains : Gains owner s s') : Moves s s' (some ⟨s.nextTask⟩)
  | registers (name : String) (registers : s' = (s.registerOwner name).2) : Moves s s' none
  | releases (owner : OwnerId) (releases : s' = (s.releaseOwner owner).state) : Moves s s' none

theorem Balanced.empty : (empty : Scheduler κ π).Balanced := by
  constructor <;> simp [Scheduler.empty, roll, books]

theorem Balanced.moves {s s' : Scheduler κ π} {new : Option TaskId} (balanced : s.Balanced)
    (moves : Moves s s' new) : s'.Balanced := by
  cases moves with
  | loses gone loses => exact balanced.loses loses
  | gains owner gains => exact balanced.gains gains
  | registers name registers => exact registers ▸ balanced.registerOwner name
  | releases owner releases => exact releases ▸ balanced.releaseOwner_balanced owner

/-- What releasing an owner leaves of the other records. -/
theorem Balanced.releaseOwner_frame {s : Scheduler κ π} (balanced : s.Balanced) (owner : OwnerId) :
    let left := (s.releaseOwner owner).state
    left.books.map (·.1) = (s.books.map (·.1)).filter (· ≠ owner) ∧
      left.nextTask = s.nextTask ∧ left.nextOwner = s.nextOwner := by
  cases found : s.owner? owner with
  | none =>
    have absent : owner ∉ s.books.map (·.1) := by
      rw [← isSome_owner?_iff, found]
      simp
    rw [releaseOwner_of_none found]
    refine ⟨(List.filter_eq_self.mpr ?_).symm, rfl, rfl⟩
    intro other member
    have distinct : other ≠ owner := fun same => absent (same ▸ member)
    simpa using distinct
  | some record =>
    rw [(balanced.releaseOwner (by simp [found])).1]
    refine ⟨?_, rfl, rfl⟩
    simp [books, without, List.filter_map, Function.comp_def]

/-! ## Owners that are gone -/

/-- An owner that is not registered, and whose handle will not be given out again. -/
structure Retired (owner : OwnerId) (s : Scheduler κ π) : Prop where
  absent : owner ∉ s.books.map (·.1)
  passed : owner.number < s.nextOwner

theorem Retired.unknown {owner : OwnerId} {s : Scheduler κ π} (retired : Retired owner s) :
    s.owner? owner = none := by
  have absent := retired.absent
  rw [← isSome_owner?_iff] at absent
  simpa using absent

theorem Balanced.retires {s : Scheduler κ π} (balanced : s.Balanced) {owner : OwnerId}
    (registered : (s.owner? owner).isSome) : Retired owner (s.releaseOwner owner).state := by
  obtain ⟨keys, -, nextOwner⟩ := balanced.releaseOwner_frame owner
  constructor
  · rw [keys]
    simp
  · obtain ⟨book, member, rfl⟩ := List.mem_map.mp ((isSome_owner?_iff s owner).mp registered)
    rw [nextOwner]
    exact balanced.registered book member

theorem Retired.moves {owner : OwnerId} {s s' : Scheduler κ π} {new : Option TaskId}
    (balanced : s.Balanced) (retired : Retired owner s) (moves : Moves s s' new) :
    Retired owner s' := by
  obtain ⟨absent, passed⟩ := retired
  cases moves with
  | loses gone loses =>
    constructor
    · rw [loses.keys]
      exact absent
    · rw [loses.nextOwner]
      exact passed
  | gains _ gains =>
    constructor
    · rw [gains.keys]
      exact absent
    · rw [gains.nextOwner]
      exact passed
  | registers name registers =>
    subst registers
    constructor
    · intro member
      simp only [books, registerOwner, List.map_append, List.mem_append, List.map_cons, List.map_nil,
        List.mem_singleton] at member
      rcases member with old | new
      · exact absent old
      · -- the new owner gets the next handle, and the retired one was given out before
        rw [new] at passed
        exact Nat.lt_irrefl _ passed
    · exact Nat.lt_succ_of_lt passed
  | releases other releases =>
    subst releases
    obtain ⟨keys, -, nextOwner⟩ := balanced.releaseOwner_frame other
    constructor
    · rw [keys]
      exact fun member => absent (List.mem_of_mem_filter member)
    · rw [nextOwner]
      exact passed

/-! ## The next handle -/

theorem Moves.nextTask {s s' : Scheduler κ π} {new : Option TaskId} (balanced : s.Balanced)
    (moves : Moves s s' new) :
    s.nextTask ≤ s'.nextTask ∧
      ∀ id, new = some id → id.number = s.nextTask ∧ s'.nextTask = s.nextTask + 1 := by
  cases moves with
  | loses gone loses => simp [loses.nextTask]
  | gains owner gains =>
    rw [gains.nextTask]
    refine ⟨Nat.le_succ _, ?_⟩
    rintro _ ⟨⟩
    exact ⟨rfl, rfl⟩
  | registers name registers => simp [registers, registerOwner]
  | releases owner releases =>
    obtain ⟨-, same, -⟩ := balanced.releaseOwner_frame owner
    simp [releases, same]

end Scheduler

namespace Scene

variable {κ π σ ε : Type}

open Scheduler

/-! ## Runs -/

theorem serve_moves (behavior : Behavior κ π σ ε) (scene : Scene κ π σ)
    (balanced : scene.scheduler.Balanced) (request : Request κ π σ) :
    Moves scene.scheduler (scene.serve behavior request).1.scheduler
      (scene.serve behavior request).2.newTask? := by
  cases request with
  | registerOwner name => exact .registers name rfl
  | releaseOwner owner => exact .releases owner rfl
  | add task =>
    rcases add_cases scene.scheduler scene.world.clock task with
      ⟨⟨why, answer⟩, loses⟩ | ⟨answer, gains⟩
    · simp only [serve, answer]
      exact .loses [] loses
    · simp only [serve, answer]
      exact .gains task.owner gains
  | modify task update => exact .loses [] (modify_loses _ _ _)
  | markForRemoval task => exact .loses [] (markForRemoval_loses _ _)
  | remove task =>
    obtain ⟨gone, loses⟩ := balanced.remove_loses task
    exact .loses gone loses
  | tick =>
    obtain ⟨gone, loses⟩ := balanced.walk_loses behavior scene.world.clock 0 scene.world
    exact .loses gone loses
  | turn world => exact .loses [] (Loses.refl _)

theorem balanced_after {behavior : Behavior κ π σ ε} {scene : Scene κ π σ}
    (balanced : scene.scheduler.Balanced) (requests : List (Request κ π σ)) :
    (scene.after behavior requests).scheduler.Balanced := by
  apply after_of_serve (motive := fun scene => scene.scheduler.Balanced) _ balanced
  intro scene request balanced
  exact balanced.moves (serve_moves behavior scene balanced request)

theorem retired_after {behavior : Behavior κ π σ ε} {scene : Scene κ π σ} {owner : OwnerId}
    (balanced : scene.scheduler.Balanced) (retired : Retired owner scene.scheduler)
    (requests : List (Request κ π σ)) :
    Retired owner (scene.after behavior requests).scheduler := by
  suffices both : (scene.after behavior requests).scheduler.Balanced ∧
      Retired owner (scene.after behavior requests).scheduler from both.2
  apply after_of_serve
    (motive := fun scene => scene.scheduler.Balanced ∧ Retired owner scene.scheduler) _
    ⟨balanced, retired⟩
  rintro scene request ⟨balanced, retired⟩
  have moves := serve_moves behavior scene balanced request
  exact ⟨balanced.moves moves, retired.moves balanced moves⟩

/-- Later handles are greater. -/
theorem newTasks_ascending (behavior : Behavior κ π σ ε) {scene : Scene κ π σ}
    (balanced : scene.scheduler.Balanced) (requests : List (Request κ π σ)) :
    let issued := (scene.answers behavior requests).filterMap Answer.newTask?
    (∀ id ∈ issued, scene.scheduler.nextTask ≤ id.number) ∧
      issued.Pairwise (·.number < ·.number) := by
  induction requests generalizing scene with
  | nil => simp [answers]
  | cons request rest ih =>
    have moves := serve_moves behavior scene balanced request
    obtain ⟨grows, issues⟩ := moves.nextTask balanced
    obtain ⟨above, ascending⟩ := ih (balanced.moves moves)
    simp only [answers]
    cases new : (scene.serve behavior request).2.newTask? with
    | none =>
      rw [List.filterMap_cons_none new]
      exact ⟨fun id member => Nat.le_trans grows (above id member), ascending⟩
    | some id =>
      -- the handle is the next one, and all later ones are above it
      obtain ⟨number, next⟩ := issues id new
      rw [List.filterMap_cons_some new]
      constructor
      · intro other member
        rcases List.mem_cons.mp member with rfl | member
        · exact Nat.le_of_eq number.symm
        · exact Nat.le_trans grows (above other member)
      · refine List.pairwise_cons.mpr ⟨?_, ascending⟩
        intro other member
        have := above other member
        omega

/-- In every scheduler that requests can reach, from a new one on and whatever callbacks
    do, handles ascend along the list and are given out once, an owner lists its tasks
    as they stand, and every task's owner is registered.  Releasing an owner therefore
    takes out its tasks and no others, and for good. -/
theorem tasks_and_owners_agree (behavior : Behavior κ π σ ε) (world : World σ)
    (requests : List (Request κ π σ)) :
    let scene := (start world).after behavior requests
    let s := scene.scheduler
    s.tasks.Pairwise (·.id.number < ·.id.number) ∧
      (((start world).answers behavior requests).filterMap Answer.newTask?).Nodup ∧
      (∀ owner, (s.owner? owner).isSome →
        s.ownerTasks owner = (s.tasks.filter (·.owner = some owner)).map (·.id)) ∧
      (∀ task ∈ s.tasks, ∀ owner, task.owner = some owner → (s.owner? owner).isSome) ∧
      ∀ owner, (s.owner? owner).isSome →
        (s.releaseOwner owner).state.tasks = s.tasks.filter (·.owner ≠ some owner) ∧
          (s.releaseOwner owner).answer = s.tasks.countP (·.owner = some owner) ∧
          ∀ later now request, request.owner = some owner →
            ((scene.after behavior (.releaseOwner owner :: later)).scheduler.add now request).answer =
              .error (.notFound (.owner owner.number)) := by
  intro scene s
  have balanced : s.Balanced := balanced_after Balanced.empty requests
  have handles : ∀ owner, handlesOf owner s.roll = (s.tasks.filter (·.owner = some owner)).map (·.id) := by
    intro owner
    simp [handlesOf, roll, List.filter_map, Function.comp_def]
  refine ⟨?_, ?_, ?_, ?_, ?_⟩
  · exact balanced.ascending_tasks
  · have new : (start world : Scene κ π σ).scheduler.Balanced := Balanced.empty
    exact nodup_of_ascending (newTasks_ascending behavior new requests).2
  · intro owner registered
    rw [balanced.ownerTasks registered, handles]
  · intro task member owner owns
    rw [isSome_owner?_iff]
    exact balanced.owned (task.id, task.owner) (List.mem_map_of_mem member) owner owns
  · intro owner registered
    obtain ⟨state, answer⟩ := balanced.releaseOwner registered
    refine ⟨?_, ?_, ?_⟩
    · rw [state]
      exact tasks_without_handlesOf balanced owner
    · rw [answer, handles, List.length_map, List.countP_eq_length_filter]
    · -- the owner is unknown from here on, so whatever comes later, it stays unknown
      intro later now request names
      have released : (scene.serve behavior (.releaseOwner owner)).1.scheduler.Balanced :=
        balanced.releaseOwner_balanced owner
      have retired : Retired owner (scene.after behavior (.releaseOwner owner :: later)).scheduler :=
        retired_after released (balanced.retires registered) later
      exact add_of_unknown retired.unknown now names

/-- An owner with one of two tasks is released, and adds no task afterwards. -/
theorem tasks_and_owners_agree_released :
    let world : World Unit := ⟨Instant.epoch, ()⟩
    let idle : Script.Callback := .ofLines []
    let scene := (start world).after Script.behavior
      [.registerOwner "relay", .add ⟨some ⟨1⟩, "ping", idle, .unit, 500, 0⟩,
        .add ⟨none, "sweep", idle, .unit, 500, 1⟩]
    (scene.scheduler.owner? ⟨1⟩).isSome ∧
      (scene.scheduler.releaseOwner ⟨1⟩).answer = 1 ∧
      (scene.scheduler.releaseOwner ⟨1⟩).state.tasks.map (·.name) = ["sweep"] ∧
      ((scene.after Script.behavior [.releaseOwner ⟨1⟩, .registerOwner "relay"]).scheduler.add Instant.epoch
        ⟨some ⟨1⟩, "ping", idle, .unit, 500, 0⟩).answer = .error (.notFound (.owner 1)) := by
  intro world idle scene
  have registered : (scene.scheduler.owner? ⟨1⟩).isSome := by decide
  obtain ⟨-, -, -, -, released⟩ := tasks_and_owners_agree Script.behavior world
    [.registerOwner "relay", .add ⟨some ⟨1⟩, "ping", idle, .unit, 500, 0⟩,
      .add ⟨none, "sweep", idle, .unit, 500, 1⟩]
  obtain ⟨tasks, count, gone⟩ := released ⟨1⟩ registered
  refine ⟨registered, ?_, ?_, ?_⟩
  · rw [count]
    decide
  · rw [tasks]
    decide
  · exact gone [.registerOwner "relay"] Instant.epoch _ rfl

end Scene

end Backlog
