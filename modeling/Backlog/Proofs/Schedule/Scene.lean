import Backlog.Schedule.Tick

/-!
# Schedulers at work

A `Scene` is a scheduler with the world that its callbacks act on.  It serves
requests one after the other; between them the world may turn by itself.  What
holds of every scheduler that there can be is a statement about `Scene.after`, from
`Scene.start` on, and what requests were answered is `Scene.answers`.
-/

namespace Backlog

/-- What can be asked of a scheduler. -/
inductive Request (κ π σ : Type) where
  | registerOwner (name : String)
  | releaseOwner (owner : OwnerId)
  | add (task : NewTask κ π)
  | modify (task : TaskId) (update : TaskUpdate κ π)
  | markForRemoval (task : TaskId)
  | remove (task : TaskId)
  | tick
  /-- Nothing is asked: the clock moves, or whatever else callbacks act on. -/
  | turn (world : World σ)

/-- What the scheduler says to it. -/
inductive Answer (ε : Type) where
  | registered (owner : OwnerId)
  | released (tasks : Nat)
  | added (answer : Except Error TaskId)
  | modified (answer : Except Error Unit)
  | marked (answer : Except Error Unit)
  | removed (answer : Except Error (Option TaskId))
  | ticked (visits : List (Visit ε))
  | turned

/-- The handle that the answer gives out, if it is that of a new task. -/
def Answer.newTask? {ε : Type} : Answer ε → Option TaskId
  | added (.ok id) => some id
  | _ => none

/-- The visits that the answer tells of. -/
def Answer.visits {ε : Type} : Answer ε → List (Visit ε)
  | ticked visits => visits
  | _ => []

/-- A scheduler with its world. -/
structure Scene (κ π σ : Type) where
  scheduler : Scheduler κ π
  world : World σ

namespace Scene

variable {κ π σ ε : Type}

/-- A new scheduler. -/
def start (world : World σ) : Scene κ π σ :=
  ⟨.empty, world⟩

/-- Serves a request. -/
def serve (behavior : Behavior κ π σ ε) (scene : Scene κ π σ) :
    Request κ π σ → Scene κ π σ × Answer ε
  | .registerOwner name =>
    let (id, scheduler) := scene.scheduler.registerOwner name
    ({ scene with scheduler }, .registered id)
  | .releaseOwner owner =>
    let done := scene.scheduler.releaseOwner owner
    ({ scene with scheduler := done.state }, .released done.answer)
  | .add task =>
    let done := scene.scheduler.add scene.world.clock task
    ({ scene with scheduler := done.state }, .added done.answer)
  | .modify task update =>
    let done := scene.scheduler.modify task update
    ({ scene with scheduler := done.state }, .modified done.answer)
  | .markForRemoval task =>
    let done := scene.scheduler.markForRemoval task
    ({ scene with scheduler := done.state }, .marked done.answer)
  | .remove task =>
    let done := scene.scheduler.remove task
    ({ scene with scheduler := done.state }, .removed done.answer)
  | .tick =>
    let done := scene.scheduler.tick behavior scene.world
    (⟨done.scheduler, done.world⟩, .ticked done.visits)
  | .turn world => ({ scene with world }, .turned)

/-- The scene after requests were served in order. -/
def after (behavior : Behavior κ π σ ε) (scene : Scene κ π σ) (requests : List (Request κ π σ)) :
    Scene κ π σ :=
  requests.foldl (fun scene request => (scene.serve behavior request).1) scene

/-- The answers to requests that are served in order. -/
def answers (behavior : Behavior κ π σ ε) (scene : Scene κ π σ) :
    List (Request κ π σ) → List (Answer ε)
  | [] => []
  | request :: rest =>
    let (next, answer) := scene.serve behavior request
    answer :: next.answers behavior rest

/-- Whether none of the requests is such as `P` says of it when it is served. -/
def Avoids (behavior : Behavior κ π σ ε) (P : Scene κ π σ → Request κ π σ → Prop) :
    Scene κ π σ → List (Request κ π σ) → Prop
  | _, [] => True
  | scene, request :: rest =>
    ¬ P scene request ∧ (scene.serve behavior request).1.Avoids behavior P rest

instance (behavior : Behavior κ π σ ε) (P : Scene κ π σ → Request κ π σ → Prop)
    [∀ scene, DecidablePred (P scene)] (scene : Scene κ π σ) :
    DecidablePred (scene.Avoids behavior P) :=
  go scene
where
  go : (scene : Scene κ π σ) → DecidablePred (scene.Avoids behavior P)
    | _, [] => inferInstanceAs (Decidable True)
    | scene, request :: rest =>
      have := go (scene.serve behavior request).1 rest
      inferInstanceAs (Decidable (¬ P scene request ∧ _))

/-! ## Runs -/

/-- What one request preserves, all requests preserve. -/
theorem after_of_serve {behavior : Behavior κ π σ ε} {motive : Scene κ π σ → Prop}
    (step : ∀ scene request, motive scene → motive (scene.serve behavior request).1)
    {scene : Scene κ π σ} (first : motive scene) (requests : List (Request κ π σ)) :
    motive (scene.after behavior requests) := by
  induction requests generalizing scene with
  | nil => exact first
  | cons request rest ih => exact ih (step scene request first)

end Scene

end Backlog
