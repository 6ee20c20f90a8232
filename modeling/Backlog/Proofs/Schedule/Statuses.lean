import Backlog.Proofs.Schedule.Handles
import Backlog.Proofs.Schedule.Requests

/-!
# What owners are told

The status of an owner is the outcome of its last request: of the requests to add tasks in its
name, and of those to change tasks of its own.  `Scene.outcomes` collects them along a run.
-/

namespace Backlog

variable {κ π σ ε : Type}

/-! ## Requests of owners -/

/-- The owner whose request it is: the registered one that a new task names, or the one of the
    task that is to change. -/
def Request.asker? (s : Scheduler κ π) : Request κ π σ → Option OwnerId
  | .add task => task.owner.filter fun o => (s.owner? o).isSome
  | .modify id _ => (s.get? id).bind (·.owner)
  | _ => none

/-- What the asker is told when it gets an answer: of an interval that was raised, or of
    nothing, when the request went through. -/
def Request.outcome : Request κ π σ → Answer ε → Status
  | .add task, .added (.ok _) => Scheduler.statusOf 0 task.intervalMs
  | .modify _ update, .modified (.ok _) =>
    (update.intervalMs.map (Scheduler.statusOf 1)).getD .noError
  | _, _ => .invalidArgument

/-- The handle that the answer gives out, if it is that of a new owner. -/
def Answer.newOwner? : Answer ε → Option OwnerId
  | registered owner => some owner
  | _ => none

namespace Scheduler

/-! ## Records of owners -/

/-- What changes neither the handles of owners nor what they were told. -/
theorem ownerStatus?_of_map {s s' : Scheduler κ π} {f : Owner → Owner}
    (owners : s'.owners = s.owners.map f) (ids : ∀ o, (f o).id = o.id)
    (statuses : ∀ o, (f o).status = o.status) (owner : OwnerId) :
    s'.ownerStatus? owner = s.ownerStatus? owner := by
  simp [ownerStatus?, owner?, owners, List.find?_map, Function.comp_def, ids, statuses]

theorem ownerStatus?_updateOwner (s : Scheduler κ π) (asker : Option OwnerId) {f : Owner → Owner}
    (ids : ∀ o, (f o).id = o.id) {status : Status} (told : ∀ o, (f o).status = status)
    (owner : OwnerId) :
    (s.updateOwner asker f).ownerStatus? owner =
      if asker = some owner then (s.ownerStatus? owner).map fun _ => status
      else s.ownerStatus? owner := by
  have same : ∀ o : Owner, (if asker = some o.id then f o else o).id = o.id := by
    intro o
    split
    · exact ids o
    · rfl
  simp only [ownerStatus?, owner?, updateOwner, List.find?_map, Function.comp_def, same]
  cases found : s.owners.find? (·.id = owner) with
  | none => simp
  | some record =>
    have own : record.id = owner := by simpa using List.find?_some found
    simp only [Option.map_some, own]
    split <;> simp [told]

theorem ownerStatus?_setStatus (s : Scheduler κ π) (asker : Option OwnerId) (status : Status)
    (owner : OwnerId) :
    (s.setStatus asker status).ownerStatus? owner =
      if asker = some owner then (s.ownerStatus? owner).map fun _ => status
      else s.ownerStatus? owner :=
  s.ownerStatus?_updateOwner asker (f := ({ · with status })) (fun _ => rfl) (fun _ => rfl) owner

theorem isSome_ownerStatus? (s : Scheduler κ π) (owner : OwnerId) :
    (s.ownerStatus? owner).isSome = (s.owner? owner).isSome := by
  rw [ownerStatus?, Option.isSome_map]

/-- The outcome of an owner's last request; without one, nothing went wrong. -/
def standing (s : Scheduler κ π) (owner : OwnerId) : Status :=
  (s.ownerStatus? owner).getD .noError

theorem ownerStatus?_eq_standing {s : Scheduler κ π} {owner : OwnerId}
    (known : (s.owner? owner).isSome) : s.ownerStatus? owner = some (s.standing owner) := by
  rw [← isSome_ownerStatus?] at known
  obtain ⟨status, found⟩ := Option.isSome_iff_exists.mp known
  rw [standing, found]
  rfl

theorem map_ownerStatus? {s : Scheduler κ π} {owner : OwnerId} (known : (s.owner? owner).isSome)
    (status : Status) : ((s.ownerStatus? owner).map fun _ => status) = some status := by
  rw [ownerStatus?_eq_standing known]
  rfl

theorem Balanced.known_of_get? {s : Scheduler κ π} (balanced : s.Balanced) {id : TaskId}
    {task : Task κ π} (found : s.get? id = some task) {owner : OwnerId}
    (owned : task.owner = some owner) : (s.owner? owner).isSome := by
  rw [isSome_owner?_iff]
  have member := List.mem_of_find?_eq_some found
  exact balanced.owned (task.id, task.owner) (List.mem_map_of_mem member) owner owned

/-! ## Requests that nobody is told of -/

theorem ownerStatus?_without (s : Scheduler κ π) (gone : List TaskId) (owner : OwnerId) :
    (s.without gone).ownerStatus? owner = s.ownerStatus? owner :=
  ownerStatus?_of_map (f := fun o => { o with tasks := o.tasks.filter (· ∉ gone) }) rfl
    (fun _ => rfl) (fun _ => rfl) owner

theorem ownerStatus?_registerOwner (s : Scheduler κ π) (name : String) (owner : OwnerId) :
    (s.registerOwner name).2.ownerStatus? owner =
      (s.ownerStatus? owner).or
        (if (⟨s.nextOwner⟩ : OwnerId) = owner then some .noError else none) := by
  simp only [ownerStatus?, owner?, registerOwner, List.find?_append, Option.map_or]
  congr 1
  split <;> simp [*]

theorem Balanced.ownerStatus?_releaseOwner {s : Scheduler κ π} (balanced : s.Balanced)
    {released owner : OwnerId} (other : released = owner → s.owner? owner = none) :
    (s.releaseOwner released).state.ownerStatus? owner = s.ownerStatus? owner := by
  cases found : s.owner? released with
  | none => rw [releaseOwner_of_none found]
  | some record =>
    have differs : released ≠ owner := by
      intro same
      rw [same, other same] at found
      cases found
    rw [(balanced.releaseOwner (by simp [found])).1, ← s.ownerStatus?_without _ owner]
    simp only [ownerStatus?, owner?, List.find?_filter]
    congr 2
    funext o
    -- the record that is taken out is not that of the owner
    by_cases own : o.id = owner
    · simp [own, Ne.symm differs]
    · simp [own]

theorem Balanced.ownerStatus?_remove {s : Scheduler κ π} (balanced : s.Balanced) (id : TaskId)
    (owner : OwnerId) : (s.remove id).state.ownerStatus? owner = s.ownerStatus? owner := by
  by_cases present : ∃ task ∈ s.tasks, task.id = id
  · obtain ⟨task, member, rfl⟩ := present
    obtain ⟨place, -, removed⟩ := balanced.remove member
    rw [removed]
    exact s.ownerStatus?_without _ owner
  · rw [remove_absent (by simpa using present)]

theorem ownerStatus?_markForRemoval (s : Scheduler κ π) (id : TaskId) (owner : OwnerId) :
    (s.markForRemoval id).state.ownerStatus? owner = s.ownerStatus? owner := by
  unfold markForRemoval
  split <;> rfl

theorem ownerStatus?_tick (behavior : Behavior κ π σ ε) (s : Scheduler κ π) (world : World σ)
    (owner : OwnerId) :
    (s.tick behavior world).scheduler.ownerStatus? owner = s.ownerStatus? owner := by
  -- what is dropped leaves the lists of owners, and nothing else of their records changes
  rw [tick_eq]
  exact ownerStatus?_of_map (f := Owner.without _) rfl (fun _ => rfl) (fun _ => rfl) owner

/-! ## Requests that owners are told of -/

/-- The asker of a request is told its outcome, and nobody else anything. -/
structure Tells (s : Scheduler κ π) (asker : Option OwnerId) (status : Status)
    (s' : Scheduler κ π) : Prop where
  known : ∀ owner, asker = some owner → (s.owner? owner).isSome
  told : ∀ owner, s'.ownerStatus? owner =
    if asker = some owner then (s.ownerStatus? owner).map fun _ => status else s.ownerStatus? owner

theorem Tells.nobody (s : Scheduler κ π) (status : Status) : Tells s none status s := by
  constructor <;> simp

theorem Tells.ownerStatus? {s s' : Scheduler κ π} {asker : Option OwnerId} {status : Status}
    (tells : Tells s asker status s') (owner : OwnerId) :
    s'.ownerStatus? owner = if asker = some owner then some status else s.ownerStatus? owner := by
  rw [tells.told]
  split
  · rename_i asks
    exact map_ownerStatus? (tells.known owner asks) status
  · rfl

theorem asker?_add (s : Scheduler κ π) (task : NewTask κ π) :
    (Request.add task : Request κ π σ).asker? s =
      if s.isStranger task.owner then none else task.owner := by
  simp only [Request.asker?, isStranger]
  cases task.owner with
  | none => rfl
  | some owner => cases found : s.owner? owner <;> simp [Option.filter, found]

theorem nonneg_of_checkNew {task : NewTask κ π} {remaining : Remaining}
    (checked : checkNew task = .ok remaining) : 0 ≤ task.intervalMs.toInt := by
  unfold checkNew at checked
  split at checked
  · cases checked
  · split at checked
    · cases checked
    · omega

theorem add_tells (s : Scheduler κ π) (now : Instant) (task : NewTask κ π) :
    Tells s ((Request.add task : Request κ π σ).asker? s)
      ((Request.add task : Request κ π σ).outcome (.added (s.add now task).answer : Answer ε))
      (s.add now task).state := by
  rw [asker?_add]
  cases stranger : s.isStranger task.owner with
  | true =>
    -- the owner is not there to be told
    obtain ⟨unknown, -, added⟩ := add_of_stranger now stranger
    rw [added]
    exact Tells.nobody s _
  | false =>
    have known : ∀ owner, task.owner = some owner → (s.owner? owner).isSome := by
      intro owner names
      simpa [isStranger, names, ← Option.not_isSome] using stranger
    cases checked : checkNew task with
    | error why =>
      rw [add_of_refused stranger checked]
      exact ⟨known, s.ownerStatus?_setStatus task.owner _⟩
    | ok remaining =>
      obtain ⟨answer, state⟩ := s.add_of_checked now stranger checked
      rw [answer, state]
      simp only [Request.outcome, ← clampInterval_snd s task.owner (nonneg_of_checkNew checked)]
      exact ⟨known, ownerStatus?_updateOwner _ task.owner
        (f := fun o => { o with
          tasks := o.tasks ++ [⟨s.nextTask⟩]
          status := (s.clampInterval task.owner task.intervalMs).2.1 })
        (fun _ => rfl) (fun _ => rfl)⟩

theorem Balanced.modify_tells {s : Scheduler κ π} (balanced : s.Balanced) (id : TaskId)
    (update : TaskUpdate κ π) :
    Tells s ((Request.modify id update : Request κ π σ).asker? s)
      ((Request.modify id update : Request κ π σ).outcome
        (.modified (s.modify id update).answer : Answer ε))
      (s.modify id update).state := by
  cases found : s.get? id with
  | none =>
    have asker : (Request.modify id update : Request κ π σ).asker? s = none := by
      simp [Request.asker?, found]
    rw [modify_of_absent found, asker]
    exact Tells.nobody s _
  | some task =>
    have asker : (Request.modify id update : Request κ π σ).asker? s = task.owner := by
      simp [Request.asker?, found]
    rw [asker]
    have known : ∀ owner, task.owner = some owner → (s.owner? owner).isSome :=
      fun owner => balanced.known_of_get? found
    -- a rejection also overwrites what would be said of the interval
    cases granted : update.granted with
    | error why =>
      obtain ⟨answer, state⟩ := modify_refused found granted
      rw [state, answer]
      exact ⟨known, s.ownerStatus?_setStatus task.owner _⟩
    | ok set =>
      obtain ⟨answer, state⟩ := balanced.modify_granted found granted
      rw [state, answer]
      exact ⟨known, ownerStatus?_setStatus _ task.owner _⟩

end Scheduler

/-- Not found is no outcome of a request of an owner. -/
theorem Request.outcome_ne_notFound (request : Request κ π σ) (answer : Answer ε) :
    request.outcome answer ≠ .notFound := by
  have raised : ∀ least ms, Scheduler.statusOf least ms ≠ .notFound := by
    intro least ms
    unfold Scheduler.statusOf
    split <;> simp
  unfold Request.outcome
  split
  · exact raised _ _
  · rename_i update _
    cases update.intervalMs with
    | none => simp
    | some ms => exact raised 1 ms
  · simp

namespace Scene

open Scheduler

/-! ## One request -/

/-- The asker of a request is told its outcome, and a new owner starts without an error.  To
    everyone else, nothing is said. -/
theorem ownerStatus?_serve (behavior : Behavior κ π σ ε) {scene : Scene κ π σ}
    (balanced : scene.scheduler.Balanced) {request : Request κ π σ} {owner : OwnerId}
    (kept : request = .releaseOwner owner → scene.scheduler.owner? owner = none) :
    (scene.serve behavior request).1.scheduler.ownerStatus? owner =
      (if request.asker? scene.scheduler = some owner then
          some (request.outcome (scene.serve behavior request).2)
        else scene.scheduler.ownerStatus? owner).or
      (if (scene.serve behavior request).2.newOwner? = some owner then some .noError else none) := by
  -- only adding and changing have an asker, and only registering makes an owner
  cases request with
  | registerOwner name =>
    simp only [serve, Request.asker?, Answer.newOwner?, reduceCtorEq, if_false, Option.some.injEq]
    exact ownerStatus?_registerOwner scene.scheduler name owner
  | releaseOwner released =>
    simp only [serve, Request.asker?, Answer.newOwner?, reduceCtorEq, if_false, Option.or_none]
    exact balanced.ownerStatus?_releaseOwner fun same => kept (congrArg _ same)
  | add task =>
    simp only [serve, Answer.newOwner?, reduceCtorEq, if_false, Option.or_none]
    exact (add_tells scene.scheduler scene.world.clock task).ownerStatus? owner
  | modify task update =>
    simp only [serve, Answer.newOwner?, reduceCtorEq, if_false, Option.or_none]
    exact (balanced.modify_tells task update).ownerStatus? owner
  | markForRemoval task =>
    simp only [serve, Request.asker?, Answer.newOwner?, reduceCtorEq, if_false, Option.or_none]
    exact ownerStatus?_markForRemoval scene.scheduler task owner
  | remove task =>
    simp only [serve, Request.asker?, Answer.newOwner?, reduceCtorEq, if_false, Option.or_none]
    exact balanced.ownerStatus?_remove task owner
  | tick =>
    simp only [serve, Request.asker?, Answer.newOwner?, reduceCtorEq, if_false, Option.or_none]
    exact ownerStatus?_tick behavior scene.scheduler scene.world owner
  | turn world =>
    simp only [serve, Request.asker?, Answer.newOwner?, reduceCtorEq, if_false, Option.or_none]

theorem standing_serve (behavior : Behavior κ π σ ε) {scene : Scene κ π σ}
    (balanced : scene.scheduler.Balanced) {request : Request κ π σ} {owner : OwnerId}
    (kept : request = .releaseOwner owner → scene.scheduler.owner? owner = none) :
    (scene.serve behavior request).1.scheduler.standing owner =
      if request.asker? scene.scheduler = some owner then
        request.outcome (scene.serve behavior request).2
      else scene.scheduler.standing owner := by
  rw [standing, ownerStatus?_serve behavior balanced kept]
  split
  · rfl
  · -- an owner that is new stands as one that made no request
    rw [standing]
    cases scene.scheduler.ownerStatus? owner <;> split <;> rfl

/-! ## Runs -/

/-- The outcomes of the requests of an owner, in order. -/
def outcomes (behavior : Behavior κ π σ ε) (owner : OwnerId) :
    Scene κ π σ → List (Request κ π σ) → List Status
  | _, [] => []
  | scene, request :: rest =>
    let (next, answer) := scene.serve behavior request
    (if request.asker? scene.scheduler = some owner then [request.outcome answer] else []) ++
      next.outcomes behavior owner rest

theorem outcomes_ne_notFound (behavior : Behavior κ π σ ε) (owner : OwnerId)
    (scene : Scene κ π σ) (requests : List (Request κ π σ)) :
    ∀ status ∈ scene.outcomes behavior owner requests, status ≠ .notFound := by
  induction requests generalizing scene with
  | nil => simp [outcomes]
  | cons request rest ih =>
    intro status member
    rcases List.mem_append.mp member with first | later
    · split at first
      · rw [List.mem_singleton.mp first]
        exact request.outcome_ne_notFound _
      · cases first
    · exact ih _ status later

/-- An owner that is known after requests knows the outcome of its last one, and where it made
    none, what it knew before. -/
theorem standing_after (behavior : Behavior κ π σ ε) {scene : Scene κ π σ}
    (balanced : scene.scheduler.Balanced) {owner : OwnerId} (requests : List (Request κ π σ))
    (registered : ((scene.after behavior requests).scheduler.owner? owner).isSome) :
    (scene.after behavior requests).scheduler.standing owner =
      (scene.outcomes behavior owner requests).getLast?.getD (scene.scheduler.standing owner) := by
  induction requests generalizing scene with
  | nil => rfl
  | cons request rest ih =>
    have next := balanced.moves (serve_moves behavior scene balanced request)
    -- an owner that is released is unknown from then on, also at the end
    have kept : request = .releaseOwner owner → scene.scheduler.owner? owner = none := by
      rintro rfl
      by_contra known
      have retired := balanced.retires (Option.isSome_iff_ne_none.mpr known)
      have gone : (scene.after behavior (.releaseOwner owner :: rest)).scheduler.owner? owner = none :=
        (retired_after next retired rest).unknown
      rw [gone] at registered
      cases registered
    refine (ih next registered).trans ?_
    rw [standing_serve behavior balanced kept, outcomes, List.getLast?_append]
    split <;> cases (outcomes behavior owner (scene.serve behavior request).1 rest).getLast? <;> rfl

/-- What an owner is told is the outcome of its last request: of the requests to add a task in
    its name, and of those to change a task of its own.  It is never that something was not
    found, and no request of others and no tick changes it.  Only where the handle was not given
    out yet, a request that names it is not one of the owner. -/
theorem status_is_last_outcome (behavior : Behavior κ π σ ε) (world : World σ)
    (requests : List (Request κ π σ)) (owner : OwnerId) :
    let scene := (start world).after behavior requests
    (scene.scheduler.owner? owner).isSome →
      scene.scheduler.ownerStatus? owner =
          some (((start world).outcomes behavior owner requests).getLast?.getD .noError) ∧
        scene.scheduler.ownerStatus? owner ≠ some .notFound ∧
        (∀ request, request.asker? scene.scheduler ≠ some owner → request ≠ .releaseOwner owner →
          (scene.serve behavior request).1.scheduler.ownerStatus? owner =
            scene.scheduler.ownerStatus? owner) ∧
        ∀ before task later, requests = before ++ .add task :: later → task.owner = some owner →
          let early := (start world).after behavior before
          early.scheduler.owner? owner = none →
            early.scheduler.nextOwner ≤ owner.number ∧
              (early.serve behavior (.add task)).2 =
                .added (.error (.notFound (.owner owner.number))) := by
  intro scene registered
  have new : (start world : Scene κ π σ).scheduler.Balanced := Balanced.empty
  have balanced : scene.scheduler.Balanced := balanced_after new requests
  have last : scene.scheduler.ownerStatus? owner =
      some (((start world).outcomes behavior owner requests).getLast?.getD .noError) := by
    rw [ownerStatus?_eq_standing registered]
    exact congrArg some (standing_after behavior new requests registered)
  refine ⟨last, ?_, ?_, ?_⟩
  · rw [last]
    cases outcome : ((start world).outcomes behavior owner requests).getLast? with
    | none => simp
    | some status =>
      have made := outcomes_ne_notFound behavior owner _ requests status
        (List.mem_of_getLast? outcome)
      simpa using made
  · intro request stranger kept
    rw [ownerStatus?_serve behavior balanced fun same => absurd same kept, if_neg stranger,
      ownerStatus?_eq_standing registered]
    rfl
  · rintro before task later rfl names early unknown
    constructor
    · by_contra passed
      -- a handle that was given out and is unknown is so for good
      have retired : Retired owner early.scheduler := by
        refine ⟨?_, Nat.lt_of_not_le passed⟩
        rw [← isSome_owner?_iff, unknown]
        simp
      have gone : Retired owner (early.after behavior (.add task :: later)).scheduler :=
        retired_after (balanced_after new before) retired _
      have after : scene = early.after behavior (.add task :: later) := List.foldl_append
      rw [after, gone.unknown] at registered
      cases registered
    · simp only [serve, add_of_unknown unknown early.world.clock names]

/-- An owner whose request was rejected, after one whose interval was raised and before a tick
    and the request of another owner.  Its handle was named once before it was given out. -/
theorem status_is_last_outcome_rejected :
    let world : World Unit := ⟨Instant.epoch, ()⟩
    let idle : Script.Callback := .ofLines []
    let ping : Request Script.Callback Script.Payload Unit :=
      .add ⟨some ⟨1⟩, "ping", idle, .unit, 50, 0⟩
    let requests := [ping, .registerOwner "relay", .registerOwner "bridge", ping,
      .modify ⟨1⟩ ⟨some 50, some (-2), none, none, none⟩, .tick,
      .add ⟨some ⟨2⟩, "sweep", idle, .unit, 500, 1⟩]
    let scene := (start world).after Script.behavior requests
    (scene.scheduler.owner? ⟨1⟩).isSome ∧
      (start world).outcomes Script.behavior ⟨1⟩ requests =
        [.clampedInput 50 100, .invalidArgument] ∧
      scene.scheduler.ownerStatus? ⟨1⟩ = some .invalidArgument ∧
      (scene.serve Script.behavior (.remove ⟨1⟩)).1.scheduler.ownerStatus? ⟨1⟩ =
        some .invalidArgument ∧
      (((start world).serve Script.behavior ping).2 =
        .added (.error (.notFound (.owner 1)))) := by
  intro world idle ping requests scene
  have registered : (scene.scheduler.owner? ⟨1⟩).isSome := by decide +kernel
  have told : (start world).outcomes Script.behavior ⟨1⟩ requests =
      [.clampedInput 50 100, .invalidArgument] := by decide +kernel
  obtain ⟨last, -, others, early⟩ :=
    status_is_last_outcome Script.behavior world requests ⟨1⟩ registered
  rw [told] at last
  refine ⟨registered, told, last, ?_, ?_⟩
  · exact (others (.remove ⟨1⟩) (by simp [Request.asker?]) (by simp)).trans last
  · exact (early [] _ _ rfl rfl rfl).2

end Scene

end Backlog
