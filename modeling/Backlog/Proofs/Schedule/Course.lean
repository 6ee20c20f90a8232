import Backlog.Proofs.Schedule.Fate

/-!
# What one request does to what remains of a task

`Remaining.Course` are the ways in which a request can change what remains of a task, each
with the number of runs meanwhile.  `Scene.serve_course` says that there are no others,
and which requests may mark the task, change its count or take it out of the list.
-/

namespace Backlog

variable {κ π σ ε : Type}

/-! ## What remains -/

namespace Remaining

/-- Whether a count can stand for what remains. -/
def IsCount : Remaining → Prop
  | pendingRemoval | forever => True
  | times n => 0 < n ∧ n ≤ mostTimes

/-- What remains after one run more, or nothing if that was the last one. -/
def spent : Remaining → Option Remaining
  | times n => if n ≤ 1 then none else some (times (n - 1))
  | pendingRemoval => some pendingRemoval
  | forever => some forever

theorem isCount_and_toCount_of_ofCount {count : Int} {r : Remaining} (read : ofCount count = .ok r) :
    r.IsCount ∧ r.toCount = count := by
  unfold ofCount at read
  split at read
  · rename_i pending
    cases read
    exact ⟨trivial, pending.symm⟩
  · split at read
    · rename_i forever
      cases read
      exact ⟨trivial, forever.symm⟩
    · split at read
      · cases read
      · split at read
        · cases read
        · cases read
          simp only [IsCount, toCount]
          omega

theorem isCount_of_ofCount {count : Int} {r : Remaining} (read : ofCount count = .ok r) :
    r.IsCount :=
  (isCount_and_toCount_of_ofCount read).1

theorem ofCount_toCount {r : Remaining} (counted : r.IsCount) : ofCount r.toCount = .ok r := by
  cases r with
  | pendingRemoval | forever => rfl
  | times n =>
    obtain ⟨positive, most⟩ := counted
    rw [toCount, ofCount, if_neg (by omega), if_neg (by omega), if_neg (by omega), if_neg (by omega)]
    rfl

/-- What a request can do to what remains of a task, if it is in the list, and how often
    the task runs meanwhile.  The request may mark the task, give it a count, or take it
    out of the list. -/
inductive Course (marks counts removes : Prop) :
    Option Remaining → Option Remaining → Nat → Prop where
  | rests (r : Option Remaining) : Course marks counts removes r r 0
  | runs (r : Remaining) (armed : r ≠ .pendingRemoval) :
    Course marks counts removes (some r) r.spent 1
  | leaves (r : Remaining) (ends : r = .pendingRemoval ∨ marks ∨ removes) :
    Course marks counts removes (some r) none 0
  | marked (why : marks) (r : Remaining) :
    Course marks counts removes (some r) (some .pendingRemoval) 0
  | runsMarked (why : marks) (r : Remaining) (armed : r ≠ .pendingRemoval) :
    Course marks counts removes (some r) (some .pendingRemoval) 1
  | counted (why : counts) (r : Option Remaining) (r' : Remaining) (count : r'.IsCount) :
    Course marks counts removes r (some r') 0

variable {marks counts removes : Prop} {r r' : Option Remaining} {n f k : Nat}

theorem isCount_of_spent {before after : Remaining} (counted : before.IsCount)
    (runs : before.spent = some after) : after.IsCount := by
  cases before with
  | pendingRemoval | forever =>
    cases runs
    trivial
  | times n =>
    simp only [spent] at runs
    split at runs
    · cases runs
    · cases runs
      simp only [IsCount] at counted ⊢
      omega

theorem Course.isCount (course : Course marks counts removes r r' k)
    (before : ∀ x, r = some x → x.IsCount) : ∀ x, r' = some x → x.IsCount := by
  cases course with
  | rests => exact before
  | runs r armed => exact fun x left => isCount_of_spent (before r rfl) left
  | leaves => simp
  | marked | runsMarked =>
    rintro _ ⟨⟩
    trivial
  | counted why r r' count =>
    rintro _ ⟨⟩
    exact count

theorem Course.thenMarked (course : Course marks counts removes r r' k)
    (why : ∀ x, r' = some x → marks) :
    Course marks counts removes r (r'.map fun _ => pendingRemoval) k := by
  cases course with
  | rests =>
    cases r with
    | none => exact .rests none
    | some r => exact .marked (why r rfl) r
  | runs r armed =>
    -- after its last run the task is out of the list, and cannot be marked
    cases left : r.spent with
    | none =>
      rw [Option.map_none, ← left]
      exact .runs r armed
    | some x => exact .runsMarked (why x left) r armed
  | leaves r ends => exact .leaves r ends
  | marked _ r => exact .marked (why _ rfl) r
  | runsMarked _ r armed => exact .runsMarked (why _ rfl) r armed
  | counted given r r' => exact .counted given r .pendingRemoval trivial

end Remaining

open Remaining (Course)

theorem Task.map_remaining_spent (t : Task κ π) : t.spent.map (·.remaining) = t.remaining.spent := by
  obtain ⟨id, name, intervalMs, remaining, lastFiredAt, callback, payload, owner, fireCount⟩ := t
  cases remaining with
  | pendingRemoval | forever => rfl
  | times n =>
    by_cases last : n ≤ 1
    · simp [Task.spent, Remaining.spent, last]
    · simp [Task.spent, Remaining.spent, last]

theorem Stop.Goes.course {behavior : Behavior κ π σ ε} {now : Instant} {asked : List TaskId}
    {world : World σ} {task : Task κ π} {stop : Stop κ π σ ε} {marks counts removes : Prop}
    (goes : Stop.Goes behavior now asked world task stop) (asks : task.id ∈ stop.asked → marks) :
    Course marks counts removes (some task.remaining) (stop.stays.map (·.remaining))
      (if stop.ran then 1 else 0) := by
  cases goes with
  | leaves ends =>
    refine .leaves task.remaining ?_
    rcases ends with pending | asked
    · exact .inl (of_decide_eq_true pending)
    · exact .inr (.inl (asks asked))
  | waits armed early => exact .rests (some task.remaining)
  | runs armed due reaction reacts stays settles =>
    have armed : task.remaining ≠ .pendingRemoval :=
      fun pending => armed (.inl (decide_eq_true pending))
    by_cases own : task.id ∈ reaction.removals
    · rw [if_pos own] at settles
      subst settles
      exact .runsMarked (asks (List.mem_append_right _ own)) task.remaining armed
    · rw [if_neg own] at settles
      have spent : stays.map (·.remaining) = task.remaining.spent := by
        rw [settles, Task.map_remaining_spent]
        rfl
      rw [spent]
      exact .runs task.remaining armed

namespace Scheduler

variable {s : Scheduler κ π}

def remaining? (s : Scheduler κ π) (id : TaskId) : Option Remaining :=
  (s.get? id).map (·.remaining)

/-- Whether a callback asks for the removal of a task in a tick while the task is in the
    list: before its stop, at it, or later if it stays. -/
def Asks (behavior : Behavior κ π σ ε) (world : World σ) (id : TaskId) (s : Scheduler κ π) : Prop :=
  let p := pass behavior world.clock [] world s.tasks
  ∃ stop ∈ p.stops, stop.task.id = id ∧ (id ∈ stop.asked ∨ stop.stays.isSome ∧ id ∈ p.asked)

instance (behavior : Behavior κ π σ ε) (world : World σ) (id : TaskId) (s : Scheduler κ π) :
    Decidable (s.Asks behavior world id) :=
  inferInstanceAs (Decidable (∃ stop ∈ (pass behavior world.clock [] world s.tasks).stops,
    stop.task.id = id ∧ (_ ∨ _)))

theorem Balanced.course_tick (balanced : s.Balanced) (behavior : Behavior κ π σ ε) (world : World σ)
    (id : TaskId) (counts removes : Prop) :
    let done := s.tick behavior world
    Course (s.Asks behavior world id) counts removes (s.remaining? id) (done.scheduler.remaining? id)
      (done.visits.countP (·.isRunOf id)) := by
  simp only [remaining?, balanced.get?_tick, balanced.runs_tick,
    s.get?_eq_task_stop? behavior world.clock [] world]
  generalize passed : pass behavior world.clock [] world s.tasks = p
  cases found : p.stop? id with
  | none => exact .rests none
  | some stop =>
    have member : stop ∈ p.stops := List.mem_of_find?_eq_some found
    have same : stop.task.id = id := by simpa using List.find?_some found
    have asks : id ∈ stop.asked ∨ stop.stays.isSome ∧ id ∈ p.asked → s.Asks behavior world id := by
      intro asked
      subst passed
      exact ⟨stop, member, same, asked⟩
    obtain ⟨earlier, before, task, goes⟩ := goes_of_mem_pass (passed ▸ member)
    have named : ∀ t, stop.stays = some t → t.id = id :=
      fun t stays => (goes.id_of_stays stays).trans same
    have here : Course (s.Asks behavior world id) counts removes (some stop.task.remaining)
        (stop.stays.map (·.remaining)) (if stop.ran then 1 else 0) := by
      have own : task.id = id := goes.task_eq ▸ same
      rw [goes.task_eq]
      exact goes.course fun asked => asks (.inl (own ▸ asked))
    simp only [Option.bind_some, Option.map_some, Option.any_some]
    -- a removal that was asked for after the stop marks the task too, if it stays
    cases stays : stop.stays with
    | none =>
      rw [stays] at here
      exact here
    | some t =>
      rw [stays] at here
      by_cases asked : id ∈ p.asked
      · have marked : t.markedIn p.asked = t.marked :=
          Task.markedIn_of_mem ((named t stays).symm ▸ asked)
        rw [Option.map_some, marked]
        exact here.thenMarked fun _ _ => asks (.inr ⟨by simp [stays], asked⟩)
      · have unmarked : t.markedIn p.asked = t :=
          Task.markedIn_of_not_mem ((named t stays).symm ▸ asked)
        rw [Option.map_some, unmarked]
        exact here

/-! ### Requests, one by one -/

section Courses

variable {marks counts removes : Prop}

theorem Balanced.course_releaseOwner (balanced : s.Balanced) (owner : OwnerId) (id : TaskId)
    (gone : (s.get? id).any (·.owner = some owner) → removes) :
    Course marks counts removes (s.remaining? id) ((s.releaseOwner owner).state.remaining? id) 0 := by
  simp only [remaining?, balanced.get?_releaseOwner]
  cases found : s.get? id with
  | none => exact .rests none
  | some task =>
    by_cases owned : task.owner = some owner
    · rw [Option.filter_some, if_neg (by simpa using owned)]
      exact .leaves task.remaining (.inr (.inr (gone (by simpa [found] using owned))))
    · rw [Option.filter_some, if_pos (by simpa using owned)]
      exact .rests (some task.remaining)

theorem Balanced.course_add (balanced : s.Balanced) (now : Instant) (request : NewTask κ π)
    (id : TaskId) (makes : (s.add now request).answer = .ok id → counts) :
    Course marks counts removes (s.remaining? id) ((s.add now request).state.remaining? id) 0 := by
  rcases add_tasks s now request with ⟨-, same⟩ | ⟨new, next, answer, read, added⟩
  · simp only [remaining?, get?_congr same]
    exact .rests _
  · simp only [remaining?, get?_append added]
    by_cases own : new.id = id
    · -- the handle is new, so no task of the list had it
      rw [if_pos own, ← own, next, balanced.get?_next]
      exact .counted (makes (own ▸ answer)) none new.remaining (Remaining.isCount_of_ofCount read)
    · rw [if_neg own, Option.or_none]
      exact .rests _

theorem Balanced.course_modify (balanced : s.Balanced) (task : TaskId) (update : TaskUpdate κ π) (id : TaskId)
    (gives : task = id → update.count.isSome → (s.modify task update).answer = .ok () → counts) :
    Course marks counts removes (s.remaining? id) ((s.modify task update).state.remaining? id) 0 := by
  rcases balanced.modify_tasks task update with
    ⟨-, same⟩ | ⟨answer, present, change, remaining, counted, changes, changed⟩
  · simp only [remaining?, get?_congr same]
    exact .rests _
  · simp only [remaining?, get?_changed (fun t => (changes t).1) changed]
    by_cases own : id = task
    · subst own
      obtain ⟨t, found⟩ := Option.isSome_iff_exists.mp present
      simp only [if_true, found, Option.map_some, (changes t).2]
      cases given : update.count with
      | none =>
        rw [given] at counted
        cases counted
        exact .rests (some t.remaining)
      | some n =>
        rw [given] at counted
        obtain ⟨r, read, rfl⟩ := updatedRemaining_some counted
        exact .counted (gives rfl (by simp [given]) answer) (some t.remaining) r
          (Remaining.isCount_of_ofCount read)
    · rw [if_neg own]
      exact .rests _

theorem course_markForRemoval (s : Scheduler κ π) (task id : TaskId)
    (granted : task = id → (s.markForRemoval task).answer = .ok () → marks) :
    Course marks counts removes (s.remaining? id) ((s.markForRemoval task).state.remaining? id) 0 := by
  simp only [remaining?, get?_markForRemoval]
  by_cases own : id = task
  · subst own
    rw [if_pos rfl]
    cases found : s.get? id with
    | none => exact .rests none
    | some t =>
      have answer : (s.markForRemoval id).answer = .ok () := by simp only [markForRemoval, found]
      exact .marked (granted rfl answer) t.remaining
  · rw [if_neg own]
    exact .rests _

theorem Balanced.course_remove (balanced : s.Balanced) (task id : TaskId)
    (gone : task = id → removes) :
    Course marks counts removes (s.remaining? id) ((s.remove task).state.remaining? id) 0 := by
  simp only [remaining?, balanced.get?_remove]
  cases found : s.get? id with
  | none => exact .rests none
  | some t =>
    by_cases own : t.id = task
    · rw [Option.filter_some, if_neg (by simpa using own)]
      exact .leaves t.remaining (.inr (.inr (gone (own.symm.trans (id_of_get? found)))))
    · rw [Option.filter_some, if_pos (by simpa using own)]
      exact .rests (some t.remaining)

end Courses

end Scheduler

/-! ## Requests -/

namespace Scene

/-- Whether a request marks a task for removal, by itself or by a callback that it runs. -/
def Marks (behavior : Behavior κ π σ ε) (id : TaskId) (scene : Scene κ π σ) :
    Request κ π σ → Prop
  | .markForRemoval task => task = id ∧ (scene.scheduler.markForRemoval task).answer = .ok ()
  | .tick => scene.scheduler.Asks behavior scene.world id
  | _ => False

/-- Whether a request changes the count of a task. -/
def Recounts (id : TaskId) (scene : Scene κ π σ) : Request κ π σ → Prop
  | .modify task update =>
    task = id ∧ update.count.isSome ∧ (scene.scheduler.modify task update).answer = .ok ()
  | _ => False

/-- Whether a request takes a task out of the list, by itself or with its owner. -/
def Removes (id : TaskId) (scene : Scene κ π σ) : Request κ π σ → Prop
  | .remove task => task = id
  | .releaseOwner owner => (scene.scheduler.get? id).any (·.owner = some owner)
  | _ => False

instance (behavior : Behavior κ π σ ε) (id : TaskId) (scene : Scene κ π σ) :
    DecidablePred (scene.Marks behavior id)
  | .markForRemoval _ => inferInstanceAs (Decidable (_ ∧ _))
  | .tick => inferInstanceAs (Decidable (scene.scheduler.Asks behavior scene.world id))
  | .registerOwner _ | .releaseOwner _ | .add _ | .modify _ _ | .remove _ | .turn _ =>
    inferInstanceAs (Decidable False)

instance (id : TaskId) (scene : Scene κ π σ) : DecidablePred (scene.Recounts id)
  | .modify _ _ => inferInstanceAs (Decidable (_ ∧ _ ∧ _))
  | .registerOwner _ | .releaseOwner _ | .add _ | .markForRemoval _ | .remove _ | .tick | .turn _ =>
    inferInstanceAs (Decidable False)

open Scheduler

theorem serve_course (behavior : Behavior κ π σ ε) (scene : Scene κ π σ)
    (balanced : scene.scheduler.Balanced) (request : Request κ π σ) (id : TaskId) :
    let served := scene.serve behavior request
    Course (scene.Marks behavior id request) (scene.Recounts id request ∨ scene.Makes id request)
      (scene.Removes id request) (scene.scheduler.remaining? id) (served.1.scheduler.remaining? id)
      (served.2.visits.countP (·.isRunOf id)) := by
  cases request with
  | registerOwner name => exact .rests _
  | releaseOwner owner => exact balanced.course_releaseOwner owner id fun removes => removes
  | add task => exact balanced.course_add scene.world.clock task id .inr
  | modify task update =>
    exact balanced.course_modify task update id fun own given granted =>
      .inl ⟨own, given, granted⟩
  | markForRemoval task =>
    exact course_markForRemoval scene.scheduler task id fun own granted => ⟨own, granted⟩
  | remove task => exact balanced.course_remove task id fun own => own
  | tick => exact balanced.course_tick behavior scene.world id _ _
  | turn world => exact .rests _

end Scene

end Backlog
