import Backlog.Proofs.Schedule.Course

/-!
# Counts run out

A task with a count runs that many times.  As long as no new count is given, what a task
may still run goes down with each run, `Remaining.Spare`; and if it is not marked either,
its runs and what remains of it add up to its count, `Remaining.Tally`.  What one request
keeps of these, all requests keep.
-/

namespace Backlog

variable {κ π σ ε : Type}

namespace Remaining

variable {marks counts removes : Prop} {r r' : Option Remaining} {n f k : Nat}

theorem eq_times_of_ofCount {n : Nat} {r : Remaining} (positive : 0 < n)
    (read : ofCount n = .ok r) : r = .times n := by
  have same := (isCount_and_toCount_of_ofCount read).2
  cases r with
  | pendingRemoval | forever =>
    simp only [toCount] at same
    omega
  | times m =>
    simp only [toCount] at same
    rw [Int.ofNat_inj.mp same]

/-- At most `n` runs remain. -/
def Spare (n : Nat) : Option Remaining → Prop
  | some (times m) => 0 < m ∧ m ≤ n
  | some forever => False
  | some pendingRemoval | none => True

theorem Course.spare (course : Course marks counts removes r r' k) (uncounted : ¬ counts)
    (spare : Spare n r) : k ≤ n ∧ Spare (n - k) r' := by
  cases course with
  | rests => exact ⟨Nat.zero_le _, spare⟩
  | runs r armed =>
    cases r with
    | pendingRemoval => exact absurd rfl armed
    | forever => cases spare
    | times m =>
      simp only [Spare] at spare
      by_cases last : m ≤ 1
      · simp only [spent, if_pos last]
        exact ⟨by omega, trivial⟩
      · simp only [spent, if_neg last, Spare]
        omega
  | leaves | marked => exact ⟨Nat.zero_le _, trivial⟩
  | runsMarked why r armed =>
    cases r with
    | pendingRemoval => exact absurd rfl armed
    | forever => cases spare
    | times m =>
      simp only [Spare] at spare
      exact ⟨by omega, trivial⟩
  | counted why => exact absurd why uncounted

/-- Of `n` runs, `f` were made and the others remain.  A task that is not in the list has
    made them all, unless it may have been lost before. -/
def Tally (lost : Prop) (n f : Nat) : Option Remaining → Prop
  | some r => r = .times (n - f) ∧ f < n
  | none => f = n ∨ lost ∧ f ≤ n

theorem Course.tally {lost : Prop} (course : Course marks counts removes r r' k)
    (unmarked : ¬ marks) (uncounted : ¬ counts) (kept : removes → lost) (tally : Tally lost n f r) :
    Tally lost n (f + k) r' := by
  cases course with
  | rests => exact tally
  | runs r armed =>
    obtain ⟨rfl, fewer⟩ := tally
    by_cases last : n - f ≤ 1
    · simp only [spent, if_pos last]
      exact .inl (by omega)
    · simp only [spent, if_neg last]
      exact ⟨by rw [Nat.sub_sub], by omega⟩
  | leaves r ends =>
    obtain ⟨rfl, fewer⟩ := tally
    rcases ends with pending | why | gone
    · cases pending
    · exact absurd why unmarked
    · exact .inr ⟨kept gone, Nat.le_of_lt fewer⟩
  | marked why | runsMarked why => exact absurd why unmarked
  | counted why => exact absurd why uncounted

end Remaining

open Remaining (Spare Tally)

namespace Scene

open Scheduler

/-- Whether a request gives a task a count, as a new one or later. -/
def Arms (id : TaskId) (count : Int) (scene : Scene κ π σ) : Request κ π σ → Prop
  | .add task =>
    task.count.toInt = count ∧ (scene.scheduler.add scene.world.clock task).answer = .ok id
  | .modify task update =>
    task = id ∧ update.count.map Int64.toInt = some count ∧
      (scene.scheduler.modify task update).answer = .ok ()
  | _ => False

/-! ## Runs of requests -/

/-- How often a task runs while requests are served. -/
def runs (behavior : Behavior κ π σ ε) (id : TaskId) (scene : Scene κ π σ)
    (requests : List (Request κ π σ)) : Nat :=
  ((scene.answers behavior requests).flatMap (·.visits)).countP (·.isRunOf id)

theorem runs_cons (behavior : Behavior κ π σ ε) (id : TaskId) (scene : Scene κ π σ)
    (request : Request κ π σ) (rest : List (Request κ π σ)) :
    scene.runs behavior id (request :: rest) =
      (scene.serve behavior request).2.visits.countP (·.isRunOf id) +
        (scene.serve behavior request).1.runs behavior id rest := by
  simp only [runs, answers, List.flatMap_cons, List.countP_append]

theorem runs_le_of_spare {behavior : Behavior κ π σ ε} {scene : Scene κ π σ} {id : TaskId} {n : Nat}
    (balanced : scene.scheduler.Balanced) (issued : id.number < scene.scheduler.nextTask)
    (spare : Spare n (scene.scheduler.remaining? id)) {requests : List (Request κ π σ)}
    (uncounted : scene.Avoids behavior (Recounts id) requests) :
    scene.runs behavior id requests ≤ n := by
  induction requests generalizing scene n with
  | nil => exact Nat.zero_le n
  | cons request rest ih =>
    obtain ⟨uncounted, later⟩ := uncounted
    obtain ⟨balanced', issued'⟩ := issued_serve behavior balanced issued request
    have course := serve_course behavior scene balanced request id
    -- the first request leaves as many runs less as the task made in it
    obtain ⟨here, left⟩ := course.spare (not_or.mpr ⟨uncounted, not_makes issued request⟩) spare
    have after := ih balanced' issued' left later
    rw [runs_cons]
    omega

theorem tally_after {behavior : Behavior κ π σ ε} {scene : Scene κ π σ} {id : TaskId} {n f : Nat}
    {lost : Prop} (balanced : scene.scheduler.Balanced)
    (issued : id.number < scene.scheduler.nextTask)
    (tally : Tally lost n f (scene.scheduler.remaining? id)) {requests : List (Request κ π σ)}
    (uncounted : scene.Avoids behavior (Recounts id) requests)
    (unmarked : scene.Avoids behavior (Marks behavior id) requests)
    (kept : lost ∨ scene.Avoids behavior (Removes id) requests) :
    Tally lost n (f + scene.runs behavior id requests)
      ((scene.after behavior requests).scheduler.remaining? id) := by
  induction requests generalizing scene f with
  | nil => exact tally
  | cons request rest ih =>
    obtain ⟨uncounted, uncounted'⟩ := uncounted
    obtain ⟨unmarked, unmarked'⟩ := unmarked
    obtain ⟨balanced', issued'⟩ := issued_serve behavior balanced issued request
    have keeps : scene.Removes id request → lost := by
      intro removes
      rcases kept with lost | ⟨stays, -⟩
      · exact lost
      · exact absurd removes stays
    have kept' : lost ∨ (scene.serve behavior request).1.Avoids behavior (Removes id) rest :=
      kept.imp_right (·.2)
    have course := serve_course behavior scene balanced request id
    -- the tally after the first request is one to start with for the others
    have next := course.tally unmarked (not_or.mpr ⟨uncounted, not_makes issued request⟩) keeps tally
    have last := ih balanced' issued' next uncounted' unmarked' kept'
    rw [runs_cons, ← Nat.add_assoc]
    exact last

/-! ## Counts in every scheduler -/

theorem isCount_after (behavior : Behavior κ π σ ε) (world : World σ)
    (requests : List (Request κ π σ)) (id : TaskId) (r : Remaining)
    (remains : ((start world).after behavior requests).scheduler.remaining? id = some r) :
    r.IsCount := by
  suffices both : ((start world).after behavior requests).scheduler.Balanced ∧
      ∀ id r, ((start world).after behavior requests).scheduler.remaining? id = some r → r.IsCount
    from both.2 id r remains
  have first : ∀ id r, (start world : Scene κ π σ).scheduler.remaining? id = some r → r.IsCount := by
    intro id r remains
    cases remains
  apply after_of_serve (motive := fun scene => scene.scheduler.Balanced ∧
    ∀ id r, scene.scheduler.remaining? id = some r → r.IsCount) _ ⟨Balanced.empty, first⟩
  rintro scene request ⟨balanced, counts⟩
  refine ⟨balanced.moves (serve_moves behavior scene balanced request), ?_⟩
  intro id
  exact (serve_course behavior scene balanced request id).isCount (counts id)

/-- What remains of a task that was given a count is what the count stands for. -/
theorem ofCount_of_arms (behavior : Behavior κ π σ ε) {scene : Scene κ π σ} {id : TaskId} {count : Int}
    (balanced : scene.scheduler.Balanced) {request : Request κ π σ} (arms : scene.Arms id count request) :
    ∃ r, Remaining.ofCount count = .ok r ∧
      (scene.serve behavior request).1.scheduler.remaining? id = some r := by
  cases request with
  | add task =>
    obtain ⟨same, answer⟩ := arms
    rcases add_tasks scene.scheduler scene.world.clock task with
      ⟨⟨why, refused⟩, -⟩ | ⟨new, next, granted, read, added⟩
    · rw [refused] at answer
      cases answer
    · have named : new.id = id := Except.ok.inj (granted.symm.trans answer)
      refine ⟨new.remaining, same ▸ read, ?_⟩
      -- no task of the list had the handle before
      simp only [serve, remaining?, get?_append added, if_pos named]
      rw [← named, next, balanced.get?_next, Option.none_or, Option.map_some]
  | modify task update =>
    obtain ⟨rfl, given, answer⟩ := arms
    rcases balanced.modify_tasks task update with
      ⟨⟨why, refused⟩, -⟩ | ⟨-, present, change, remaining, counted, changes, changed⟩
    · rw [refused] at answer
      cases answer
    · obtain ⟨t, found⟩ := Option.isSome_iff_exists.mp present
      obtain ⟨asked, sets, same⟩ := Option.map_eq_some_iff.mp given
      rw [sets] at counted
      obtain ⟨r, read, rfl⟩ := updatedRemaining_some counted
      refine ⟨r, same ▸ read, ?_⟩
      simp only [serve, remaining?, get?_changed (fun t => (changes t).1) changed, if_true, found,
        Option.map_some, (changes t).2, Option.getD_some]
  | registerOwner | releaseOwner | markForRemoval | remove | tick | turn => cases arms

theorem remaining?_of_arms {behavior : Behavior κ π σ ε} {scene : Scene κ π σ} {id : TaskId} {n : Nat}
    (balanced : scene.scheduler.Balanced) (positive : 0 < n) {request : Request κ π σ}
    (arms : scene.Arms id n request) :
    (scene.serve behavior request).1.scheduler.remaining? id = some (.times n) := by
  obtain ⟨r, read, remains⟩ := ofCount_of_arms behavior balanced arms
  rw [remains, Remaining.eq_times_of_ofCount positive read]

/-- In every scheduler that requests can reach, whatever callbacks do, what remains of a
    task is a count that can be given.  A task that is given the count `n` runs at most `n`
    times until it is given another one.  Unless it is marked meanwhile, its runs and what
    remains add up to `n` as long as it is in the list, and with the last of `n` runs it
    is out of it; and it is not out before unless it is removed. -/
theorem counts_run_out (behavior : Behavior κ π σ ε) (world : World σ)
    (before : List (Request κ π σ)) :
    let scene := (start world).after behavior before
    (∀ task ∈ scene.scheduler.tasks, task.remaining ≠ .times 0 ∧
        Remaining.ofCount task.remaining.toCount = .ok task.remaining) ∧
      ∀ (arming : Request κ π σ) (id : TaskId) (n : Nat), 0 < n → scene.Arms id n arming →
        let armed := (scene.serve behavior arming).1
        ∀ later, armed.Avoids behavior (Recounts id) later →
          let last := (armed.after behavior later).scheduler
          let f := armed.runs behavior id later
          f ≤ n ∧
            (armed.Avoids behavior (Marks behavior id) later →
              (∀ task, last.get? id = some task →
                task.remaining = .times (n - f) ∧ 1 ≤ n - f ∧ f < n) ∧
              (f = n → last.get? id = none ∧ ∀ name, last.find? name ≠ some id) ∧
              (armed.Avoids behavior (Removes id) later → f < n → (last.get? id).isSome)) := by
  intro scene
  have balanced : scene.scheduler.Balanced := balanced_after Balanced.empty before
  constructor
  · intro task member
    have counted : task.remaining.IsCount := by
      apply isCount_after behavior world before task.id
      simp only [remaining?]
      rw [balanced.get? member, Option.map_some]
    refine ⟨?_, Remaining.ofCount_toCount counted⟩
    intro none
    rw [none] at counted
    exact Nat.lt_irrefl 0 counted.1
  · intro arming id n positive arms armed later uncounted last f
    have balanced' : armed.scheduler.Balanced :=
      balanced.moves (serve_moves behavior scene balanced arming)
    have remains : armed.scheduler.remaining? id = some (.times n) :=
      remaining?_of_arms balanced positive arms
    have issued : id.number < armed.scheduler.nextTask := by
      obtain ⟨task, found, -⟩ := Option.map_eq_some_iff.mp remains
      exact balanced'.issued_of_get? found
    have spare : Spare n (armed.scheduler.remaining? id) := by
      rw [remains]
      exact ⟨positive, Nat.le_refl n⟩
    have first : ∀ lost, Tally lost n 0 (armed.scheduler.remaining? id) := by
      intro lost
      rw [remains]
      exact ⟨rfl, positive⟩
    refine ⟨runs_le_of_spare balanced' issued spare uncounted, ?_⟩
    intro unmarked
    -- once with removals allowed, and below once without them
    have tally := tally_after balanced' issued (first True) uncounted unmarked (.inl trivial)
    rw [Nat.zero_add] at tally
    have counts : ∀ task, last.get? id = some task →
        task.remaining = .times (n - f) ∧ 1 ≤ n - f ∧ f < n := by
      intro task found
      simp only [remaining?] at tally
      rw [found] at tally
      obtain ⟨left, fewer⟩ := tally
      exact ⟨left, by omega, fewer⟩
    refine ⟨counts, ?_, ?_⟩
    · intro all
      have absent : last.get? id = none := by
        rw [Option.eq_none_iff_forall_ne_some]
        intro task found
        have fewer := (counts task found).2.2
        omega
      exact ⟨absent, find?_ne_of_get?_eq_none absent⟩
    · intro stays fewer
      have kept := tally_after balanced' issued (first False) uncounted unmarked (.inr stays)
      rw [Nat.zero_add] at kept
      cases found : last.get? id with
      | some task => rfl
      | none =>
        simp only [remaining?] at kept
        rw [found] at kept
        rcases kept with all | ⟨lost, -⟩
        · exact absurd all (Nat.ne_of_lt fewer)
        · exact lost.elim

/-- A task that is to run twice, which does so in two ticks after its interval was changed. -/
theorem counts_run_out_twice :
    let world : World Unit := ⟨Instant.epoch, ()⟩
    let arming : Request Script.Callback Script.Payload Unit :=
      .add ⟨none, "ping", .ofLines [], .unit, 500, 2⟩
    let armed := ((start world).serve Script.behavior arming).1
    let later : List (Request Script.Callback Script.Payload Unit) :=
      [.modify ⟨1⟩ { intervalMs := some 0 }, .tick, .tick]
    (start world).Arms ⟨1⟩ 2 arming ∧ armed.Avoids Script.behavior (Recounts ⟨1⟩) later ∧
      armed.Avoids Script.behavior (Marks Script.behavior ⟨1⟩) later ∧
      armed.runs Script.behavior ⟨1⟩ later = 2 ∧
      (armed.after Script.behavior later).scheduler.get? ⟨1⟩ = none := by
  intro world arming armed later
  have arms : (start world).Arms ⟨1⟩ 2 arming := ⟨by decide, by decide⟩
  have uncounted : armed.Avoids Script.behavior (Recounts ⟨1⟩) later := by decide +kernel
  have unmarked : armed.Avoids Script.behavior (Marks Script.behavior ⟨1⟩) later := by
    decide +kernel
  have twice : armed.runs Script.behavior ⟨1⟩ later = 2 := by decide +kernel
  obtain ⟨-, counted⟩ := counts_run_out Script.behavior world []
  obtain ⟨-, marks⟩ := counted arming ⟨1⟩ 2 (by decide) arms later uncounted
  exact ⟨arms, uncounted, unmarked, twice, ((marks unmarked).2.1 twice).1⟩

end Scene

end Backlog
