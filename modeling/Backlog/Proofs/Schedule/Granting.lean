import Backlog.Proofs.Schedule.Course

/-!
# Which requests are granted

A request to add a task is granted if its owner is known and what it asks for is `NewTask.Valid`,
and one to change a task if the task is there and the update is `TaskUpdate.Valid`.  Otherwise the
scheduler stays as it is, and whoever asked is told (`Scheduler.telling`).  What a granted update
leaves of its task is `TaskUpdate.Changes`, and there is nothing else that it changes.
-/

namespace Backlog

variable {κ π σ ε : Type}

/-! ## Counts -/

namespace Remaining

theorem exists_ofCount_iff {count : Int} :
    (∃ r, ofCount count = .ok r) ↔ -1 ≤ count ∧ count ≤ 4294967295 := by
  constructor
  · rintro ⟨r, read⟩
    obtain ⟨counted, rfl⟩ := isCount_and_toCount_of_ofCount read
    cases r with
    | pendingRemoval | forever => simp [toCount]
    | times n =>
      simp only [IsCount, mostTimes, toCount] at counted ⊢
      omega
  · rintro ⟨least, most⟩
    by_cases pending : count = -1
    · exact ⟨_, if_pos pending⟩
    · by_cases forever : count = 0
      · exact ⟨_, (if_neg pending).trans (if_pos forever)⟩
      · have notNegative : ¬ count < 0 := by omega
        have small : ¬ mostTimes < count := Int.not_lt.mpr most
        exact ⟨.times count.toNat, by simp only [ofCount, pending, forever, notNegative, small, if_false]⟩

end Remaining

/-! ## New tasks -/

/-- What a new task may ask for, whoever its owner is. -/
structure NewTask.Valid (request : NewTask κ π) : Prop where
  named : request.name ≠ ""
  interval : 0 ≤ request.intervalMs.toInt
  count : 0 ≤ request.count.toInt ∧ request.count.toInt ≤ 4294967295

namespace Scheduler

theorem checkNew_of_valid {request : NewTask κ π} (valid : request.Valid) :
    ∃ remaining, checkNew request = .ok remaining := by
  obtain ⟨named, interval, least, most⟩ := valid
  obtain ⟨r, read⟩ := Remaining.exists_ofCount_iff.mpr
    ⟨Int.le_trans (by decide : (-1 : Int) ≤ 0) least, most⟩
  refine ⟨r, ?_⟩
  rw [checkNew, if_neg named, if_neg (Int.not_lt.mpr interval), if_neg (Int.not_lt.mpr least), read]
  rfl

theorem valid_of_checkNew {request : NewTask κ π} {remaining : Remaining}
    (checked : checkNew request = .ok remaining) : request.Valid := by
  have read := ofCount_of_checkNew checked
  obtain ⟨-, most⟩ := Remaining.exists_ofCount_iff.mp ⟨remaining, read⟩
  unfold checkNew at checked
  split at checked
  · cases checked
  · rename_i named
    split at checked
    · cases checked
    · rename_i interval
      split at checked
      · cases checked
      · rename_i least
        exact ⟨named, Int.not_lt.mp interval, Int.not_lt.mp least, most⟩

theorem refused_of_not_valid {request : NewTask κ π} (invalid : ¬ request.Valid) :
    ∃ why, checkNew request = .error why := by
  cases checked : checkNew request with
  | ok remaining => exact absurd (valid_of_checkNew checked) invalid
  | error why => exact ⟨why, rfl⟩

end Scheduler

/-! ## Updates -/

/-- What an update may set. -/
structure TaskUpdate.Valid (u : TaskUpdate κ π) : Prop where
  sets : u.intervalMs.isSome ∨ u.count.isSome ∨ u.name.isSome ∨ u.callback.isSome ∨ u.payload.isSome
  interval : ∀ ms, u.intervalMs = some ms → 0 ≤ ms.toInt
  count : ∀ n, u.count = some n → -1 ≤ n.toInt ∧ n.toInt ≤ 4294967295
  named : ∀ name, u.name = some name → name ≠ ""

/-- From `t` to `t'` a task has changed in what the update sets, and in nothing else.  Its
    handle, its owner, when it last ran and how often are not for updates to set. -/
structure TaskUpdate.Changes (u : TaskUpdate κ π) (t t' : Task κ π) : Prop where
  kept : t'.id = t.id ∧ t'.owner = t.owner ∧ t'.lastFiredAt = t.lastFiredAt ∧ t'.fireCount = t.fireCount
  name : t'.name = u.name.getD t.name
  callback : t'.callback = u.callback.getD t.callback
  payload : t'.payload = u.payload.getD t.payload
  sameInterval : u.intervalMs = none → t'.intervalMs = t.intervalMs
  interval : ∀ ms, u.intervalMs = some ms →
    (t'.intervalMs.toNat : Int) = if 1 ≤ ms.toInt ∧ ms.toInt ≤ 99 then 100 else ms.toInt
  sameCount : u.count = none → t'.remaining = t.remaining
  count : ∀ n, u.count = some n → t'.remaining.IsCount ∧ t'.remaining.toCount = n.toInt

namespace TaskUpdate

theorem nonneg_of_interval {ms : Int64} {granted : Option UInt64}
    (within : interval (some ms) = .ok granted) : 0 ≤ ms.toInt := by
  by_contra negative
  rw [interval, if_pos (Int.not_le.mp negative)] at within
  cases within

theorem isEmpty_eq_false_iff (u : TaskUpdate κ π) :
    u.isEmpty = false ↔ u.intervalMs.isSome ∨ u.count.isSome ∨ u.name.isSome ∨ u.callback.isSome ∨
      u.payload.isSome := by
  simp only [isEmpty, Bool.and_eq_false_iff, ← Option.not_isSome, Bool.not_eq_false', or_assoc]

theorem valid_of_granted {u : TaskUpdate κ π} {ms : Option UInt64} {remaining : Option Remaining}
    (granted : u.granted = .ok (ms, remaining)) : u.Valid := by
  obtain ⟨sets, within, counted, named⟩ := grants_of_granted granted
  constructor
  · exact u.isEmpty_eq_false_iff.mp sets
  · intro asked set
    rw [set] at within
    exact nonneg_of_interval within
  · intro n set
    rw [set] at counted
    obtain ⟨r, read, -⟩ := Scheduler.updatedRemaining_some counted
    exact Remaining.exists_ofCount_iff.mp ⟨r, read⟩
  · rintro name set rfl
    exact named set

theorem interval_of_valid {u : TaskUpdate κ π} (valid : u.Valid) :
    ∃ granted, interval u.intervalMs = .ok granted ∧ ∀ before,
      (u.intervalMs = none → granted.getD before = before) ∧
        ∀ ms, u.intervalMs = some ms →
          ((granted.getD before).toNat : Int) =
            if 1 ≤ ms.toInt ∧ ms.toInt ≤ 99 then 100 else ms.toInt := by
  cases set : u.intervalMs with
  | none => exact ⟨none, rfl, fun before => ⟨fun _ => rfl, by simp⟩⟩
  | some ms =>
    have nonneg := valid.interval ms set
    by_cases zero : ms = 0
    · subst zero
      exact ⟨some 0, rfl, by simp⟩
    · -- an interval of 0 stays one, so only from 1 on it is raised
      have busy : ms.toInt ≠ 0 := fun none => zero (Int64.toInt_inj.mp none)
      refine ⟨some (Scheduler.raised ms), ?_, ?_⟩
      · rw [interval, if_neg (Int.not_lt.mpr nonneg), if_neg zero]
      · intro before
        refine ⟨by simp, ?_⟩
        rintro _ ⟨⟩
        rw [Option.getD_some, Scheduler.toNat_raised]
        split <;> omega

theorem updatedRemaining_of_valid {u : TaskUpdate κ π} (valid : u.Valid) :
    ∃ granted, Scheduler.updatedRemaining u.count = .ok granted ∧ ∀ before,
      (u.count = none → granted.getD before = before) ∧
        ∀ n, u.count = some n →
          (granted.getD before).IsCount ∧ (granted.getD before).toCount = n.toInt := by
  cases set : u.count with
  | none => exact ⟨none, rfl, fun before => ⟨fun _ => rfl, by simp⟩⟩
  | some n =>
    obtain ⟨r, read⟩ := Remaining.exists_ofCount_iff.mpr (valid.count n set)
    refine ⟨some r, ?_, ?_⟩
    · rw [Scheduler.updatedRemaining, read]
      rfl
    · intro before
      refine ⟨by simp, ?_⟩
      rintro _ ⟨⟩
      exact Remaining.isCount_and_toCount_of_ofCount read

/-- A valid update is granted, and then it changes what it sets. -/
theorem granted_of_valid {u : TaskUpdate κ π} (valid : u.Valid) :
    ∃ ms remaining, u.granted = .ok (ms, remaining) ∧ ∀ t, u.Changes t (u.applied ms remaining t) := by
  obtain ⟨ms, interval, intervals⟩ := interval_of_valid valid
  obtain ⟨remaining, updated, counts⟩ := updatedRemaining_of_valid valid
  have unnamed : ¬ u.name = some "" := fun set => valid.named "" set rfl
  refine ⟨ms, remaining, ?_, ?_⟩
  · rw [granted, u.isEmpty_eq_false_iff.mpr valid.sets, if_neg Bool.false_ne_true, interval, updated]
    exact if_neg unnamed
  · intro t
    obtain ⟨sameInterval, interval⟩ := intervals t.intervalMs
    obtain ⟨sameCount, count⟩ := counts t.remaining
    exact ⟨⟨rfl, rfl, rfl, rfl⟩, rfl, rfl, rfl, sameInterval, interval, sameCount, count⟩

theorem refused_of_not_valid {u : TaskUpdate κ π} (invalid : ¬ u.Valid) :
    ∃ why, u.granted = .error why := by
  cases granted : u.granted with
  | ok set => exact absurd (valid_of_granted granted) invalid
  | error why => exact ⟨why, rfl⟩

end TaskUpdate

/-! ## Requests to a scheduler -/

namespace Scheduler

variable {s : Scheduler κ π}

/-- The records of the owners, after one of them was told an outcome. -/
def telling (s : Scheduler κ π) (owner : Option OwnerId) (status : Status) : List Owner :=
  s.owners.map fun o => if owner = some o.id then { o with status } else o

/-- Whether a request may come from an owner: from none, or from one that is registered. -/
def Knows (s : Scheduler κ π) (owner : Option OwnerId) : Prop :=
  ∀ o, owner = some o → (s.owner? o).isSome

theorem knows_iff (s : Scheduler κ π) (owner : Option OwnerId) :
    s.Knows owner ↔ s.isStranger owner = false := by
  cases owner with
  | none => simp [Knows, isStranger]
  | some o => simp [Knows, isStranger, Option.isSome_iff_ne_none]

theorem add_of_invalid (now : Instant) {request : NewTask κ π} (known : s.Knows request.owner)
    (invalid : ¬ request.Valid) :
    (∃ why, (s.add now request).answer = .error (.invalidArgument why)) ∧
      (s.add now request).state = { s with owners := s.telling request.owner .invalidArgument } := by
  obtain ⟨why, refused⟩ := refused_of_not_valid invalid
  rw [add_of_refused ((s.knows_iff _).mp known) refused]
  exact ⟨⟨why, rfl⟩, rfl⟩

theorem answer_add_iff (now : Instant) (request : NewTask κ π) :
    (∃ id, (s.add now request).answer = .ok id) ↔ s.Knows request.owner ∧ request.Valid := by
  constructor
  · rintro ⟨id, granted⟩
    by_cases known : s.Knows request.owner
    · refine ⟨known, ?_⟩
      by_contra invalid
      obtain ⟨⟨why, refused⟩, -⟩ := add_of_invalid now known invalid
      rw [granted] at refused
      cases refused
    · rw [knows_iff, Bool.not_eq_false] at known
      obtain ⟨unknown, -, refused⟩ := add_of_stranger now known
      rw [refused] at granted
      cases granted
  · rintro ⟨known, valid⟩
    obtain ⟨remaining, checked⟩ := checkNew_of_valid valid
    exact ⟨_, (s.add_of_checked now ((s.knows_iff _).mp known) checked).1⟩

/-- In a change of one task, that task changes at its place. -/
theorem Balanced.change_at (balanced : s.Balanced) {task : Task κ π} (member : task ∈ s.tasks)
    (f : Task κ π → Task κ π) :
    ∃ before rest, s.tasks = before ++ task :: rest ∧
      s.change task.id f = { s with tasks := before ++ f task :: rest } := by
  obtain ⟨before, rest, stands⟩ := List.append_of_mem member
  refine ⟨before, rest, stands, ?_⟩
  have others := filter_id_ne (stands ▸ balanced.nodup)
  have kept : ∀ t ∈ before ++ rest, (if t.id = task.id then f t else t) = t := by
    intro t among
    rw [← others] at among
    exact if_neg (by simpa using (List.mem_filter.mp among).2)
  rw [change, stands, List.map_append, List.map_cons, if_pos rfl]
  congr 2
  · exact (List.map_congr_left fun t among => kept t (List.mem_append_left _ among)).trans (List.map_id _)
  · congr 1
    exact (List.map_congr_left fun t among => kept t (List.mem_append_right _ among)).trans
      (List.map_id _)

theorem Balanced.modify_of_valid (balanced : s.Balanced) {id : TaskId} {task : Task κ π}
    (found : s.get? id = some task) {u : TaskUpdate κ π} (valid : u.Valid) :
    (s.modify id u).answer = .ok () ∧ ∃ before rest task' status,
      s.tasks = before ++ task :: rest ∧ u.Changes task task' ∧
        (s.modify id u).state =
          { s with tasks := before ++ task' :: rest, owners := s.telling task.owner status } := by
  obtain ⟨ms, remaining, granted, changes⟩ := TaskUpdate.granted_of_valid valid
  obtain ⟨answer, state⟩ := balanced.modify_granted found granted
  obtain ⟨before, rest, stands, changed⟩ :=
    balanced.change_at (mem_of_get? found) (u.applied ms remaining)
  rw [id_of_get? found] at changed
  rw [changed] at state
  exact ⟨answer, before, rest, u.applied ms remaining task, _, stands, changes task, state⟩

theorem modify_of_invalid {id : TaskId} {task : Task κ π} (found : s.get? id = some task)
    {u : TaskUpdate κ π} (invalid : ¬ u.Valid) :
    (∃ why, (s.modify id u).answer = .error (.invalidArgument why)) ∧
      (s.modify id u).state = { s with owners := s.telling task.owner .invalidArgument } := by
  obtain ⟨why, refused⟩ := TaskUpdate.refused_of_not_valid invalid
  obtain ⟨answer, state⟩ := modify_refused found refused
  exact ⟨⟨why, answer⟩, state⟩

theorem Balanced.answer_modify_iff (balanced : s.Balanced) (id : TaskId) (u : TaskUpdate κ π) :
    (s.modify id u).answer = .ok () ↔ (s.get? id).isSome ∧ u.Valid := by
  cases found : s.get? id with
  | none => simp [modify_of_absent found]
  | some task =>
    by_cases valid : u.Valid
    · simp [valid, (balanced.modify_of_valid found valid).1]
    · obtain ⟨⟨why, refused⟩, -⟩ := modify_of_invalid found valid
      simp [valid, refused]

end Scheduler

namespace Scene

open Scheduler

/-- In every scheduler that requests can reach, a request is granted exactly if it is valid and
    what it names is there.  A request that names what is not there changes nothing; an invalid
    one changes what its owner is told, and nothing else.  A granted update changes in one task
    what it sets, besides what the owner of the task is told. -/
theorem requests_are_checked (behavior : Behavior κ π σ ε) (world : World σ)
    (requests : List (Request κ π σ)) :
    let s := ((start world).after behavior requests).scheduler
    (∀ now request, let done := s.add now request
      ((∃ id, done.answer = .ok id) ↔ s.Knows request.owner ∧ request.Valid) ∧
        (∀ owner, request.owner = some owner → s.owner? owner = none →
          done.answer = .error (.notFound (.owner owner.number)) ∧ done.state = s) ∧
        (s.Knows request.owner → ¬ request.Valid →
          (∃ why, done.answer = .error (.invalidArgument why)) ∧
            done.state = { s with owners := s.telling request.owner .invalidArgument })) ∧
      ∀ id update, let done := s.modify id update
        (done.answer = .ok () ↔ (s.get? id).isSome ∧ update.Valid) ∧
          (s.get? id = none → done.answer = .error (.notFound (.task id.number)) ∧ done.state = s) ∧
          ∀ task, s.get? id = some task →
            (¬ update.Valid →
              (∃ why, done.answer = .error (.invalidArgument why)) ∧
                done.state = { s with owners := s.telling task.owner .invalidArgument }) ∧
            (update.Valid → ∃ before rest task' status,
              s.tasks = before ++ task :: rest ∧ update.Changes task task' ∧
                done.state = { s with
                  tasks := before ++ task' :: rest
                  owners := s.telling task.owner status }) := by
  intro s
  have balanced : s.Balanced := balanced_after Balanced.empty requests
  constructor
  · intro now request done
    refine ⟨answer_add_iff now request, ?_, add_of_invalid now⟩
    intro owner names unknown
    have stranger : s.isStranger request.owner = true := by simp [isStranger, names, unknown]
    obtain ⟨o, same, refused⟩ := add_of_stranger now stranger
    rw [names, Option.some.injEq] at same
    subst same
    simp only [done, refused]
    exact ⟨trivial, trivial⟩
  · intro id update done
    refine ⟨balanced.answer_modify_iff id update, ?_, ?_⟩
    · intro absent
      simp only [done, modify_of_absent absent]
      exact ⟨trivial, trivial⟩
    · intro task found
      exact ⟨modify_of_invalid found, fun valid => (balanced.modify_of_valid found valid).2⟩

/-- A task of one owner, and requests of which a part is wrong: the owner, a count too large for 32
    bits, and a count after an interval that alone would be raised.  With another count the
    update is granted. -/
theorem requests_are_checked_in_part :
    let world : World Unit := ⟨Instant.epoch, ()⟩
    let idle : Script.Callback := .ofLines []
    let ping (owner : OwnerId) (count : Int64) : NewTask Script.Callback Script.Payload :=
      ⟨some owner, "ping", idle, .unit, 500, count⟩
    let update (count : Int64) : TaskUpdate Script.Callback Script.Payload :=
      ⟨some 50, some count, none, none, none⟩
    let s := ((start world).after Script.behavior [.registerOwner "relay", .add (ping ⟨1⟩ 2)]).scheduler
    s.owner? ⟨2⟩ = none ∧ s.Knows (some ⟨1⟩) ∧ ¬ (ping ⟨1⟩ 4294967296).Valid ∧
      (s.get? ⟨1⟩).isSome ∧ ¬ (update (-2)).Valid ∧ (update 3).Valid ∧
      (s.add Instant.epoch (ping ⟨2⟩ 2)).state = s ∧
      (s.add Instant.epoch (ping ⟨1⟩ 4294967296)).state =
        { s with owners := [⟨⟨1⟩, "relay", .invalidArgument, [⟨1⟩]⟩] } ∧
      (s.modify ⟨1⟩ (update (-2))).state =
        { s with owners := [⟨⟨1⟩, "relay", .invalidArgument, [⟨1⟩]⟩] } ∧
      ∃ task', (s.modify ⟨1⟩ (update 3)).state.tasks = [task'] ∧ task'.name = "ping" ∧
        task'.intervalMs.toNat = 100 ∧ task'.remaining.toCount = 3 := by
  intro world idle ping update s
  have unknown : s.owner? ⟨2⟩ = none := by decide
  have known : s.Knows (some ⟨1⟩) := by
    rintro _ ⟨⟩
    decide
  have large : ¬ (ping ⟨1⟩ 4294967296).Valid := fun valid => absurd valid.count.2 (by decide)
  have low : ¬ (update (-2)).Valid := fun valid => absurd (valid.count _ rfl).1 (by decide)
  have valid : (update 3).Valid := by
    refine ⟨by simp [update], ?_, ?_, by simp [update]⟩
    · rintro _ ⟨⟩
      decide
    · rintro _ ⟨⟩
      decide
  have present : (s.get? ⟨1⟩).isSome := by decide
  obtain ⟨task, found⟩ := Option.isSome_iff_exists.mp present
  obtain ⟨adds, modifies⟩ :=
    requests_are_checked Script.behavior world [.registerOwner "relay", .add (ping ⟨1⟩ 2)]
  obtain ⟨-, stranger, -⟩ := adds Instant.epoch (ping ⟨2⟩ 2)
  obtain ⟨-, -, refused⟩ := adds Instant.epoch (ping ⟨1⟩ 4294967296)
  obtain ⟨-, -, half⟩ := modifies ⟨1⟩ (update (-2))
  obtain ⟨-, -, whole⟩ := modifies ⟨1⟩ (update 3)
  -- the one task is that of the handle
  have one : s.tasks.map (fun t => (t.id, t.name, t.owner)) = [(⟨1⟩, "ping", some ⟨1⟩)] := by decide
  obtain ⟨before, rest, task', status, stands, changes, left⟩ := (whole task found).2 valid
  have alone : before = [] ∧ rest = [] ∧ task.name = "ping" ∧ task.owner = some ⟨1⟩ := by
    rw [stands] at one
    cases before with
    | nil => simp_all
    | cons => simp at one
  obtain ⟨rfl, rfl, name, owner⟩ := alone
  obtain ⟨-, state⟩ := (half task found).1 low
  rw [owner] at state
  refine ⟨unknown, known, large, present, low, valid, (stranger ⟨2⟩ rfl unknown).2,
    (refused known large).2, state, task', ?_, changes.name.trans name, ?_, (changes.count 3 rfl).2⟩
  · exact congrArg (·.tasks) left
  · exact Int.ofNat_inj.mp (changes.interval 50 rfl)

end Scene

end Backlog
