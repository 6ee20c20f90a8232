import Backlog.Proofs.Keyed
import Backlog.Proofs.Schedule.Pass
import Backlog.Proofs.Schedule.Scene

/-!
# Tasks and their owners

A scheduler knows twice which task belongs to which owner: each task names its
owner, and each owner keeps a list of its tasks.  `Scheduler.roll` is the one record
and `Scheduler.books` the other.  `Scheduler.Balanced` says that they agree, and that
handles ascend along the list.

Every request but three only takes tasks away, or changes what tasks hold besides
their handle and owner; `Scheduler.Loses` is that relation, and it preserves
`Balanced`.  The three are to register an owner, to release one and to add a task.
-/

namespace Backlog

namespace Scheduler

variable {κ π σ ε : Type}

/-- The handles of the tasks with their owners, in list order. -/
def roll (s : Scheduler κ π) : List (TaskId × Option OwnerId) :=
  s.tasks.map fun t => (t.id, t.owner)

/-- The owners, each with the handles that it keeps. -/
def books (s : Scheduler κ π) : List (OwnerId × List TaskId) :=
  s.owners.map fun o => (o.id, o.tasks)

/-- The handles on a roll that an owner has. -/
def handlesOf (owner : OwnerId) (roll : List (TaskId × Option OwnerId)) : List TaskId :=
  (roll.filter (·.2 = some owner)).map (·.1)

/-- The roll and the books agree. -/
structure Balanced (s : Scheduler κ π) : Prop where
  ascending : (s.roll.map (·.1.number)).Pairwise (· < ·)
  issued : ∀ entry ∈ s.roll, entry.1.number < s.nextTask
  distinct : (s.books.map (·.1)).Nodup
  registered : ∀ book ∈ s.books, book.1.number < s.nextOwner
  listed : ∀ book ∈ s.books, book.2 = handlesOf book.1 s.roll
  owned : ∀ entry ∈ s.roll, ∀ owner, entry.2 = some owner → owner ∈ s.books.map (·.1)

/-- From `s` to `s'` the tasks in `gone` have left the roll and the books. -/
structure Loses (gone : List TaskId) (s s' : Scheduler κ π) : Prop where
  roll : s'.roll = s.roll.filter (·.1 ∉ gone)
  books : s'.books = s.books.map fun book => (book.1, book.2.filter (· ∉ gone))
  nextTask : s'.nextTask = s.nextTask
  nextOwner : s'.nextOwner = s.nextOwner

/-! ## Losing tasks -/

theorem Loses.refl (s : Scheduler κ π) : Loses [] s s := by
  constructor <;> simp

/-- What changes neither handles nor owners loses nothing. -/
theorem Loses.of_eq {s s' : Scheduler κ π} (roll : s'.roll = s.roll) (books : s'.books = s.books)
    (nextTask : s'.nextTask = s.nextTask) (nextOwner : s'.nextOwner = s.nextOwner) :
    Loses [] s s' := by
  constructor <;> simp [roll, books, nextTask, nextOwner]

theorem Loses.trans {first second : List TaskId} {s s' s'' : Scheduler κ π}
    (earlier : Loses first s s') (later : Loses second s' s'') :
    Loses (first ++ second) s s'' where
  roll := by
    rw [later.roll, earlier.roll, List.filter_filter]
    apply List.filter_congr
    intro entry _
    simp [not_or, Bool.and_comm]
  books := by
    rw [later.books, earlier.books, List.map_map]
    apply List.map_congr_left
    intro book _
    simp only [Function.comp_apply, List.filter_filter, Prod.mk.injEq, true_and]
    apply List.filter_congr
    intro id _
    simp [not_or, Bool.and_comm]
  nextTask := later.nextTask.trans earlier.nextTask
  nextOwner := later.nextOwner.trans earlier.nextOwner

theorem Loses.keys {gone : List TaskId} {s s' : Scheduler κ π} (loses : Loses gone s s') :
    s'.books.map (·.1) = s.books.map (·.1) := by
  simp [loses.books]

theorem handlesOf_filter (owner : OwnerId) (gone : List TaskId)
    (roll : List (TaskId × Option OwnerId)) :
    handlesOf owner (roll.filter (·.1 ∉ gone)) = (handlesOf owner roll).filter (· ∉ gone) := by
  simp only [handlesOf, List.filter_map, List.filter_filter]
  congr 1
  apply List.filter_congr
  intro entry _
  simp [Bool.and_comm]

theorem Balanced.loses {gone : List TaskId} {s s' : Scheduler κ π} (balanced : s.Balanced)
    (loses : Loses gone s s') : s'.Balanced where
  ascending := by
    rw [loses.roll]
    exact balanced.ascending.sublist (List.filter_sublist.map _)
  issued := by
    rw [loses.roll, loses.nextTask]
    intro entry member
    exact balanced.issued entry (List.mem_of_mem_filter member)
  distinct := by
    rw [loses.keys]
    exact balanced.distinct
  registered := by
    rw [loses.books, loses.nextOwner]
    intro book member
    obtain ⟨old, oldMember, rfl⟩ := List.mem_map.mp member
    exact balanced.registered old oldMember
  listed := by
    -- each book loses what the roll loses
    rw [loses.books, loses.roll]
    intro book member
    obtain ⟨old, oldMember, rfl⟩ := List.mem_map.mp member
    simp only [handlesOf_filter, balanced.listed old oldMember]
  owned := by
    rw [loses.keys, loses.roll]
    intro entry member
    exact balanced.owned entry (List.mem_of_mem_filter member)

/-! ## What leaves handles and owners as they are -/

theorem Loses.setStatus (s : Scheduler κ π) (owner : Option OwnerId) (status : Status) :
    Loses [] s (s.setStatus owner status) := by
  refine .of_eq rfl ?_ rfl rfl
  simp only [Scheduler.books, Scheduler.setStatus, updateOwner, List.map_map]
  apply List.map_congr_left
  intro o _
  by_cases own : owner = some o.id <;> simp [own]

/-- Tasks may change, but for their handles and owners. -/
theorem Loses.mapTasks (s : Scheduler κ π) (f : Task κ π → Task κ π) (ids : ∀ t, (f t).id = t.id)
    (owners : ∀ t, (f t).owner = t.owner) : Loses [] s { s with tasks := s.tasks.map f } := by
  refine .of_eq ?_ rfl rfl rfl
  simp [Scheduler.roll, Function.comp_def, ids, owners]

theorem Loses.mark (s : Scheduler κ π) (id : TaskId) : Loses [] s (s.mark id) := by
  rw [Scheduler.mark, Task.markedIf_eq]
  exact Loses.mapTasks s _ (Task.id_markedIn [id]) (Task.owner_markedIn [id])

theorem Loses.markAll (s : Scheduler κ π) (ids : List TaskId) : Loses [] s (s.markAll ids) := by
  rw [markAll_eq]
  exact Loses.mapTasks s _ (Task.id_markedIn ids) (Task.owner_markedIn ids)

theorem Loses.replace (s : Scheduler κ π) (place : Nat) (old new : Task κ π)
    (here : s.tasks[place]? = some old) (id : new.id = old.id) (owner : new.owner = old.owner) :
    Loses [] s (s.replace place new) := by
  refine .of_eq ?_ rfl rfl rfl
  have entry : s.roll[place]? = some (new.id, new.owner) := by
    simp [Scheduler.roll, here, id, owner]
  obtain ⟨bound, same⟩ := List.getElem?_eq_some_iff.mp entry
  simp only [Scheduler.roll, Scheduler.replace, List.map_set]
  change s.roll.set place (new.id, new.owner) = s.roll
  rw [← same, List.set_getElem_self]

/-! ## Taking tasks out -/

/-- The scheduler without some of its tasks. -/
def without (s : Scheduler κ π) (gone : List TaskId) : Scheduler κ π :=
  { s with
    tasks := s.tasks.filter (·.id ∉ gone)
    owners := s.owners.map fun o => { o with tasks := o.tasks.filter (· ∉ gone) } }

theorem Loses.without (s : Scheduler κ π) (gone : List TaskId) : Loses gone s (s.without gone) where
  roll := by simp [Scheduler.roll, Scheduler.without, List.filter_map, Function.comp_def]
  books := by simp [Scheduler.books, Scheduler.without, Function.comp_def]
  nextTask := rfl
  nextOwner := rfl

theorem without_nil (s : Scheduler κ π) : s.without [] = s := by
  simp [without]

theorem without_without (s : Scheduler κ π) (first second : List TaskId) :
    (s.without first).without second = s.without (first ++ second) := by
  simp only [without, List.filter_filter, List.map_map, Function.comp_def, List.mem_append, not_or,
    Bool.decide_and, Bool.and_comm]

theorem nodup_of_ascending {ids : List TaskId} (ascending : ids.Pairwise (·.number < ·.number)) :
    ids.Nodup := by
  apply ascending.imp
  intro id id' less same
  rw [same] at less
  exact Nat.lt_irrefl _ less

theorem Balanced.ascending_tasks {s : Scheduler κ π} (balanced : s.Balanced) :
    s.tasks.Pairwise (·.id.number < ·.id.number) := by
  have ascending := balanced.ascending
  simpa only [roll, List.map_map, List.pairwise_map, Function.comp_apply] using ascending

theorem Balanced.nodup {s : Scheduler κ π} (balanced : s.Balanced) : (s.tasks.map (·.id)).Nodup :=
  nodup_of_ascending (List.pairwise_map.mpr balanced.ascending_tasks)

/-- A handle is that of one task. -/
theorem Balanced.unique {s : Scheduler κ π} (balanced : s.Balanced) {t t' : Task κ π}
    (member : t ∈ s.tasks) (member' : t' ∈ s.tasks) (same : t.id = t'.id) : t = t' :=
  List.inj_on_of_nodup_map balanced.nodup member member' same

theorem filter_id_ne {before rest : List (Task κ π)} {task : Task κ π}
    (nodup : ((before ++ task :: rest).map (·.id)).Nodup) :
    (before ++ task :: rest).filter (·.id ∉ [task.id]) = before ++ rest := by
  simp only [List.map_append, List.map_cons, List.nodup_middle, List.nodup_cons, List.mem_append,
    List.mem_map, not_or, not_exists, not_and] at nodup
  obtain ⟨⟨absentBefore, absentAfter⟩, -⟩ := nodup
  rw [List.filter_append, List.filter_cons_of_neg (by simp)]
  congr 1
  · exact List.filter_eq_self.mpr fun t member => by simpa using absentBefore t member
  · exact List.filter_eq_self.mpr fun t member => by simpa using absentAfter t member

theorem mem_handlesOf_iff {s : Scheduler κ π} {owner : OwnerId} {id : TaskId} :
    id ∈ handlesOf owner s.roll ↔ ∃ t ∈ s.tasks, t.owner = some owner ∧ t.id = id := by
  simp [handlesOf, roll, and_assoc]

theorem Balanced.nodup_handlesOf {s : Scheduler κ π} (balanced : s.Balanced) (owner : OwnerId) :
    (handlesOf owner s.roll).Nodup := by
  have nodup : (s.roll.map (·.1)).Nodup := by simpa [roll, Function.comp_def] using balanced.nodup
  exact nodup.sublist (List.filter_sublist.map _)

/-- In a balanced scheduler a task goes from the list and from its owner's list alone. -/
theorem Balanced.unlink {s : Scheduler κ π} (balanced : s.Balanced) {place : Nat} {task : Task κ π}
    (here : s.tasks[place]? = some task) : s.unlink place = s.without [task.id] := by
  obtain ⟨bound, same⟩ := List.getElem?_eq_some_iff.mp here
  have stands : s.tasks = s.tasks.take place ++ task :: s.tasks.drop (place + 1) := by
    rw [← same, ← List.drop_eq_getElem_cons bound, List.take_append_drop]
  have nodup := balanced.nodup
  rw [unlink_eq s stands (List.length_take_of_le (Nat.le_of_lt bound)), without]
  congr 1
  · rw [stands] at nodup
    rw [← filter_id_ne nodup, ← stands]
  · apply List.map_congr_left
    intro o member
    -- an owner's list has no other task's handle, so erasing it or filtering it out is one
    have listed : o.tasks = handlesOf o.id s.roll :=
      balanced.listed (o.id, o.tasks) (List.mem_map_of_mem member)
    rw [Owner.without, listed, (balanced.nodup_handlesOf o.id).sdiff_eq_filter]
    congr 1
    apply List.filter_congr
    intro id own
    obtain ⟨t, among, owned, rfl⟩ := mem_handlesOf_iff.mp own
    have one : t.id = task.id → t = task := balanced.unique among (List.mem_of_getElem? here)
    by_cases mine : task.owner = some o.id
    · simp [mine]
    · have other : t.id ≠ task.id := fun ids => mine (one ids ▸ owned)
      simp [mine, other]

/-! ## Looking up and removing -/

theorem Balanced.get? {s : Scheduler κ π} (balanced : s.Balanced) {task : Task κ π}
    (member : task ∈ s.tasks) : s.get? task.id = some task :=
  (find?_key_eq_some_iff balanced.nodup).mpr ⟨member, rfl⟩

theorem Balanced.position? {s : Scheduler κ π} (balanced : s.Balanced) {task : Task κ π}
    (member : task ∈ s.tasks) :
    ∃ place, s.position? task.id = some place ∧ s.tasks[place]? = some task := by
  unfold Scheduler.position?
  cases found : s.tasks.findIdx? (·.id = task.id) with
  | none =>
    have absent := List.findIdx?_eq_none_iff.mp found task member
    simp at absent
  | some place =>
    obtain ⟨bound, here, -⟩ := List.findIdx?_eq_some_iff_getElem.mp found
    have same : s.tasks[place].id = task.id := by simpa using here
    refine ⟨place, rfl, ?_⟩
    rw [List.getElem?_eq_getElem bound, balanced.unique (List.getElem_mem bound) member same]

theorem get?_eq_none {s : Scheduler κ π} {id : TaskId} (absent : ∀ t ∈ s.tasks, t.id ≠ id) :
    s.get? id = none := by
  unfold Scheduler.get?
  exact List.find?_eq_none.mpr fun t member => by simpa using absent t member

/-- Removing a task that is there.  The answer is the task that followed it. -/
theorem Balanced.remove {s : Scheduler κ π} (balanced : s.Balanced) {task : Task κ π}
    (member : task ∈ s.tasks) :
    ∃ place : Nat, s.tasks[place]? = some task ∧
      s.remove task.id =
        ⟨s.without [task.id],
          .ok ((s.without [task.id]).tasks[place]?.map (·.id)),
          [.taskRemoved task.name task.id.number]⟩ := by
  obtain ⟨place, position, here⟩ := balanced.position? member
  refine ⟨place, here, ?_⟩
  simp only [Scheduler.remove, position, balanced.get? member, balanced.unlink here]

theorem remove_absent {s : Scheduler κ π} {id : TaskId} (absent : ∀ t ∈ s.tasks, t.id ≠ id) :
    s.remove id = ⟨s, .error (.notFound (.task id.number)), []⟩ := by
  unfold Scheduler.remove
  rw [get?_eq_none absent]
  split
  · rename_i found
    cases found
  · rfl

theorem Balanced.remove_loses {s : Scheduler κ π} (balanced : s.Balanced) (id : TaskId) :
    ∃ gone, Loses gone s (s.remove id).state := by
  by_cases present : ∃ t ∈ s.tasks, t.id = id
  · obtain ⟨task, member, rfl⟩ := present
    obtain ⟨place, -, removed⟩ := balanced.remove member
    rw [removed]
    exact ⟨[task.id], Loses.without s [task.id]⟩
  · rw [remove_absent (by simpa using present)]
    exact ⟨[], Loses.refl s⟩

/-- Removing tasks that are all there, each once. -/
theorem Balanced.removeAll {s : Scheduler κ π} (balanced : s.Balanced) {ids : List TaskId}
    (nodup : ids.Nodup) (present : ∀ id ∈ ids, ∃ t ∈ s.tasks, t.id = id) :
    (s.removeAll ids).state = s.without ids ∧ (s.removeAll ids).answer = ids.length := by
  induction ids generalizing s with
  | nil => exact ⟨(without_nil s).symm, rfl⟩
  | cons id ids ih =>
    obtain ⟨absent, nodup'⟩ := List.nodup_cons.mp nodup
    obtain ⟨task, member, rfl⟩ := present id List.mem_cons_self
    obtain ⟨place, -, removed⟩ := balanced.remove member
    have balanced' := balanced.loses (Loses.without s [task.id])
    -- the tasks still to be removed are other ones, and stay
    have present' : ∀ id ∈ ids, ∃ t ∈ (s.without [task.id]).tasks, t.id = id := by
      intro id among
      obtain ⟨t, member, rfl⟩ := present id (List.mem_cons_of_mem _ among)
      have other : t.id ≠ task.id := fun same => absent (same ▸ among)
      exact ⟨t, List.mem_filter.mpr ⟨member, by simpa using other⟩, rfl⟩
    obtain ⟨state, answer⟩ := ih balanced' nodup' present'
    simp only [Scheduler.removeAll, removed, state, answer, without_without]
    exact ⟨rfl, Nat.add_comm _ _⟩

/-! ## Owners -/

theorem isSome_owner?_iff (s : Scheduler κ π) (owner : OwnerId) :
    (s.owner? owner).isSome ↔ owner ∈ s.books.map (·.1) := by
  simp [owner?, books]

theorem Balanced.ownerTasks {s : Scheduler κ π} (balanced : s.Balanced) {owner : OwnerId}
    (registered : (s.owner? owner).isSome) : s.ownerTasks owner = handlesOf owner s.roll := by
  obtain ⟨record, found⟩ := Option.isSome_iff_exists.mp registered
  have same : record.id = owner := by simpa using List.find?_some found
  have listed := balanced.listed _ (List.mem_map_of_mem (List.mem_of_find?_eq_some found))
  simp only [Scheduler.ownerTasks, found, Option.map_some, Option.getD_some]
  rw [← same]
  exact listed

theorem ownerTasks_of_none {s : Scheduler κ π} {owner : OwnerId} (unknown : s.owner? owner = none) :
    s.ownerTasks owner = [] := by
  simp [ownerTasks, unknown]

theorem tasks_without_handlesOf {s : Scheduler κ π} (balanced : s.Balanced) (owner : OwnerId) :
    (s.without (handlesOf owner s.roll)).tasks = s.tasks.filter (·.owner ≠ some owner) := by
  apply List.filter_congr
  intro t member
  have owns : t.id ∈ handlesOf owner s.roll ↔ t.owner = some owner := by
    rw [mem_handlesOf_iff]
    constructor
    · rintro ⟨other, among, owned, same⟩
      rw [balanced.unique among member same] at owned
      exact owned
    · exact fun owned => ⟨t, member, owned, rfl⟩
  simp [owns]

/-- Releasing an owner takes its tasks out, and then the owner. -/
theorem Balanced.releaseOwner {s : Scheduler κ π} (balanced : s.Balanced) {owner : OwnerId}
    (registered : (s.owner? owner).isSome) :
    let cleared := s.without (handlesOf owner s.roll)
    (s.releaseOwner owner).state = { cleared with owners := cleared.owners.filter (·.id ≠ owner) } ∧
      (s.releaseOwner owner).answer = (handlesOf owner s.roll).length := by
  have present : ∀ id ∈ handlesOf owner s.roll, ∃ t ∈ s.tasks, t.id = id := by
    intro id member
    obtain ⟨t, among, -, same⟩ := mem_handlesOf_iff.mp member
    exact ⟨t, among, same⟩
  obtain ⟨state, answer⟩ := balanced.removeAll (balanced.nodup_handlesOf owner) present
  have still : ((s.without (handlesOf owner s.roll)).owner? owner).isSome := by
    rw [isSome_owner?_iff, (Loses.without s _).keys, ← isSome_owner?_iff]
    exact registered
  obtain ⟨record, found⟩ := Option.isSome_iff_exists.mp still
  constructor
  · simp only [Scheduler.releaseOwner, balanced.ownerTasks registered, state, found]
  · simp only [Scheduler.releaseOwner, balanced.ownerTasks registered, state, found, answer]

theorem releaseOwner_of_none {s : Scheduler κ π} {owner : OwnerId} (unknown : s.owner? owner = none) :
    s.releaseOwner owner = ⟨s, 0, []⟩ := by
  simp [releaseOwner, ownerTasks_of_none unknown, removeAll, unknown]

/-- An owner without tasks may go. -/
theorem Balanced.dropOwner {s : Scheduler κ π} (balanced : s.Balanced) {owner : OwnerId}
    (free : ∀ entry ∈ s.roll, entry.2 ≠ some owner) :
    ({ s with owners := s.owners.filter (·.id ≠ owner) } : Scheduler κ π).Balanced := by
  have books : ({ s with owners := s.owners.filter (·.id ≠ owner) } : Scheduler κ π).books =
      s.books.filter (·.1 ≠ owner) := by
    simp [Scheduler.books, List.filter_map, Function.comp_def]
  constructor
  · exact balanced.ascending
  · exact balanced.issued
  · rw [books]
    exact balanced.distinct.sublist (List.filter_sublist.map _)
  · rw [books]
    exact fun book member => balanced.registered book (List.mem_of_mem_filter member)
  · rw [books]
    exact fun book member => balanced.listed book (List.mem_of_mem_filter member)
  · rw [books]
    intro entry member other owned
    obtain ⟨book, among, same⟩ := List.mem_map.mp (balanced.owned entry member other owned)
    have distinct : book.1 ≠ owner := by
      intro is
      rw [← same, is] at owned
      exact free entry member owned
    exact List.mem_map.mpr ⟨book, List.mem_filter.mpr ⟨among, by simpa using distinct⟩, same⟩

theorem Balanced.releaseOwner_balanced {s : Scheduler κ π} (balanced : s.Balanced) (owner : OwnerId) :
    (s.releaseOwner owner).state.Balanced := by
  cases found : s.owner? owner with
  | none =>
    rw [releaseOwner_of_none found]
    exact balanced
  | some record =>
    rw [(balanced.releaseOwner (by simp [found])).1]
    apply Balanced.dropOwner (balanced.loses (Loses.without s _))
    -- no task of the owner is left
    intro entry member
    have among := member
    rw [roll, tasks_without_handlesOf balanced] at among
    obtain ⟨t, kept, rfl⟩ := List.mem_map.mp among
    simpa using (List.mem_filter.mp kept).2

theorem Balanced.registerOwner {s : Scheduler κ π} (balanced : s.Balanced) (name : String) :
    (s.registerOwner name).2.Balanced := by
  have books : (s.registerOwner name).2.books = s.books ++ [(⟨s.nextOwner⟩, [])] := by
    simp [Scheduler.books, Scheduler.registerOwner]
  have unknown : ∀ book ∈ s.books, book.1 ≠ ⟨s.nextOwner⟩ := by
    intro book member same
    have less := balanced.registered book member
    rw [same] at less
    exact Nat.lt_irrefl _ less
  -- no task can have the new owner yet, since owners of tasks are registered
  have none : handlesOf ⟨s.nextOwner⟩ s.roll = [] := by
    rw [handlesOf, List.map_eq_nil_iff, List.filter_eq_nil_iff]
    intro entry member owned
    obtain ⟨book, among, same⟩ := List.mem_map.mp (balanced.owned entry member _ (by simpa using owned))
    exact unknown book among same
  constructor
  · exact balanced.ascending
  · exact balanced.issued
  · rw [books, List.map_append, List.nodup_append]
    refine ⟨balanced.distinct, by simp, ?_⟩
    simp only [List.mem_map, List.map_cons, List.map_nil, List.mem_singleton]
    rintro _ ⟨book, member, rfl⟩ _ rfl
    exact unknown book member
  · rw [books]
    intro book member
    rcases List.mem_append.mp member with old | new
    · exact Nat.lt_succ_of_lt (balanced.registered book old)
    · rw [List.mem_singleton.mp new]
      exact Nat.lt_succ_self _
  · rw [books]
    intro book member
    rcases List.mem_append.mp member with old | new
    · exact balanced.listed book old
    · rw [List.mem_singleton.mp new]
      exact none.symm
  · rw [books, List.map_append]
    intro entry member owner owned
    exact List.mem_append_left _ (balanced.owned entry member owner owned)

/-! ## Adding and changing -/

/-- From `s` to `s'` a task of `owner` has joined the roll and the books. -/
structure Gains (owner : Option OwnerId) (s s' : Scheduler κ π) : Prop where
  known : ∀ o, owner = some o → o ∈ s.books.map (·.1)
  roll : s'.roll = s.roll ++ [(⟨s.nextTask⟩, owner)]
  books : s'.books = s.books.map fun book =>
    (book.1, if owner = some book.1 then book.2 ++ [⟨s.nextTask⟩] else book.2)
  nextTask : s'.nextTask = s.nextTask + 1
  nextOwner : s'.nextOwner = s.nextOwner

theorem Gains.keys {owner : Option OwnerId} {s s' : Scheduler κ π} (gains : Gains owner s s') :
    s'.books.map (·.1) = s.books.map (·.1) := by
  simp [gains.books]

theorem handlesOf_append_singleton (owner : OwnerId) (roll : List (TaskId × Option OwnerId))
    (entry : TaskId × Option OwnerId) :
    handlesOf owner (roll ++ [entry]) =
      if entry.2 = some owner then handlesOf owner roll ++ [entry.1] else handlesOf owner roll := by
  by_cases own : entry.2 = some owner <;> simp [handlesOf, own]

theorem Balanced.gains {owner : Option OwnerId} {s s' : Scheduler κ π} (balanced : s.Balanced)
    (gains : Gains owner s s') : s'.Balanced where
  ascending := by
    rw [gains.roll, List.map_append, List.pairwise_append]
    refine ⟨balanced.ascending, List.pairwise_singleton _ _, ?_⟩
    simp only [List.mem_map, List.map_cons, List.map_nil, List.mem_singleton]
    rintro _ ⟨entry, member, rfl⟩ _ rfl
    exact balanced.issued entry member
  issued := by
    rw [gains.roll, gains.nextTask]
    intro entry member
    rcases List.mem_append.mp member with old | new
    · exact Nat.lt_succ_of_lt (balanced.issued entry old)
    · rw [List.mem_singleton.mp new]
      exact Nat.lt_succ_self _
  distinct := by
    rw [gains.keys]
    exact balanced.distinct
  registered := by
    rw [gains.books, gains.nextOwner]
    intro book member
    obtain ⟨old, oldMember, rfl⟩ := List.mem_map.mp member
    exact balanced.registered old oldMember
  listed := by
    -- the book of the owner and its part of the roll grow by the same handle
    rw [gains.books, gains.roll]
    intro book member
    obtain ⟨old, oldMember, rfl⟩ := List.mem_map.mp member
    simp only [handlesOf_append_singleton, balanced.listed old oldMember]
  owned := by
    rw [gains.keys, gains.roll]
    intro entry member other own
    rcases List.mem_append.mp member with old | new
    · exact balanced.owned entry old other own
    · rw [List.mem_singleton.mp new] at own
      exact gains.known other own

theorem add_of_unknown {s : Scheduler κ π} {owner : OwnerId} (unknown : s.owner? owner = none)
    (now : Instant) {request : NewTask κ π} (names : request.owner = some owner) :
    (s.add now request).answer = .error (.notFound (.owner owner.number)) := by
  simp [add, names, Option.filter, unknown]

/-- A request to add a task is refused and nothing changes that counts here, or the
    task joins with the next handle. -/
theorem add_cases (s : Scheduler κ π) (now : Instant) (request : NewTask κ π) :
    (∃ why, (s.add now request).answer = .error why) ∧ Loses [] s (s.add now request).state ∨
      (s.add now request).answer = .ok ⟨s.nextTask⟩ ∧
        Gains request.owner s (s.add now request).state := by
  unfold add
  split
  · exact .inl ⟨⟨_, rfl⟩, Loses.refl s⟩
  · rename_i known
    split
    · exact .inl ⟨⟨_, rfl⟩, Loses.setStatus s _ _⟩
    · refine .inr ⟨rfl, ?_, ?_, ?_, rfl, rfl⟩
      · intro owner names
        rw [← isSome_owner?_iff]
        simpa [names, Option.filter, ← Option.isSome_iff_ne_none] using known
      · simp [Scheduler.roll, Scheduler.updateOwner]
      · simp only [Scheduler.books, Scheduler.updateOwner, List.map_map]
        apply List.map_congr_left
        intro o _
        by_cases own : request.owner = some o.id <;> simp [own]

theorem modify_loses (s : Scheduler κ π) (id : TaskId) (update : TaskUpdate κ π) :
    Loses [] s (s.modify id update).state := by
  unfold modify
  split
  · exact Loses.refl s
  · split
    · exact Loses.setStatus s _ _
    · split
      · exact Loses.setStatus s _ _
      · split
        · exact Loses.setStatus s _ _
        · split
          · exact Loses.setStatus s _ _
          · -- the change is to fields other than handle and owner
            refine Loses.trans (Loses.mapTasks s _ ?_ ?_) (Loses.setStatus _ _ _)
            · intro t
              split <;> rfl
            · intro t
              split <;> rfl

theorem markForRemoval_loses (s : Scheduler κ π) (id : TaskId) :
    Loses [] s (s.markForRemoval id).state := by
  unfold markForRemoval
  split
  · exact Loses.refl s
  · exact Loses.mark s id

/-! ## Ticks -/

theorem Balanced.unlink_loses {s : Scheduler κ π} (balanced : s.Balanced) (place : Nat) :
    ∃ gone, Loses gone s (s.unlink place) := by
  cases here : s.tasks[place]? with
  | none =>
    have same : s.unlink place = s := by simp [Scheduler.unlink, here]
    rw [same]
    exact ⟨[], Loses.refl s⟩
  | some task =>
    rw [balanced.unlink here]
    exact ⟨[task.id], Loses.without s _⟩

theorem Loses.fire {s : Scheduler κ π} {place : Nat} {task : Task κ π}
    (here : s.tasks[place]? = some task) (now : Instant) (reaction : Reaction κ π σ ε) :
    Loses [] s (s.fire place task now reaction) :=
  Loses.trans (Loses.replace s place task (ran task now reaction) here rfl rfl) (Loses.markAll _ _)

theorem Balanced.settle_loses {s : Scheduler κ π} (balanced : s.Balanced) (cursor : Nat)
    (world : World σ) (visit : Visit ε) :
    ∃ gone, Loses gone s (s.settle cursor world visit).scheduler := by
  unfold settle
  split
  · rename_i task here
    split
    · split
      · exact balanced.unlink_loses cursor
      · exact ⟨[], Loses.replace s cursor task _ here rfl rfl⟩
    · exact ⟨[], Loses.refl s⟩
  · exact ⟨[], Loses.refl s⟩

theorem Balanced.visit_loses {s : Scheduler κ π} (balanced : s.Balanced)
    (behavior : Behavior κ π σ ε) (now : Instant) {cursor : Nat} {task : Task κ π}
    (here : s.tasks[cursor]? = some task) (world : World σ) :
    ∃ gone, Loses gone s (visit behavior now cursor task s world).scheduler := by
  unfold visit
  split
  · exact balanced.unlink_loses cursor
  · split
    · generalize behavior task.callback ⟨task.id, task.name, now⟩ task.payload world = reaction
      have fired := Loses.fire here now reaction
      obtain ⟨gone, settled⟩ := (balanced.loses fired).settle_loses cursor reaction.world
        (.fired task.id task.name now world.clock reaction.output)
      exact ⟨[] ++ gone, fired.trans settled⟩
    · exact ⟨[], Loses.refl s⟩

/-- Whatever callbacks do, a walk only takes tasks away. -/
theorem Balanced.walk_loses {s : Scheduler κ π} (balanced : s.Balanced)
    (behavior : Behavior κ π σ ε) (now : Instant) (cursor : Nat) (world : World σ) :
    ∃ gone, Loses gone s (walk behavior now cursor s world).scheduler := by
  fun_induction walk behavior now cursor s world with
  | case1 cursor s world bound next ih =>
    obtain ⟨first, visited⟩ :=
      balanced.visit_loses behavior now (List.getElem?_eq_getElem bound) world
    obtain ⟨others, walked⟩ := ih (balanced.loses visited)
    exact ⟨first ++ others, visited.trans walked⟩
  | case2 cursor s world _ => exact ⟨[], Loses.refl s⟩

end Scheduler

end Backlog
