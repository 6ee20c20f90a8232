import Backlog.Proofs.History.Archive
import Backlog.Proofs.History.Directory
import Backlog.Proofs.History.Selection

/-!
# What requests do to the directory

Every request to a store is a change of its directory, `Archive.Request.effect`, which
knows neither buckets nor hashes.  From that follows what a request does to the log of one
target: nothing, if it names another one, and otherwise something that only depends on
that log and the clock.
-/

namespace Backlog

/-! ## Logs keep their names -/

namespace TargetLog

theorem name_evictBefore (l : TargetLog) (cutoff : Instant) :
    (l.evictBefore cutoff).1.name = l.name := by
  unfold evictBefore
  split <;> rfl

theorem name_truncate (l : TargetLog) (most : Nat) : (l.truncate most).1.name = l.name := by
  simp only [truncate]
  split <;> rfl

@[simp] theorem name_trim (l : TargetLog) (cutoff : Option Instant) (most : Nat) :
    (l.trim cutoff most).1.name = l.name := by
  cases cutoff with
  | none => exact name_truncate l most
  | some cutoff => exact (name_truncate _ most).trans (name_evictBefore l cutoff)

end TargetLog

/-! ## Trimmed tables

The cutoff is any here: what the clock computes is not to be unfolded. -/

namespace TargetIndex

variable {x : TargetIndex}

theorem Proper.trim (proper : x.Proper) {target : String} {log : TargetLog}
    (found : x.get? target = some log) (cutoff : Option Instant) (most : Nat) :
    let trimmed := x.update target fun _ => (log.trim cutoff most).1
    trimmed.Proper ∧
      trimmed.directory = x.directory.update target fun l => (l.trim cutoff most).1 := by
  have named : ∀ l, x.get? target = some l → (log.trim cutoff most).1.name = l.name := by
    intro l same
    rw [TargetLog.name_trim, ← Option.some.inj (found.symm.trans same)]
  refine ⟨proper.update named, ?_⟩
  rw [proper.directory_update named]
  rw [proper.get?] at found
  simp only [Directory.update, found]

theorem Proper.trimAll (proper : x.Proper) (cutoff : Option Instant) (most : Nat) :
    let trimmed := x.map fun l => (l.trim cutoff most).1
    trimmed.Proper ∧ trimmed.directory = x.directory.map fun l => (l.trim cutoff most).1 := by
  have named : ∀ l : TargetLog, (l.trim cutoff most).1.name = l.name :=
    fun l => l.name_trim cutoff most
  exact ⟨proper.map named, x.directory_map named⟩

end TargetIndex

/-! ## Operations of the store -/

namespace Store

variable {s : Store}

/-- The logs of a store by the names of their targets. -/
def directory (s : Store) : Directory :=
  s.index.directory

theorem get?_eq_lookup (proper : s.index.Proper) (target : String) :
    s.get? target = s.directory.lookup target.toLower :=
  proper.get? target

theorem addLine_effect (proper : s.index.Proper) (now : Instant) (target : String) (tags : TagSet)
    (text : String) :
    let added := (s.addLine now target tags text).state
    added.index.Proper ∧ added.directory =
      (s.directory.ensure target).update target (·.append (Line.ofMessage tags text now).1) := by
  have made := proper.ensure target
  have named : ∀ l, (s.index.ensure target).1.get? target = some l →
      (l.append (Line.ofMessage tags text now).1).name = l.name := fun _ _ => rfl
  refine ⟨made.update named, ?_⟩
  rw [directory, directory, ← proper.directory_ensure, ← made.directory_update named]
  rfl

theorem trim_effect (proper : s.index.Proper) (now : Instant) (target : String) (most : Nat)
    (age : Age) :
    let trimmed := (s.trim now target most age).state
    trimmed.index.Proper ∧ trimmed.directory =
      s.directory.update target fun l => (l.trim (age.cutoff? now) most).1 := by
  cases found : s.get? target with
  | none =>
    simp only [trim, found]
    rw [get?_eq_lookup proper] at found
    exact ⟨proper, by rw [Directory.update, found]⟩
  | some log =>
    simp only [trim, found]
    exact proper.trim found (age.cutoff? now) most

theorem index_trimAll (s : Store) (now : Instant) (most : Nat) (age : Age) :
    (s.trimAll now most age).state.index =
      s.index.map fun l => (l.trim (age.cutoff? now) most).1 := rfl

theorem trimAll_effect (proper : s.index.Proper) (now : Instant) (most : Nat) (age : Age) :
    let trimmed := (s.trimAll now most age).state
    trimmed.index.Proper ∧ trimmed.directory =
      s.directory.map fun l => (l.trim (age.cutoff? now) most).1 := by
  simp only [directory, index_trimAll]
  exact proper.trimAll (age.cutoff? now) most

theorem server_trim (s : Store) (now : Instant) (target : String) (most : Nat) (age : Age) :
    (s.trim now target most age).state.server = s.server := by
  unfold trim
  split <;> rfl

theorem server_trimAll (s : Store) (now : Instant) (most : Nat) (age : Age) :
    (s.trimAll now most age).state.server = s.server := rfl

theorem get?_trim (proper : s.index.Proper) (now : Instant) (target : String) (most : Nat)
    (age : Age) :
    (s.trim now target most age).state.get? target =
      (s.get? target).map fun l => (l.trim (age.cutoff? now) most).1 := by
  obtain ⟨proper', directory⟩ := trim_effect proper now target most age
  rw [get?_eq_lookup proper', directory, get?_eq_lookup proper, Directory.lookup_update, if_pos rfl]

theorem get?_trimAll (proper : s.index.Proper) (now : Instant) (most : Nat) (age : Age)
    (target : String) :
    (s.trimAll now most age).state.get? target =
      (s.get? target).map fun l => (l.trim (age.cutoff? now) most).1 := by
  obtain ⟨proper', directory⟩ := trimAll_effect proper now most age
  rw [get?_eq_lookup proper', directory, get?_eq_lookup proper, Directory.lookup_map]

theorem destroy_effect (proper : s.index.Proper) (target : String) :
    let left := (s.destroy target).state
    left.index.Proper ∧ left.directory = s.directory.remove target := by
  obtain ⟨taken, left⟩ := proper.directory_remove target
  have kept := proper.remove target
  simp only [destroy]
  split
  · rename_i same
    -- nothing was taken, so the table is as it was
    rw [same] at taken left
    refine ⟨proper, ?_⟩
    cases found : s.index.get? target with
    | none =>
      rw [TargetIndex.remove_of_get?_none found] at same
      cases same
      exact left
    | some l =>
      rw [← proper.get?, found] at taken
      cases taken
  · rename_i log index same
    rw [same] at kept left
    exact ⟨kept, left⟩

theorem answer_trim (s : Store) (now : Instant) (target : String) (most : Nat) (age : Age) :
    (s.trim now target most age).answer = (s.get? target).isSome := by
  unfold trim
  split <;> simp [*]

theorem answer_destroy (proper : s.index.Proper) (target : String) :
    (s.destroy target).answer = (s.get? target).isSome := by
  obtain ⟨taken, -⟩ := proper.directory_remove target
  rw [get?_eq_lookup proper, directory, ← taken]
  unfold destroy
  split <;> simp [*]

theorem destroy_absent {target : String} (absent : s.get? target = none) :
    s.destroy target = ⟨s, false, []⟩ := by
  simp only [destroy, TargetIndex.remove_of_get?_none absent]

end Store

/-! ## Requests -/

namespace Archive

/-- What a request that is served at `now` does to the logs. -/
def Request.effect (now : Instant) (d : Directory) : Request → Directory
  | .addLine target tags text =>
    (d.ensure target).update target (·.append (Line.ofMessage tags text now).1)
  | .trim target most age => d.update target fun l => (l.trim (age.cutoff? now) most).1
  | .trimAll most age => d.map fun l => (l.trim (age.cutoff? now) most).1
  | .destroy target => d.remove target
  | .replay _ _ _ _ => d
  | .turn _ => d

theorem serve_effect {a : Archive} (proper : a.store.index.Proper) (request : Request) :
    (a.serve request).1.store.index.Proper ∧
      (a.serve request).1.store.directory = request.effect a.now a.store.directory := by
  cases request with
  | addLine target tags text => exact Store.addLine_effect proper a.now target tags text
  | trim target most age => exact Store.trim_effect proper a.now target most age
  | trimAll most age => exact Store.trimAll_effect proper a.now most age
  | destroy target => exact Store.destroy_effect proper target
  | replay id recipient target filter =>
    simp only [serve, Store.state_replay]
    exact ⟨proper, rfl⟩
  | turn now => exact ⟨proper, rfl⟩

theorem proper_start (hash : List UInt8 → Nat) (server : String) (buckets : Nat) (now : Instant) :
    (start hash server buckets now).store.index.Proper :=
  TargetIndex.Proper.empty hash buckets

theorem proper_after {a : Archive} (proper : a.store.index.Proper) (requests : List Request) :
    (a.after requests).store.index.Proper := by
  induction requests generalizing a with
  | nil => exact proper
  | cons request rest ih => exact ih (serve_effect proper request).1

theorem server_serve (a : Archive) (request : Request) :
    (a.serve request).1.store.server = a.store.server := by
  cases request with
  | addLine target tags text => rfl
  | trim target most age =>
    simp only [serve, Store.trim]
    split <;> rfl
  | trimAll most age => rfl
  | destroy target =>
    simp only [serve, Store.destroy]
    split <;> rfl
  | replay id recipient target filter => simp only [serve, Store.state_replay]
  | turn now => rfl

/-! ## One target among the others -/

/-- The target that a request names. -/
def Request.target? : Request → Option String
  | .addLine target _ _ | .trim target _ _ | .destroy target | .replay _ _ target _ => some target
  | .trimAll _ _ | .turn _ => none

/-- Whether a request names a target, in whatever case. -/
def Request.names (target : String) (request : Request) : Bool :=
  request.target?.any (·.toLower = target.toLower)

/-- Whether a request names no other target. -/
def Request.concerns (target : String) (request : Request) : Bool :=
  request.target?.all (·.toLower = target.toLower)

theorem Request.lookup_effect_of_other {target : String} {request : Request}
    (other : request.concerns target = false) (now : Instant) (d : Directory) :
    (request.effect now d).lookup target.toLower = d.lookup target.toLower := by
  cases request with
  | addLine name tags text =>
    have differs : target.toLower ≠ name.toLower := by
      simpa [concerns, target?, eq_comm] using other
    rw [effect, Directory.lookup_update, if_neg differs, Directory.lookup_ensure, if_neg differs]
  | trim name most age =>
    have differs : target.toLower ≠ name.toLower := by
      simpa [concerns, target?, eq_comm] using other
    rw [effect, Directory.lookup_update, if_neg differs]
  | trimAll most age => simp [concerns, target?] at other
  | destroy name =>
    have differs : target.toLower ≠ name.toLower := by
      simpa [concerns, target?, eq_comm] using other
    rw [effect, Directory.lookup_remove, if_neg differs]
  | replay id recipient name filter => rfl
  | turn now => rfl

/-- What a request does to a log depends on no other log. -/
theorem Request.lookup_effect_congr {key : String} {d d' : Directory}
    (same : d.lookup key = d'.lookup key) (request : Request) (now : Instant) :
    (request.effect now d).lookup key = (request.effect now d').lookup key := by
  cases request with
  | addLine name tags text =>
    simp only [effect, Directory.lookup_update, Directory.lookup_ensure, same]
  | trim name most age => simp only [effect, Directory.lookup_update, same]
  | trimAll most age => simp only [effect, Directory.lookup_map, same]
  | destroy name => simp only [effect, Directory.lookup_remove, same]
  | replay id recipient name filter => exact same
  | turn now => exact same

end Archive

end Backlog
