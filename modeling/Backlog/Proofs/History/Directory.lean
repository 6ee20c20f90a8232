import Backlog.Proofs.History.Chains
import Mathlib.Data.Finmap

/-!
# The table as a finite map

A `Directory` is what a table of logs comes to: a finite map from names in small letters to
logs.  `TargetIndex.directory` reads it off a table.  On proper tables each operation is
the operation of the same name on the directory, whatever the hash.
-/

namespace Backlog

/-- The logs of targets by their names in small letters. -/
abbrev Directory := Finmap fun _ : String => TargetLog

namespace Directory

/-- The directory with a log for a name, which is made if there is none. -/
def ensure (d : Directory) (name : String) : Directory :=
  match d.lookup name.toLower with
  | some _ => d
  | none => d.insert name.toLower (.empty name)

/-- Changes the log of a name, if there is one. -/
def update (d : Directory) (name : String) (f : TargetLog → TargetLog) : Directory :=
  match d.lookup name.toLower with
  | some log => d.insert name.toLower (f log)
  | none => d

/-- Takes the log of a name out. -/
def remove (d : Directory) (name : String) : Directory :=
  d.erase name.toLower

/-- Changes every log. -/
def map (d : Directory) (f : TargetLog → TargetLog) : Directory :=
  Finmap.keysLookupEquiv.symm
    ⟨(d.keys, fun key => (d.lookup key).map f), fun key => by
      rw [Option.isSome_map, Finmap.lookup_isSome, Finmap.mem_keys]⟩

variable (d : Directory) (name key : String) (f : TargetLog → TargetLog)

theorem lookup_ensure :
    (d.ensure name).lookup key =
      if key = name.toLower then some ((d.lookup key).getD (.empty name)) else d.lookup key := by
  unfold ensure
  split
  · rename_i log found
    split
    · rename_i own
      rw [own, found]
      rfl
    · rfl
  · rename_i absent
    split
    · rename_i own
      rw [own, absent, Finmap.lookup_insert]
      rfl
    · rename_i other
      rw [Finmap.lookup_insert_of_ne _ other]

theorem lookup_update :
    (d.update name f).lookup key =
      if key = name.toLower then (d.lookup key).map f else d.lookup key := by
  unfold update
  split
  · rename_i log found
    split
    · rename_i own
      rw [own, found, Finmap.lookup_insert]
      rfl
    · rename_i other
      rw [Finmap.lookup_insert_of_ne _ other]
  · rename_i absent
    split
    · rename_i own
      rw [own, absent]
      rfl
    · rfl

theorem lookup_remove :
    (d.remove name).lookup key = if key = name.toLower then none else d.lookup key := by
  unfold remove
  split
  · rename_i own
    rw [own, Finmap.lookup_erase]
  · rename_i other
    rw [Finmap.lookup_erase_ne other]

theorem lookup_map : (d.map f).lookup key = (d.lookup key).map f := by
  simp [map]

end Directory

namespace TargetIndex

variable {x : TargetIndex} {name : String} {f : TargetLog → TargetLog}

/-- What the table comes to. -/
def directory (x : TargetIndex) : Directory :=
  (x.toList.map fun l => (⟨l.name.toLower, l⟩ : (_ : String) × TargetLog)).toFinmap

theorem lookup_directory (x : TargetIndex) (key : String) :
    x.directory.lookup key = x.toList.find? (·.name.toLower = key) := by
  rw [directory, Finmap.dlookup_list_toFinmap]
  induction x.toList with
  | nil => rfl
  | cons l rest ih =>
    rw [find?_cons, List.map_cons]
    split
    · rename_i own
      rw [own, List.dlookup_cons_eq]
    · rename_i other
      rw [List.dlookup_cons_ne _ _ other, ih]

/-- Looking in one bucket finds what is there in all of them. -/
theorem Proper.get? (proper : x.Proper) (name : String) :
    x.get? name = x.directory.lookup name.toLower := by
  ext l
  rw [proper.get?_eq_some_iff, lookup_directory, find?_key_eq_some_iff proper.distinct]

theorem Proper.entries_directory (proper : x.Proper) :
    x.directory.entries = x.toList.map fun l => (⟨l.name.toLower, l⟩ : (_ : String) × TargetLog) := by
  have nodup : (x.toList.map fun l => (⟨l.name.toLower, l⟩ : (_ : String) × TargetLog)).Nodup := by
    apply List.Nodup.of_map Sigma.fst
    simpa [Function.comp_def] using proper.distinct
  rw [Multiset.Nodup.ext x.directory.nodup_entries (Multiset.coe_nodup.mpr nodup)]
  rintro ⟨key, l⟩
  rw [← Finmap.lookup_eq_some_iff, lookup_directory, find?_key_eq_some_iff proper.distinct]
  simp [and_comm, eq_comm]

theorem Proper.card_keys (proper : x.Proper) : x.directory.keys.card = x.size := by
  have entries : x.directory.keys.card = x.directory.entries.card := by
    simp [Finmap.keys, Multiset.keys]
  rw [entries, proper.entries_directory, Multiset.coe_card, List.length_map, size, proper.counted]

/-! ## Operations on the directory -/

theorem directory_empty (hash : List UInt8 → Nat) (buckets : Nat) :
    (empty hash buckets).directory = ∅ := by
  apply Finmap.ext_lookup
  intro key
  simp [lookup_directory, TargetIndex.empty, toList]

theorem Proper.directory_ensure (proper : x.Proper) (name : String) :
    (x.ensure name).1.directory = x.directory.ensure name := by
  apply Finmap.ext_lookup
  intro key
  rw [Directory.lookup_ensure]
  cases found : x.get? name with
  | some l =>
    have found' := found
    rw [proper.get?] at found'
    simp only [TargetIndex.ensure, found]
    split
    · rename_i own
      rw [own, found']
      rfl
    · rfl
  | none =>
    have found' := found
    rw [proper.get?] at found'
    rw [lookup_directory, find?_eq_of_perm (ensure_perm found) (proper.ensure name).distinct,
      find?_cons, ← lookup_directory]
    -- the log that is made stands before all others
    change (if key = name.toLower then some (TargetLog.empty name) else _) = _
    split
    · rename_i own
      rw [own, found']
      rfl
    · rfl

theorem Proper.directory_update (proper : x.Proper)
    (named : ∀ l, x.get? name = some l → (f l).name = l.name) :
    (x.update name f).directory = x.directory.update name f := by
  apply Finmap.ext_lookup
  intro key
  rw [Directory.lookup_update]
  cases found : x.get? name with
  | none =>
    have found' := found
    rw [proper.get?] at found'
    rw [update_of_get?_none found]
    split
    · rename_i own
      rw [own, found']
      rfl
    · rfl
  | some l =>
    obtain ⟨others, all, changed⟩ := update_perm (f := f) found
    obtain ⟨-, named'⟩ := proper.get?_eq_some_iff.mp found
    rw [lookup_directory, lookup_directory, find?_eq_of_perm changed (proper.update named).distinct,
      find?_eq_of_perm all proper.distinct, find?_cons, find?_cons, named l found, named']
    split <;> rfl

theorem Proper.directory_remove (proper : x.Proper) (name : String) :
    (x.remove name).1 = x.directory.lookup name.toLower ∧
      (x.remove name).2.directory = x.directory.remove name := by
  cases found : x.get? name with
  | none =>
    rw [remove_of_get?_none found, ← proper.get?, found]
    refine ⟨rfl, ?_⟩
    apply Finmap.ext_lookup
    intro key
    rw [Directory.lookup_remove]
    split
    · rename_i own
      rw [own, ← proper.get?, found]
    · rfl
  | some l =>
    obtain ⟨taken, -, perm⟩ := remove_perm found
    obtain ⟨-, named⟩ := proper.get?_eq_some_iff.mp found
    refine ⟨by rw [taken, ← proper.get?, found], ?_⟩
    apply Finmap.ext_lookup
    intro key
    rw [Directory.lookup_remove, lookup_directory]
    split
    · -- no other log has the name
      rename_i own
      rw [List.find?_eq_none]
      intro other member
      have distinct := (perm.map (·.name.toLower)).nodup_iff.mp proper.distinct
      have absent : l.name.toLower ∉ (x.remove name).2.toList.map (·.name.toLower) :=
        (List.nodup_cons.mp distinct).1
      have differs : other.name.toLower ≠ key := by
        rw [own, ← named]
        intro same
        exact absent (same ▸ List.mem_map_of_mem (f := (·.name.toLower)) member)
      simpa using differs
    · rename_i other
      rw [lookup_directory, find?_eq_of_perm perm proper.distinct, find?_cons, named, if_neg other]

theorem directory_map (x : TargetIndex) (named : ∀ l, (f l).name = l.name) :
    (x.map f).directory = x.directory.map f := by
  apply Finmap.ext_lookup
  intro key
  have same : (fun l : TargetLog => decide (l.name.toLower = key)) ∘ f =
      fun l => decide (l.name.toLower = key) := by
    funext l
    rw [Function.comp_apply, named]
  rw [Directory.lookup_map, lookup_directory, lookup_directory, toList_map, List.find?_map, same]

end TargetIndex

end Backlog
