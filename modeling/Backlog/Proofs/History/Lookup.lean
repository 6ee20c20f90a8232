import Backlog.Proofs.History.Directory
import Mathlib.Data.List.Induction

/-!
# A table answers as a finite map

A table of logs and a directory serve the same requests.  They give the same answers to any
list of them, so that no answer tells the number of buckets or the hash.  A name is found
when a log was made for it, in whatever case, since it was last removed; the log then has
the spelling that was used first.
-/

namespace Backlog

/-! ## Serving requests -/

section Serving

variable {S T R A : Type}

/-- The state after requests were served in order. -/
def servedState (serve : S → R → S × A) (first : S) (requests : List R) : S :=
  requests.foldl (fun s request => (serve s request).1) first

/-- The answers to requests that are served in order. -/
def servedAnswers (serve : S → R → S × A) (first : S) : List R → List A
  | [] => []
  | request :: rest => (serve first request).2 :: servedAnswers serve (serve first request).1 rest

/-- Where related states answer alike and stay related, they do so for any list of
    requests. -/
theorem served_of_related {serve : S → R → S × A} {serve' : T → R → T × A} {related : S → T → Prop}
    (step : ∀ s t request, related s t →
      related (serve s request).1 (serve' t request).1 ∧ (serve s request).2 = (serve' t request).2)
    {s : S} {t : T} (first : related s t) (requests : List R) :
    related (servedState serve s requests) (servedState serve' t requests) ∧
      servedAnswers serve s requests = servedAnswers serve' t requests := by
  induction requests generalizing s t with
  | nil => exact ⟨first, rfl⟩
  | cons request rest ih =>
    obtain ⟨next, same⟩ := step s t request first
    obtain ⟨last, others⟩ := ih next
    refine ⟨last, ?_⟩
    rw [servedAnswers, servedAnswers, same, others]

end Serving

namespace TargetIndex

/-- A change of a log that leaves its name as it is. -/
structure Change where
  run : TargetLog → TargetLog
  named : ∀ l, (run l).name = l.name

inductive Request where
  /-- Goes to the log of a name, which is made if there is none, and changes it. -/
  | ensure (name : String) (change : Change)
  | get (name : String)
  | update (name : String) (change : Change)
  | remove (name : String)
  /-- Goes through all logs and changes each. -/
  | map (change : Change)

/-- What the table says to it. -/
inductive Answer where
  /-- The log that was asked for, before it changes. -/
  | log (found : Option TargetLog)
  /-- All logs, in no particular order. -/
  | logs (all : Multiset TargetLog)

def serve (x : TargetIndex) : Request → TargetIndex × Answer
  | .ensure name change =>
    let made := (x.ensure name).1
    (made.update name change.run, .log (made.get? name))
  | .get name => (x, .log (x.get? name))
  | .update name change => (x.update name change.run, .log (x.get? name))
  | .remove name => ((x.remove name).2, .log (x.remove name).1)
  | .map change => (x.map change.run, .logs x.toList)

/-- The same request to a directory. -/
def serveDirectory (d : Directory) : Request → Directory × Answer
  | .ensure name change =>
    let made := d.ensure name
    (made.update name change.run, .log (made.lookup name.toLower))
  | .get name => (d, .log (d.lookup name.toLower))
  | .update name change => (d.update name change.run, .log (d.lookup name.toLower))
  | .remove name => (d.remove name, .log (d.lookup name.toLower))
  | .map change => (d.map change.run, .logs (d.entries.map (·.2)))

/-! ## Table and directory -/

/-- The table is proper and comes to the directory. -/
def Stands (x : TargetIndex) (d : Directory) : Prop :=
  x.Proper ∧ x.directory = d

theorem Proper.logs_directory {x : TargetIndex} (proper : x.Proper) :
    x.directory.entries.map (·.2) = x.toList := by
  rw [proper.entries_directory]
  simp [Function.comp_def]

theorem Stands.serve {x : TargetIndex} {d : Directory} (stands : Stands x d) (request : Request) :
    Stands (x.serve request).1 (serveDirectory d request).1 ∧
      (x.serve request).2 = (serveDirectory d request).2 := by
  obtain ⟨proper, rfl⟩ := stands
  cases request with
  | ensure name change =>
    have made := proper.ensure name
    have named : ∀ l, (x.ensure name).1.get? name = some l → (change.run l).name = l.name :=
      fun l _ => change.named l
    refine ⟨⟨made.update named, ?_⟩, ?_⟩
    · simp only [TargetIndex.serve, serveDirectory]
      rw [made.directory_update named, proper.directory_ensure]
    · simp only [TargetIndex.serve, serveDirectory]
      rw [made.get?, proper.directory_ensure]
  | get name =>
    refine ⟨⟨proper, rfl⟩, ?_⟩
    simp only [TargetIndex.serve, serveDirectory, proper.get?]
  | update name change =>
    have named : ∀ l, x.get? name = some l → (change.run l).name = l.name :=
      fun l _ => change.named l
    refine ⟨⟨proper.update named, proper.directory_update named⟩, ?_⟩
    simp only [TargetIndex.serve, serveDirectory, proper.get?]
  | remove name =>
    obtain ⟨taken, left⟩ := proper.directory_remove name
    refine ⟨⟨proper.remove name, left⟩, ?_⟩
    simp only [TargetIndex.serve, serveDirectory, taken]
  | map change =>
    refine ⟨⟨proper.map change.named, x.directory_map change.named⟩, ?_⟩
    simp only [TargetIndex.serve, serveDirectory, proper.logs_directory]

theorem served_stands (hash : List UInt8 → Nat) (buckets : Nat) (requests : List Request) :
    Stands (servedState serve (empty hash buckets) requests) (servedState serveDirectory ∅ requests) ∧
      servedAnswers serve (empty hash buckets) requests = servedAnswers serveDirectory ∅ requests := by
  have first : Stands (empty hash buckets) ∅ := ⟨Proper.empty hash buckets, directory_empty hash buckets⟩
  refine served_of_related ?_ first requests
  intro x d request stands
  exact stands.serve request

/-! ## Spellings -/

/-- The spelling of a name that a request makes a log for, if it has none. -/
def Request.makes? (name : String) : Request → Option String
  | .ensure other _ => if other.toLower = name.toLower then some other else none
  | _ => none

/-- Whether a request removes the log of a name. -/
def Request.removes (name : String) : Request → Bool
  | .remove other => other.toLower = name.toLower
  | _ => false

/-- The spelling that was used first to make a log for a name since it was last removed. -/
def spelling? (name : String) (requests : List Request) : Option String :=
  (requests.reverse.takeWhile (!·.removes name)).reverse.findSome? (·.makes? name)

theorem spelling?_append_singleton (name : String) (requests : List Request) (request : Request) :
    spelling? name (requests ++ [request]) =
      if request.removes name then none
      else (spelling? name requests).or (request.makes? name) := by
  unfold spelling?
  rw [List.reverse_append, List.reverse_singleton, List.singleton_append, List.takeWhile_cons]
  cases request.removes name with
  | true => rfl
  | false => simp [List.findSome?_append]

theorem spelled_serveDirectory (d : Directory) (name : String) (request : Request) :
    ((serveDirectory d request).1.lookup name.toLower).map (·.name) =
      if request.removes name then none
      else ((d.lookup name.toLower).map (·.name)).or (request.makes? name) := by
  cases request with
  | ensure other change =>
    simp only [serveDirectory, Request.removes, Request.makes?, Directory.lookup_update,
      Directory.lookup_ensure]
    by_cases own : name.toLower = other.toLower
    · cases found : d.lookup name.toLower with
      | none => simp [own, change.named, TargetLog.empty]
      | some l => simp [own, change.named]
    · simp [own, Ne.symm own]
  | get other => simp [serveDirectory, Request.removes, Request.makes?]
  | update other change =>
    simp only [serveDirectory, Request.removes, Request.makes?, Directory.lookup_update]
    split <;> simp [Function.comp_def, change.named]
  | remove other =>
    simp only [serveDirectory, Request.removes, Request.makes?, Directory.lookup_remove]
    by_cases own : name.toLower = other.toLower
    · simp [own]
    · simp [own, Ne.symm own]
  | map change =>
    simp [serveDirectory, Request.removes, Request.makes?, Directory.lookup_map, Function.comp_def,
      change.named]

theorem spelled_servedState (name : String) (requests : List Request) :
    ((servedState serveDirectory ∅ requests).lookup name.toLower).map (·.name) =
      spelling? name requests := by
  -- the last request decides, so the induction is from the end
  induction requests using List.reverseRecOn with
  | nil => rfl
  | append_singleton requests request ih =>
    have last : servedState serveDirectory ∅ (requests ++ [request]) =
        (serveDirectory (servedState serveDirectory ∅ requests) request).1 := by
      simp [servedState]
    rw [last, spelled_serveDirectory, spelling?_append_singleton, ih]

/-- A table answers any requests as a finite map from names in small letters does, with
    any number of buckets and any hash.  A name is found, or removed, when a log was made
    for it since its last removal, and the log has the spelling of then.  The number of
    logs is that of names, and going through all buckets comes once to each log. -/
theorem answers_as_directory (hash : List UInt8 → Nat) (buckets : Nat) (requests : List Request) :
    let x := servedState serve (empty hash buckets) requests
    let d := servedState serveDirectory ∅ requests
    servedAnswers serve (empty hash buckets) requests = servedAnswers serveDirectory ∅ requests ∧
      (∀ name, x.get? name = d.lookup name.toLower ∧ (x.remove name).1 = x.get? name ∧
        (x.get? name).map (·.name) = spelling? name requests) ∧
      x.size = d.keys.card ∧ x.toList.length = x.size ∧ x.toList.Nodup ∧
      (∀ l, l ∈ x.toList ↔ x.get? l.name = some l) ∧
      ∀ hash' buckets', servedAnswers serve (empty hash' buckets') requests =
        servedAnswers serve (empty hash buckets) requests := by
  intro x d
  obtain ⟨stands, answers⟩ := served_stands hash buckets requests
  obtain ⟨proper, directory⟩ : x.Proper ∧ x.directory = d := stands
  have lookups : ∀ name, x.get? name = d.lookup name.toLower := by
    intro name
    rw [proper.get?, directory]
  refine ⟨answers, ?_, ?_, ?_, ?_, ?_, ?_⟩
  · intro name
    refine ⟨lookups name, ?_, ?_⟩
    · rw [(proper.directory_remove name).1, proper.get?]
    · rw [lookups, spelled_servedState]
  · rw [← directory, proper.card_keys]
  · exact proper.counted.symm
  · exact proper.distinct.of_map _
  · intro l
    rw [proper.get?_eq_some_iff]
    simp
  · intro hash' buckets'
    rw [answers, (served_stands hash' buckets' requests).2]

end TargetIndex

end Backlog
