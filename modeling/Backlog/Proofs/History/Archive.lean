import Backlog.History.Store
import Backlog.Proofs.History.Cache
import Backlog.Proofs.History.Index

/-!
# Stores at work

An `Archive` is a store with the clock that it reads.  It serves requests one after the
other, and the clock is set as it may please anyone.  Whatever the operations on a
single log preserve holds of every log of every archive; so the number and the oldest
timestamp that logs keep are always what a scan of their lines finds.
-/

namespace Backlog

/-- A store with its clock. -/
structure Archive where
  store : Store
  now : Instant

namespace Archive

/-- What can be asked of a store. -/
inductive Request where
  | addLine (target : String) (tags : TagSet) (text : String)
  | trim (target : String) (mostLines : Nat) (maxAge : Age)
  | trimAll (mostLines : Nat) (maxAge : Age)
  | destroy (target : String)
  | replay (batchId : String) (recipient : Recipient) (target : String) (filter : Filter)
  /-- Nothing is asked: the clock is set. -/
  | turn (now : Instant)

/-- What the store says to it. -/
inductive Answer where
  | added
  | trimmed (found : Bool)
  | trimmedAll (lines : Nat)
  | destroyed (found : Bool)
  | replayed (lines : Nat) (sent : List Sent)
  | turned

/-- A new store. -/
def start (hash : List UInt8 → Nat) (server : String) (buckets : Nat) (now : Instant) : Archive :=
  ⟨.empty hash server buckets, now⟩

/-- Serves a request. -/
def serve (a : Archive) : Request → Archive × Answer
  | .addLine target tags text =>
    ({ a with store := (a.store.addLine a.now target tags text).state }, .added)
  | .trim target mostLines maxAge =>
    let done := a.store.trim a.now target mostLines maxAge
    ({ a with store := done.state }, .trimmed done.answer)
  | .trimAll mostLines maxAge =>
    let done := a.store.trimAll a.now mostLines maxAge
    ({ a with store := done.state }, .trimmedAll done.answer)
  | .destroy target =>
    let done := a.store.destroy target
    ({ a with store := done.state }, .destroyed done.answer)
  | .replay batchId recipient target filter =>
    let done := a.store.replay a.now batchId recipient target filter
    ({ a with store := done.state }, .replayed done.answer.1 done.answer.2)
  | .turn now => ({ a with now }, .turned)

/-- The archive after requests were served in order. -/
def after (a : Archive) (requests : List Request) : Archive :=
  requests.foldl (fun a request => (a.serve request).1) a

/-! ## What holds of every log -/

/-- What single logs keep when lines are added and limits applied, the logs of a store
    keep when a request is served. -/
theorem holds_serve {P : TargetLog → Prop} {a : Archive} (holds : a.store.index.Holds P)
    (made : ∀ name, P (.empty name))
    (appended : ∀ l tags text now, P l → P (l.append (Line.ofMessage tags text now).1))
    (trimmed : ∀ l cutoff most, P l → P (l.trim cutoff most).1) (request : Request) :
    (a.serve request).1.store.index.Holds P := by
  cases request with
  | addLine target tags text =>
    simp only [serve, Store.addLine]
    refine (holds.ensure (made target)).update ?_
    intro l _ before
    exact appended l tags text a.now before
  | trim target most age =>
    -- an unknown target is told by the answer, and no log is made for it
    simp only [serve, Store.trim]
    cases found : a.store.get? target with
    | none => exact holds
    | some log =>
      refine holds.update ?_
      intro _ _ _
      exact trimmed log _ most (holds log (TargetIndex.mem_toList_of_get? found))
  | trimAll most age =>
    simp only [serve, Store.trimAll]
    exact holds.map fun l before => trimmed l _ most before
  | destroy target =>
    have removed := holds.remove target
    simp only [serve, Store.destroy]
    split
    · exact holds
    · rename_i log index found
      rw [found] at removed
      exact removed
  | replay batchId recipient target filter =>
    simp only [serve, Store.replay]
    split
    · exact holds
    · split
      · exact holds
      · exact holds
  | turn now => exact holds

theorem holds_after {P : TargetLog → Prop} {a : Archive} (holds : a.store.index.Holds P)
    (made : ∀ name, P (.empty name))
    (appended : ∀ l tags text now, P l → P (l.append (Line.ofMessage tags text now).1))
    (trimmed : ∀ l cutoff most, P l → P (l.trim cutoff most).1) (requests : List Request) :
    (a.after requests).store.index.Holds P := by
  induction requests generalizing a with
  | nil => exact holds
  | cons request rest ih => exact ih (holds_serve holds made appended trimmed request)

theorem scanned_serve {a : Archive} (scanned : a.store.index.Holds TargetLog.Scanned)
    (request : Request) : (a.serve request).1.store.index.Holds TargetLog.Scanned :=
  holds_serve scanned TargetLog.scanned_empty (fun _ _ _ _ scanned => scanned.scanned_append _)
    (fun _ cutoff most scanned => scanned.scanned_trim cutoff most) request

theorem scanned_after (hash : List UInt8 → Nat) (server : String) (buckets : Nat) (now : Instant)
    (requests : List Request) :
    ((start hash server buckets now).after requests).store.index.Holds TargetLog.Scanned :=
  holds_after (TargetIndex.holds_empty _ hash buckets) TargetLog.scanned_empty
    (fun _ _ _ _ scanned => scanned.scanned_append _)
    (fun _ cutoff most scanned => scanned.scanned_trim cutoff most) requests

/-- In every archive that requests can reach, with the clock set to whatever order of
    times, a log's number of lines and its oldest timestamp are those of the lines in it,
    and so are all answers that are made of them. -/
theorem counts_and_oldest_are_scanned (hash : List UInt8 → Nat) (server : String) (buckets : Nat)
    (now : Instant) (requests : List Request) :
    let store := ((start hash server buckets now).after requests).store
    (∀ log ∈ store.index.toList,
      log.count = log.lines.length ∧
        (∀ t, log.oldest = some t ↔
          (∃ line ∈ log.lines, line.timestamp = t) ∧ ∀ line ∈ log.lines, t ≤ line.timestamp) ∧
        (log.oldest = none ↔ log.lines = []) ∧
        log.size = log.lines.length ∧ (log.isEmpty = true ↔ log.lines = [])) ∧
      (∀ target,
        store.lineCount target = ((store.get? target).map (·.lines.length)).getD 0 ∧
          store.oldest? target = (store.get? target).bind (·.timestamps.min?)) ∧
      store.totalLines = (store.index.toList.map (·.lines.length)).sum := by
  intro store
  have scanned : store.index.Holds TargetLog.Scanned := scanned_after hash server buckets now requests
  refine ⟨?_, ?_, ?_⟩
  · intro log member
    have one := scanned log member
    exact ⟨one.count, one.oldest_eq_some_iff, one.oldest_eq_none_iff, one.count, one.isEmpty_iff⟩
  · intro target
    cases found : store.get? target with
    | none => simp [Store.lineCount, Store.oldest?, found]
    | some log =>
      obtain ⟨count, oldest⟩ := scanned log (TargetIndex.mem_toList_of_get? found)
      constructor
      · simp only [Store.lineCount, found, Option.map_some, Option.getD_some]
        exact count
      · simp only [Store.oldest?, found, Option.bind_some]
        exact oldest
  · rw [Store.totalLines, TargetIndex.tally_eq_sum]
    congr 1
    apply List.map_congr_left
    intro log member
    exact (scanned log member).count

end Archive

end Backlog
