import Backlog.History.TargetLog
import Backlog.Text.CaseFold

/-!
# The index of targets

Logs in a hash table of a fixed number of buckets, by the name of their target up
to ASCII case.  The hash of a name's bytes is given to the table when it is made,
so that nobody who picks names can know which of them share a bucket; no answer
depends on it.
-/

namespace Backlog

open Backlog.Text

/-- A hash table of logs with at least one bucket. -/
structure TargetIndex where
  hash : List UInt8 → Nat
  buckets : Array (List TargetLog)
  /-- The number of logs in all buckets. -/
  count : Nat
  size_pos : 0 < buckets.size

namespace TargetIndex

/-- How many buckets a table has if nobody says. -/
def usualBuckets : Nat := 1019

/-- A table without logs.  It has one bucket at least. -/
def empty (hash : List UInt8 → Nat) (buckets : Nat) : TargetIndex where
  hash
  buckets := Array.replicate (max buckets 1) []
  count := 0
  size_pos := by rw [Array.size_replicate]; omega

/-- The bucket of a name. -/
def slot (x : TargetIndex) (name : String) : Nat :=
  x.hash (foldCase name) % x.buckets.size

theorem slot_lt (x : TargetIndex) (name : String) : x.slot name < x.buckets.size :=
  Nat.mod_lt _ x.size_pos

/-- The logs in the bucket of a name. -/
def chain (x : TargetIndex) (name : String) : List TargetLog :=
  have := x.slot_lt name
  x.buckets[x.slot name]

/-- The table with another content in the bucket of a name. -/
def setChain (x : TargetIndex) (name : String) (chain : List TargetLog) (count : Nat) :
    TargetIndex where
  hash := x.hash
  buckets := x.buckets.set (x.slot name) chain (x.slot_lt name)
  count
  size_pos := by simpa using x.size_pos

/-- Whether a log is that of a name. -/
def isOf (name : String) (l : TargetLog) : Bool :=
  sameName l.name name

/-- The log of a name. -/
def get? (x : TargetIndex) (name : String) : Option TargetLog :=
  (x.chain name).find? (isOf name)

/-- The first log of a chain that has a name, changed. -/
def updateFirst (name : String) (f : TargetLog → TargetLog) : List TargetLog → List TargetLog
  | [] => []
  | l :: rest => if isOf name l then f l :: rest else l :: updateFirst name f rest

/-- Changes the log of a name, if there is one. -/
def update (x : TargetIndex) (name : String) (f : TargetLog → TargetLog) : TargetIndex :=
  x.setChain name (updateFirst name f (x.chain name)) x.count

/-- The table with a log for a name, which is made if there is none, and what the
    log book says of it. -/
def ensure (x : TargetIndex) (name : String) : TargetIndex × List Event :=
  match x.get? name with
  | some _ => (x, [])
  | none =>
    (x.setChain name (x.chain name ++ [TargetLog.empty name]) (x.count + 1), [.targetCreated name])

/-- The list without the item at `place`, where the last item takes its place. -/
def swapRemove (chain : List TargetLog) (place : Nat) : List TargetLog :=
  match chain.getLast? with
  | none => []
  | some last => (chain.set place last).dropLast

/-- Takes the log of a name out of the table. -/
def remove (x : TargetIndex) (name : String) : Option TargetLog × TargetIndex :=
  match (x.chain name).findIdx? (isOf name) with
  | none => (none, x)
  | some place =>
    (x.get? name, x.setChain name (swapRemove (x.chain name) place) (x.count - 1))

/-- How many logs there are. -/
def size (x : TargetIndex) : Nat := x.count

/-- Whether there are none. -/
def isEmpty (x : TargetIndex) : Bool := x.count == 0

/-- All logs, bucket by bucket. -/
def toList (x : TargetIndex) : List TargetLog :=
  x.buckets.toList.flatten

/-- A number of each log, summed up. -/
def tally (x : TargetIndex) (number : TargetLog → Nat) : Nat :=
  x.toList.foldr (fun log total => number log + total) 0

/-- Changes every log. -/
def map (x : TargetIndex) (f : TargetLog → TargetLog) : TargetIndex where
  hash := x.hash
  buckets := x.buckets.map (List.map f)
  count := x.count
  size_pos := by simpa using x.size_pos

end TargetIndex

/-! ## A hash -/

/-- A hash of bytes with a key: a polynomial in 64-bit words. -/
def keyedHash (key : UInt64) (bytes : List UInt8) : Nat :=
  (bytes.foldl (fun h b => (h ^^^ b.toUInt64) * 1099511628211) (key ^^^ 14695981039346656037)).toNat

end Backlog
