import Backlog.Proofs.History.Selection
import Backlog.Proofs.History.Sweep

/-!
# Filters and limits cut alike

A filter with a number of lines and of seconds and a limit of as many lines and of that age
find their cutoff each in its own way, and one keeps what is not before it where the other
removes what is.  They leave the same lines of every log and at every time, leap seconds and
cutoffs out of the range among them.  So a replay through the filter sends what a replay of
everything sends once the limits were applied.
-/

namespace Backlog

namespace Filter

/-- The filter for the last lines that are no older than some seconds. -/
def latest (lines seconds : Nat) : Filter :=
  { lastLines := some lines, lastSeconds := some seconds }

@[simp] theorem select_default (now : Instant) (lines : List Line) :
    ({} : Filter).select now lines = lines := by
  simp [select, accepts, cutoff?]

theorem accepts_latest (n seconds : Nat) (cutoff : Option Instant) (line : Line) :
    (latest n seconds).accepts cutoff line = !cutoff.any (line.timestamp < ·) := by
  simp [accepts, latest]

theorem select_latest (now : Instant) (n seconds : Nat) (lines : List Line) :
    (latest n seconds).select now lines =
      TargetLog.keptOf ((Age.ofSeconds seconds).cutoff? now) n lines := by
  -- one looks at the seconds, the other at their nanoseconds, and both find the same spans too long
  have computed : (latest n seconds).cutoff? now = (Age.ofSeconds seconds).cutoff? now :=
    now.secondsBefore?_eq_cutoff? seconds
  have accepts := funext (accepts_latest n seconds ((Age.ofSeconds seconds).cutoff? now))
  simp only [select, computed, accepts, TargetLog.keptOf]
  cases (Age.ofSeconds seconds).cutoff? now with
  | none => simp [latest]
  | some cutoff => simp [latest, TargetLog.youngIn]

end Filter

namespace Replay

/-- The lines that are replayed, out of all that a recipient is sent: without the lines around a
    batch, and without the tags by which they belong to it. -/
def payload (recipient : Recipient) (sent : List Sent) : List Sent :=
  if recipient.batch then sent.tail.dropLast.map Sent.bare else sent

theorem payload_send (server id target : String) (recipient : Recipient) (lines : List Line) :
    payload recipient (send server id target recipient lines) = lines.map plain := by
  cases batch : recipient.batch with
  | false => simp [payload, batch, send_plain]
  | true => simp [payload, batch, inner_send_batch, Function.comp_def, bare_framed]

end Replay

namespace Store

/-- What a replay answers is made of the lines that are selected. -/
theorem answer_replay (s : Store) (now : Instant) (id : String) (recipient : Recipient)
    (target : String) (filter : Filter) :
    (s.replay now id recipient target filter).answer =
      if recipient.serverTime then
        (((s.get? target).map fun log => filter.select now log.lines).map fun lines =>
          (lines.length, Replay.send s.server id target recipient lines)).getD (0, [])
      else (0, []) := by
  unfold replay
  cases s.get? target with
  | none => simp
  | some log => cases recipient.serverTime <;> rfl

/-- Where the same lines are selected, the same is sent, and in batches of other names the same
    lines. -/
theorem replay_congr {s s' : Store} {now now' : Instant} {target : String} {filter filter' : Filter}
    (served : s'.server = s.server)
    (selected : ((s'.get? target).map fun log => filter'.select now' log.lines) =
      (s.get? target).map fun log => filter.select now log.lines)
    (recipient : Recipient) (id : String) :
    (s'.replay now' id recipient target filter').answer =
        (s.replay now id recipient target filter).answer ∧
      ∀ id',
        Replay.payload recipient (s'.replay now' id' recipient target filter').answer.2 =
          Replay.payload recipient (s.replay now id recipient target filter).answer.2 := by
  simp only [answer_replay, selected, served, true_and]
  intro id'
  cases recipient.serverTime with
  | false => rfl
  | true => cases s.get? target <;> simp [Replay.payload_send]

/-- Whether one log is trimmed or all are, the log of the target is the same. -/
theorem get?_of_trimmed {s left : Store} (proper : s.index.Proper) {now : Instant} {target : String}
    {most : Nat} {age : Age}
    (either : left ∈ [(s.trim now target most age).state, (s.trimAll now most age).state]) :
    left.server = s.server ∧
      left.get? target = (s.get? target).map fun log => (log.trim (age.cutoff? now) most).1 := by
  rcases List.mem_cons.mp either with rfl | rest
  · exact ⟨s.server_trim now target most age, get?_trim proper now target most age⟩
  · rw [List.mem_singleton.mp rest]
    exact ⟨s.server_trimAll now most age, get?_trimAll proper now most age target⟩

-- the cutoff is any here: what the clock computes is not to be unfolded
theorem lines_of_trimmed {s left : Store} {target : String} {cutoff : Option Instant} {most : Nat}
    (scanned : s.index.Holds TargetLog.Scanned)
    (trims : left.get? target = (s.get? target).map fun log => (log.trim cutoff most).1) :
    (left.get? target).map (·.lines) =
      (s.get? target).map fun log => TargetLog.keptOf cutoff most log.lines := by
  rw [trims, Option.map_map]
  apply Option.map_congr
  intro log found
  exact (scanned log (TargetIndex.mem_toList_of_get? found)).lines_trim cutoff most

end Store

namespace Archive

/-- In every archive that requests can reach and at every time, a filter for the last `n` lines of
    some seconds selects of the log of a target the lines that are left, in their order, when the log
    is trimmed to `n` lines of that age, or all logs are.  A replay through the filter is what a
    replay of everything is after that, whenever it is, and has the same lines in a batch of another
    name. -/
theorem filters_and_limits_cut_alike (hash : List UInt8 → Nat) (server : String) (buckets : Nat)
    (first : Instant) (requests : List Request) (now : Instant) (target : String) (n seconds : Nat) :
    let store := ((start hash server buckets first).after requests).store
    let filter : Filter := { lastLines := some n, lastSeconds := some seconds }
    let trimmed := (store.trim now target n (.ofSeconds seconds)).state
    let swept := (store.trimAll now n (.ofSeconds seconds)).state
    ∀ left ∈ [trimmed, swept],
      ((left.get? target).map (·.lines) =
          (store.get? target).map fun log => filter.select now log.lines) ∧
        ∀ recipient later id,
          (left.replay later id recipient target {}).answer =
              (store.replay now id recipient target filter).answer ∧
            ∀ id',
              Replay.payload recipient (left.replay later id' recipient target {}).answer.2 =
                Replay.payload recipient (store.replay now id recipient target filter).answer.2 := by
  intro store filter trimmed swept left either
  have proper : store.index.Proper := proper_after (proper_start hash server buckets first) requests
  have scanned : store.index.Holds TargetLog.Scanned :=
    scanned_after hash server buckets first requests
  obtain ⟨served, trims⟩ := Store.get?_of_trimmed proper either
  have kept := Filter.select_latest now n seconds
  have selected : (left.get? target).map (·.lines) =
      (store.get? target).map fun log => filter.select now log.lines := by
    rw [Store.lines_of_trimmed scanned trims]
    simp only [filter, ← kept]
    rfl
  refine ⟨selected, ?_⟩
  intro recipient later id
  apply Store.replay_congr served
  simp only [Filter.select_default, selected]

/-- Lines that came with times a hundred, forty and thirty-nine seconds in.  A minute back from the
    first of these is the second one, which stays. -/
theorem filters_and_limits_cut_alike_minute :
    let arrive (second : Int) (text : String) : List Request :=
      [.turn (Clock.atSecond second), .addLine "#lean" .empty text]
    let now := Clock.atSecond 100
    let store := ((start (fun _ => 0) "relay.test" 4 Instant.epoch).after
      (arrive 100 "a" ++ arrive 40 "b" ++ arrive 39 "c")).store
    let trimmed := (store.trim now "#LEAN" 5 (.ofSeconds 60)).state
    let swept := (store.trimAll now 5 (.ofSeconds 60)).state
    swept ∈ [trimmed, swept] ∧
      (swept.get? "#LEAN").map (·.lines.map (·.text)) = some ["a", "b"] ∧
      (Replay.payload ⟨true, true⟩
          (swept.replay Instant.epoch "new" ⟨true, true⟩ "#LEAN" {}).answer.2).map (·.text) =
        ["a", "b"] := by
  intro arrive now store trimmed swept
  have either : swept ∈ [trimmed, swept] := List.mem_cons_of_mem _ List.mem_cons_self
  obtain ⟨lines, sends⟩ := filters_and_limits_cut_alike (fun _ => 0) "relay.test" 4 Instant.epoch
    (arrive 100 "a" ++ arrive 40 "b" ++ arrive 39 "c") now "#LEAN" 5 60 swept either
  have same := (sends ⟨true, true⟩ Instant.epoch "old").2 "new"
  refine ⟨either, ?_, ?_⟩
  · rw [← Function.comp_def, ← Option.map_map, lines]
    decide +kernel
  · rw [same]
    decide +kernel

end Archive

end Backlog
