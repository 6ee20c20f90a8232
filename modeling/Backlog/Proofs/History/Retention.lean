import Backlog.Proofs.History.Archive

/-!
# What limits leave

`TargetLog.within` is what is to be left of some lines: of those that are young enough,
the last ones.  Its age is compared without bounds.  A log is trimmed to exactly that,
although the clock computes the cutoff within its range, and although the lines are not
looked at while the oldest timestamp is young.
-/

namespace Backlog

namespace Age

variable {age : Age} {now cutoff : Instant}

theorem isOlder_iff_lt (plain : ¬ now.IsLeap) (computed : age.cutoff? now = some cutoff)
    (t : Instant) : t.IsOlder now age.toNanos ↔ t < cutoff := by
  unfold cutoff? at computed
  split at computed
  · exact Instant.isOlder_iff_lt plain computed t
  · cases computed

/-- Where there is no cutoff, because the age is too long or the cutoff out of range,
    no instant is older. -/
theorem not_isOlder_of_cutoff?_eq_none (plain : ¬ now.IsLeap) (none : age.cutoff? now = none)
    (t : Instant) : ¬ t.IsOlder now age.toNanos := by
  unfold cutoff? at none
  split at none
  · exact Instant.not_isOlder_of_add?_eq_none plain none t
  · rename_i long
    apply Instant.not_isOlder_of_widest
    simp only [Clock.longestMillis, nanosPerMilli] at long
    simp only [Instant.widest, nanosPerSecond]
    omega

end Age

namespace TargetLog

/-- The last `most` of the lines that are no older than `age` at `now`. -/
def within (now : Instant) (most : Nat) (age : Age) (lines : List Line) : List Line :=
  Filter.lastOf most (lines.filter fun line => ¬ line.timestamp.IsOlder now age.toNanos)

theorem keptOf_cutoff? {now : Instant} (plain : ¬ now.IsLeap) (most : Nat) (age : Age)
    (lines : List Line) : keptOf (age.cutoff? now) most lines = within now most age lines := by
  unfold keptOf within
  congr 1
  cases computed : age.cutoff? now with
  | none =>
    -- no age limit is applied, and none would remove a line
    symm
    apply List.filter_eq_self.mpr
    intro line _
    simpa using Age.not_isOlder_of_cutoff?_eq_none plain computed line.timestamp
  | some cutoff =>
    apply List.filter_congr
    intro line _
    rw [Bool.eq_iff_iff]
    simp [Age.isOlder_iff_lt plain computed]

theorem length_within (now : Instant) (most : Nat) (age : Age) (lines : List Line) :
    (within now most age lines).length ≤ most := by
  rw [within, length_lastOf]
  exact Nat.min_le_left _ _

theorem not_isOlder_of_mem_within {now : Instant} {most : Nat} {age : Age} {lines : List Line}
    {line : Line} (member : line ∈ within now most age lines) :
    ¬ line.timestamp.IsOlder now age.toNanos := by
  simpa using (List.mem_filter.mp (List.mem_of_mem_drop member)).2

/-- While the oldest timestamp is not before the cutoff, no line is too old. -/
theorem Scanned.not_isOlder {l : TargetLog} (scanned : l.Scanned) {now cutoff : Instant} {age : Age}
    (plain : ¬ now.IsLeap) (computed : age.cutoff? now = some cutoff)
    (young : l.oldest.any (· < cutoff) = false) :
    ∀ line ∈ l.lines, ¬ line.timestamp.IsOlder now age.toNanos := by
  intro line member
  rw [Age.isOlder_iff_lt plain computed]
  rw [← scanned.youngIn_eq_lines young] at member
  simpa using (List.mem_filter.mp member).2

end TargetLog

namespace Archive

/-- In every archive that requests can reach, whatever limits a log is trimmed to, what is
    left are its lines within them, as they were and in their order, and the log is
    scanned.  Neither the cached oldest timestamp nor a cutoff that cannot be computed
    keeps a line from leaving. -/
theorem trim_leaves_within (hash : List UInt8 → Nat) (server : String) (buckets : Nat)
    (first : Instant) (requests : List Request) :
    let store := ((start hash server buckets first).after requests).store
    ∀ target log, store.get? target = some log → ∀ now, ¬ now.IsLeap → ∀ most age,
      (store.trim now target most age).answer = true ∧
        (store.trim now target most age).state.get? target =
          some (log.holding (TargetLog.within now most age log.lines)) ∧
        (∀ cutoff, age.cutoff? now = some cutoff → log.oldest.any (· < cutoff) = false →
          ∀ line ∈ log.lines, ¬ line.timestamp.IsOlder now age.toNanos) ∧
        (age.cutoff? now = none → ∀ line ∈ log.lines, ¬ line.timestamp.IsOlder now age.toNanos) := by
  intro store target log found now plain most age
  have scanned : log.Scanned :=
    scanned_after hash server buckets first requests log (TargetIndex.mem_toList_of_get? found)
  refine ⟨?_, ?_, ?_, ?_⟩
  · simp only [Store.trim, found]
  · have kept : (log.trim (age.cutoff? now) most).1 =
        log.holding (TargetLog.within now most age log.lines) := by
      rw [scanned.trim, TargetLog.keptOf_cutoff? plain]
    simp only [Store.trim, found, kept]
    exact TargetIndex.get?_replace found rfl
  · intro cutoff computed young
    exact scanned.not_isOlder plain computed young
  · intro none line _
    exact Age.not_isOlder_of_cutoff?_eq_none plain none line.timestamp

/-- Of two lines, a hundred seconds apart, an age of a minute leaves the second one. -/
theorem trim_leaves_within_minute :
    let later := Clock.atSecond 100
    let store := ((start (fun _ => 0) "relay.test" 4 Instant.epoch).after
      [.addLine "#lean" .empty "early", .turn later, .addLine "#LEAN" .empty "late"]).store
    ¬ later.IsLeap ∧
      (store.get? "#lean").map (·.lines.map (·.text)) = some ["early", "late"] ∧
      ((store.trim later "#lean" 5 (.ofSeconds 60)).state.get? "#lean").map
        (·.lines.map (·.text)) = some ["late"] := by
  intro later store
  have plain : ¬ later.IsLeap := by decide
  have held : (store.get? "#lean").map (·.lines.map (·.text)) = some ["early", "late"] := by
    decide +kernel
  have young : (store.get? "#lean").map
      (fun log => (TargetLog.within later 5 (.ofSeconds 60) log.lines).map (·.text)) =
        some ["late"] := by
    decide +kernel
  obtain ⟨log, found, left⟩ := Option.map_eq_some_iff.mp young
  obtain ⟨-, trimmed, -, -⟩ := trim_leaves_within (fun _ => 0) "relay.test" 4 Instant.epoch
    [.addLine "#lean" .empty "early", .turn later, .addLine "#LEAN" .empty "late"]
    "#lean" log found later plain 5 (.ofSeconds 60)
  refine ⟨plain, held, ?_⟩
  rw [trimmed]
  exact congrArg some left

end Archive

end Backlog
