import Backlog.History.Filter
import Backlog.History.TargetLog
import Backlog.Proofs.Time.Order

/-!
# The number and the oldest timestamp beside the lines

A log is `Scanned` when what it keeps beside its lines is what a scan of them finds.
Every operation on a log then comes to choosing lines: its outcome is
`TargetLog.holding` the chosen ones, with both facts about them right again.
-/

namespace Backlog

namespace TargetLog

/-- The timestamps in order of arrival. -/
def timestamps (l : TargetLog) : List Instant :=
  l.lines.map (·.timestamp)

/-- What is kept beside the lines is what a scan of them finds. -/
structure Scanned (l : TargetLog) : Prop where
  count : l.count = l.lines.length
  oldest : l.oldest = l.timestamps.min?

/-- The log with other lines, scanned. -/
def holding (l : TargetLog) (lines : List Line) : TargetLog :=
  ⟨l.name, lines, lines.length, (lines.map (·.timestamp)).min?⟩

theorem scanned_empty (name : String) : (empty name).Scanned := by
  constructor <;> rfl

theorem scanned_holding (l : TargetLog) (lines : List Line) : (l.holding lines).Scanned := by
  constructor <;> rfl

theorem Scanned.holding_lines {l : TargetLog} (scanned : l.Scanned) : l.holding l.lines = l := by
  obtain ⟨count, oldest⟩ := scanned
  rw [holding, ← count]
  change (⟨l.name, l.lines, l.count, l.timestamps.min?⟩ : TargetLog) = l
  rw [← oldest]

@[simp] theorem holding_holding (l : TargetLog) (first second : List Line) :
    (l.holding first).holding second = l.holding second := rfl

/-! ## The oldest timestamp -/

theorem earlier_some (oldest t : Instant) : earlier (some oldest) t = some (min oldest t) := by
  rw [earlier, min_def]
  by_cases before : t < oldest
  · rw [if_pos before, if_neg (not_le_of_gt before)]
  · rw [if_neg before, if_pos (Instant.not_lt.mp before)]

theorem foldl_earlier_some (lines : List Line) (oldest : Instant) :
    lines.foldl (fun oldest line => earlier oldest line.timestamp) (some oldest) =
      some ((lines.map (·.timestamp)).foldl min oldest) := by
  induction lines generalizing oldest with
  | nil => rfl
  | cons line rest ih =>
    rw [List.foldl_cons, earlier_some, ih]
    rfl

theorem oldestOf_eq_min? (lines : List Line) :
    oldestOf lines = (lines.map (·.timestamp)).min? := by
  cases lines with
  | nil => rfl
  | cons line rest => exact foldl_earlier_some rest line.timestamp

theorem oldestOf_append_singleton (lines : List Line) (line : Line) :
    oldestOf (lines ++ [line]) = earlier (oldestOf lines) line.timestamp := by
  simp [oldestOf]

theorem Scanned.oldest_eq_some_iff {l : TargetLog} (scanned : l.Scanned) (t : Instant) :
    l.oldest = some t ↔
      (∃ line ∈ l.lines, line.timestamp = t) ∧ ∀ line ∈ l.lines, t ≤ line.timestamp := by
  rw [scanned.oldest, timestamps, List.min?_eq_some_iff]
  simp

theorem Scanned.oldest_eq_none_iff {l : TargetLog} (scanned : l.Scanned) :
    l.oldest = none ↔ l.lines = [] := by
  rw [scanned.oldest, timestamps, List.min?_eq_none_iff, List.map_eq_nil_iff]

theorem Scanned.isEmpty_iff {l : TargetLog} (scanned : l.Scanned) :
    l.isEmpty = true ↔ l.lines = [] := by
  rw [isEmpty, scanned.count, beq_iff_eq, List.length_eq_zero_iff]

/-! ## Operations -/

theorem Scanned.append {l : TargetLog} (scanned : l.Scanned) (line : Line) :
    l.append line = l.holding (l.lines ++ [line]) := by
  have oldest : earlier l.oldest line.timestamp = ((l.lines ++ [line]).map (·.timestamp)).min? := by
    rw [← oldestOf_eq_min?, oldestOf_append_singleton, oldestOf_eq_min?, scanned.oldest, timestamps]
  rw [TargetLog.append, holding, oldest, scanned.count, List.length_append, List.length_singleton]

/-- The lines that an age limit leaves. -/
def youngIn (cutoff : Instant) (lines : List Line) : List Line :=
  lines.filter fun line => !decide (line.timestamp < cutoff)

/-- Where the oldest timestamp is not before the cutoff, none is. -/
theorem Scanned.youngIn_eq_lines {l : TargetLog} (scanned : l.Scanned) {cutoff : Instant}
    (young : l.oldest.any (· < cutoff) = false) : youngIn cutoff l.lines = l.lines := by
  apply List.filter_eq_self.mpr
  intro line member
  cases found : l.oldest with
  | none =>
    rw [scanned.oldest_eq_none_iff] at found
    rw [found] at member
    cases member
  | some oldest =>
    obtain ⟨-, least⟩ := (scanned.oldest_eq_some_iff oldest).mp found
    -- every line is at least as late as the oldest timestamp
    have notBefore : ¬ oldest < cutoff := by simpa [found] using young
    have later : cutoff ≤ line.timestamp := le_trans (not_lt.mp notBefore) (least line member)
    simpa using later

theorem Scanned.evictBefore {l : TargetLog} (scanned : l.Scanned) (cutoff : Instant) :
    l.evictBefore cutoff =
      (l.holding (youngIn cutoff l.lines), l.lines.length - (youngIn cutoff l.lines).length) := by
  unfold TargetLog.evictBefore
  split
  · simp only [oldestOf_eq_min?]
    rfl
  · rename_i young
    rw [scanned.youngIn_eq_lines (by simpa using young), scanned.holding_lines, Nat.sub_self]

/-- The loop takes off what is above the limit and no more, when the count is right. -/
theorem unlinkOver_length (most : Nat) (lines : List Line) :
    unlinkOver most lines lines.length =
      (Filter.lastOf most lines, (Filter.lastOf most lines).length, lines.length - most) := by
  induction lines with
  | nil => simp [unlinkOver, Filter.lastOf]
  | cons line rest ih =>
    unfold unlinkOver
    split
    · rename_i above
      rw [List.length_cons] at above
      have excess : rest.length + 1 - most = rest.length - most + 1 := by omega
      simp only [List.length_cons, Nat.add_sub_cancel, ih, Filter.lastOf, excess, List.drop_succ_cons]
    · rename_i few
      have none : (line :: rest).length - most = 0 := by omega
      simp only [Filter.lastOf, none, List.drop_zero]

theorem Scanned.truncate {l : TargetLog} (scanned : l.Scanned) (most : Nat) :
    l.truncate most = (l.holding (Filter.lastOf most l.lines), l.lines.length - most) := by
  simp only [TargetLog.truncate, scanned.count, unlinkOver_length]
  split
  · rename_i few
    rw [Filter.lastOf, few, List.drop_zero, scanned.holding_lines]
  · simp only [oldestOf_eq_min?]
    rfl

/-- The lines that both limits leave. -/
def keptOf (cutoff : Option Instant) (most : Nat) (lines : List Line) : List Line :=
  Filter.lastOf most ((cutoff.map (youngIn · lines)).getD lines)

theorem length_lastOf {α : Type} (n : Nat) (xs : List α) :
    (Filter.lastOf n xs).length = min n xs.length := by
  rw [Filter.lastOf, List.length_drop]
  omega

theorem Scanned.trim {l : TargetLog} (scanned : l.Scanned) (cutoff : Option Instant) (most : Nat) :
    l.trim cutoff most =
      (l.holding (keptOf cutoff most l.lines),
        l.lines.length - (keptOf cutoff most l.lines).length) := by
  cases cutoff with
  | none =>
    simp only [TargetLog.trim, Option.map_none, Option.getD_none, scanned.truncate, keptOf,
      length_lastOf, Prod.mk.injEq, true_and]
    omega
  | some cutoff =>
    -- what both limits remove adds up to what is gone
    have fewer : (youngIn cutoff l.lines).length ≤ l.lines.length := List.length_filter_le _ _
    have young := scanned_holding l (youngIn cutoff l.lines)
    simp only [TargetLog.trim, Option.map_some, Option.getD_some, scanned.evictBefore,
      young.truncate, keptOf, length_lastOf, holding_holding]
    simp only [holding, Prod.mk.injEq, true_and]
    omega

theorem Scanned.lines_trim {l : TargetLog} (scanned : l.Scanned) (cutoff : Option Instant)
    (most : Nat) : (l.trim cutoff most).1.lines = keptOf cutoff most l.lines := by
  rw [scanned.trim, TargetLog.holding]

theorem Scanned.scanned_append {l : TargetLog} (scanned : l.Scanned) (line : Line) :
    (l.append line).Scanned := by
  rw [scanned.append]
  exact scanned_holding l _

theorem Scanned.scanned_trim {l : TargetLog} (scanned : l.Scanned) (cutoff : Option Instant)
    (most : Nat) : (l.trim cutoff most).1.Scanned := by
  rw [scanned.trim]
  exact scanned_holding l _

end TargetLog

end Backlog
