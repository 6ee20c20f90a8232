import Backlog.Proofs.History.Provenance

/-!
# The last lines and the newest

A limit on the number of lines takes off those that arrived first.  They are the oldest as long as
lines arrive in the order of their timestamps.  Where one arrives late, there is a limit that takes
off a line and leaves an older one that came after it.
-/

namespace Backlog

/-- The longest age is no limit. -/
theorem Age.cutoff?_longest (now : Instant) : Age.longest.cutoff? now = none :=
  if_neg (by decide)

namespace TargetLog

/-- The timestamps do not go back along the lines. -/
def Chronological (lines : List Line) : Prop :=
  lines.Pairwise (·.timestamp ≤ ·.timestamp)

/-- No line of `gone` is newer than one of `left`. -/
def NoneNewer (gone left : List Line) : Prop :=
  ∀ line ∈ gone, ∀ other ∈ left, line.timestamp ≤ other.timestamp

instance : DecidablePred Chronological :=
  fun lines => inferInstanceAs (Decidable (lines.Pairwise _))

instance (gone left : List Line) : Decidable (NoneNewer gone left) :=
  inferInstanceAs (Decidable (∀ line ∈ gone, ∀ other ∈ left, line.timestamp ≤ other.timestamp))

/-- The lines that a limit on their number takes off. -/
def surplusOf (most : Nat) (lines : List Line) : List Line :=
  lines.take (lines.length - most)

theorem surplusOf_append_lastOf (most : Nat) (lines : List Line) :
    surplusOf most lines ++ Filter.lastOf most lines = lines :=
  List.take_append_drop _ lines

theorem surplusOf_cons {most : Nat} {line : Line} {rest : List Line} (above : most ≤ rest.length) :
    surplusOf most (line :: rest) = line :: surplusOf most rest ∧
      Filter.lastOf most (line :: rest) = Filter.lastOf most rest := by
  have excess : rest.length + 1 - most = rest.length - most + 1 := by omega
  simp only [surplusOf, Filter.lastOf, List.length_cons, excess, List.take_succ_cons,
    List.drop_succ_cons, and_self]

/-- Every limit takes off older lines than it leaves exactly if the timestamps do not go back. -/
theorem noneNewer_iff_chronological (lines : List Line) :
    (∀ most, NoneNewer (surplusOf most lines) (Filter.lastOf most lines)) ↔ Chronological lines := by
  constructor
  · intro cuts
    induction lines with
    | nil => exact List.Pairwise.nil
    | cons line rest ih =>
      apply List.pairwise_cons.mpr
      constructor
      · -- with one line too many, the first stands against all others
        have first := cuts rest.length
        rw [(surplusOf_cons (Nat.le_refl _)).1, (surplusOf_cons (Nat.le_refl _)).2] at first
        intro other member
        apply first line List.mem_cons_self
        simpa [Filter.lastOf] using member
      · apply ih
        intro most
        by_cases above : most ≤ rest.length
        · have cut := cuts most
          rw [(surplusOf_cons above).1, (surplusOf_cons above).2] at cut
          exact fun gone off => cut gone (List.mem_cons_of_mem line off)
        · intro gone off
          simp [surplusOf, Nat.sub_eq_zero_of_le (Nat.le_of_not_le above)] at off
  · intro ordered most
    rw [Chronological, ← surplusOf_append_lastOf most lines, List.pairwise_append] at ordered
    exact ordered.2.2

theorem Scanned.trim_longest {l : TargetLog} (scanned : l.Scanned) (now : Instant) (most : Nat) :
    (l.trim (Age.longest.cutoff? now) most).1 = l.holding (Filter.lastOf most l.lines) := by
  rw [Age.cutoff?_longest, scanned.trim]
  rfl

end TargetLog

namespace Archive

open TargetLog

/-- In every archive that requests can reach and at every time, a log that is trimmed to some number
    of lines of any age is left with the last of its lines, and with so many if it had them.  No
    such limit takes off a line that is newer than one it leaves exactly if the timestamps do not go
    back along the log; and they do not where the messages to the target came in the order of
    their timestamps. -/
theorem limits_leave_last_arrivals (hash : List UInt8 → Nat) (server : String) (buckets : Nat)
    (first : Instant) (requests : List Request) :
    let messages := (start hash server buckets first).messages requests
    let store := ((start hash server buckets first).after requests).store
    ∀ target log, store.get? target = some log →
      (∀ now most,
        (store.trim now target most .longest).state.get? target =
            some (log.holding (Filter.lastOf most log.lines)) ∧
          surplusOf most log.lines ++ Filter.lastOf most log.lines = log.lines ∧
          (Filter.lastOf most log.lines).length = min most log.lines.length) ∧
        ((∀ most, NoneNewer (surplusOf most log.lines) (Filter.lastOf most log.lines)) ↔
          Chronological log.lines) ∧
        (Chronological ((messages.filter (·.isFor log.name)).map Message.line) →
          Chronological log.lines) := by
  intro messages store target log found
  have proper : store.index.Proper := proper_after (proper_start hash server buckets first) requests
  have member : log ∈ store.index.toList := TargetIndex.mem_toList_of_get? found
  have scanned : log.Scanned := scanned_after hash server buckets first requests log member
  refine ⟨?_, noneNewer_iff_chronological log.lines, ?_⟩
  · intro now most
    refine ⟨?_, surplusOf_append_lastOf most log.lines, length_lastOf most log.lines⟩
    rw [Store.get?_trim proper, found, Option.map_some, scanned.trim_longest]
  · intro ordered
    exact ordered.sublist (lines_sublist_messages hash server buckets first requests member)

/-- Two messages without a time, and the clock that moved on in between. -/
theorem limits_leave_last_arrivals_later :
    let requests : List Request :=
      [.addLine "#lean" .empty "one", .turn (Clock.atSecond 100), .addLine "#LEAN" .empty "two"]
    let a := (start (fun _ => 0) "relay.test" 4 Instant.epoch).after requests
    ∃ log, a.store.get? "#lean" = some log ∧ log.lines.map (·.text) = ["one", "two"] ∧
      Chronological log.lines ∧
      NoneNewer (surplusOf 1 log.lines) (Filter.lastOf 1 log.lines) ∧
      ((a.store.trim a.now "#lean" 1 .longest).state.get? "#lean").map (·.lines.map (·.text)) =
        some ["two"] := by
  intro requests a
  have held : (a.store.get? "#lean").map (·.lines.map (·.text)) = some ["one", "two"] := by
    decide +kernel
  obtain ⟨log, found, texts⟩ := Option.map_eq_some_iff.mp held
  obtain ⟨trims, cuts, orders⟩ :=
    limits_leave_last_arrivals (fun _ => 0) "relay.test" 4 Instant.epoch requests "#lean" log found
  have ordered : Chronological log.lines := by
    apply orders
    have all : Chronological
        (((start (fun _ => 0) "relay.test" 4 Instant.epoch).messages requests).map Message.line) := by
      decide +kernel
    exact all.sublist (List.filter_sublist.map _)
  have two : log.lines.length = 2 := by simpa using congrArg List.length texts
  refine ⟨log, found, texts, ordered, cuts.mpr ordered 1, ?_⟩
  rw [(trims a.now 1).1]
  simp [holding, Filter.lastOf, two, texts]

/-- Where a message arrives late with its time, a limit of one line takes off the newer line. -/
theorem limits_leave_older_arrivals :
    let timed (time : String) : TagSet := ⟨[⟨"time", some time⟩]⟩
    let requests : List Request :=
      [.addLine "#lean" (timed "1970-01-01T00:08:20.000Z") "new",
        .addLine "#lean" (timed "1970-01-01T00:01:40.000Z") "late"]
    let a := (start (fun _ => 0) "relay.test" 4 (Clock.atSecond 1000)).after requests
    let shown (store : Store) : Option (List (Instant × String)) :=
      (store.get? "#lean").map (·.lines.map fun line => (line.timestamp, line.text))
    shown a.store = some [(Clock.atSecond 500, "new"), (Clock.atSecond 100, "late")] ∧
      shown (a.store.trim a.now "#lean" 1 .longest).state = some [(Clock.atSecond 100, "late")] ∧
      ∃ log, a.store.get? "#lean" = some log ∧
        ¬ NoneNewer (surplusOf 1 log.lines) (Filter.lastOf 1 log.lines) := by
  intro timed requests a shown
  have newer : (a.store.get? "#lean").map
      (fun log => decide (NoneNewer (surplusOf 1 log.lines) (Filter.lastOf 1 log.lines))) =
        some false := by
    decide +kernel
  obtain ⟨log, found, fails⟩ := Option.map_eq_some_iff.mp newer
  exact ⟨by decide +kernel, by decide +kernel, log, found, of_decide_eq_false fails⟩

end Archive

end Backlog
