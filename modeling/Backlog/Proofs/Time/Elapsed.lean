import Backlog.Proofs.Time.Order

/-!
# Elapsed time

The clock answers whether an interval has passed in whole milliseconds towards zero, and it
reads the interval as a signed number.  For an interval that is not 0, and small enough to be
the same when read so, that is whether the exact difference is as long.  No interval at all has
passed already in the last millisecond before the time, and one that is too long to be signed
counts as if it ran backwards.  The clock is moved by exactly the milliseconds that it is asked
for, unless it shows a leap second.
-/

namespace Backlog

/-- A word that is small enough is the same as a signed number. -/
theorem toInt_toInt64 {ms : UInt64} (small : ms.toNat ≤ Clock.longestMillis) :
    ms.toInt64.toInt = ms.toNat := by
  have same : ms.toInt64.toBitVec.toNat = ms.toNat := rfl
  rw [Clock.longestMillis] at small
  rw [Int64.toInt, BitVec.toInt_eq_toNat_cond, if_pos (by omega), same]

/-- A signed number that is not negative is the same as a word. -/
theorem toNat_toUInt64 {ms : Int64} (nonneg : 0 ≤ ms.toInt) : (ms.toUInt64.toNat : Int) = ms.toInt := by
  have same : ms.toUInt64.toNat = ms.toBitVec.toNat := rfl
  have small := ms.toBitVec.isLt
  rw [Int64.toInt, BitVec.toInt_eq_toNat_cond] at nonneg ⊢
  rw [same]
  split at nonneg
  · rw [if_pos ‹_›]
  · omega

/-- Rounding towards zero does not matter for a positive bound. -/
theorem le_tdiv_iff {n span unit : Int} (positive : 0 < n) (whole : 0 < unit) :
    n ≤ span.tdiv unit ↔ n * unit ≤ span := by
  by_cases back : span < 0
  · have down : 0 ≤ (-span).tdiv unit := Int.tdiv_nonneg (by omega) (Int.le_of_lt whole)
    rw [Int.neg_tdiv] at down
    have up : 0 < n * unit := Int.mul_pos positive whole
    omega
  · rw [Int.tdiv_eq_ediv_of_nonneg (Int.not_lt.mp back), Int.le_ediv_iff_mul_le whole]

namespace Clock

theorem elapsedAtLeast_iff {ms : UInt64} (positive : 0 < ms) (small : ms.toNat ≤ longestMillis)
    (now earlier : Instant) :
    elapsedAtLeast now earlier ms = true ↔
      ((ms.toNat * nanosPerMilli : Nat) : Int) ≤ now.since earlier := by
  have some : (0 : Int) < ms.toNat := by
    rw [UInt64.lt_iff_toNat_lt] at positive
    exact Int.natCast_pos.mpr positive
  rw [elapsedAtLeast, decide_eq_true_iff, toInt_toInt64 small, millisSince,
    le_tdiv_iff some (by decide), Int.natCast_mul]

end Clock

/-- Without leap seconds instants are as far apart as their nanoseconds. -/
theorem Instant.since_eq {now earlier : Instant} (plain : ¬ now.IsLeap) (plain' : ¬ earlier.IsLeap) :
    now.since earlier = now.toNanos - earlier.toNanos := by
  simp only [since, plain, plain', and_false, if_false, toNanos, nanosPerSecond]
  omega

/-- From a time that is no leap second the clock moves by exactly the span, to another one. -/
theorem Instant.add?_plain {now later : Instant} (plain : ¬ now.IsLeap) {span : Int}
    (moved : now.add? span = some later) :
    ¬ later.IsLeap ∧ later.toNanos = now.toNanos + span := by
  have below : now.nanos < nanosPerSecond := Nat.lt_of_not_le plain
  have parts : span.tmod nanosPerSecond + nanosPerSecond * span.tdiv nanosPerSecond = span :=
    Int.tmod_add_mul_tdiv _ _
  have small : (span.tmod nanosPerSecond).natAbs < nanosPerSecond := by
    rw [Int.natAbs_tmod]
    exact Nat.mod_lt _ (by decide)
  simp only [add?, stepped, below, if_true] at moved
  generalize span.tdiv nanosPerSecond = whole at parts moved
  generalize span.tmod nanosPerSecond = part at parts small moved
  simp only [IsLeap, toNanos]
  simp only [nanosPerSecond] at below parts small moved ⊢
  rw [of?_eq_some_iff] at moved
  -- a second is borrowed or carried, or neither
  by_cases borrow : (now.nanos : Int) + part < 0
  · simp only [borrow, if_true] at moved
    omega
  · by_cases carry : (1000000000 : Nat) ≤ (now.nanos : Int) + part
    · simp only [borrow, carry, if_false, if_true] at moved
      omega
    · simp only [borrow, carry, if_false] at moved
      omega

theorem Clock.advance?_plain {now later : Instant} (plain : ¬ now.IsLeap) {ms : Int}
    (moved : advance? now ms = some later) :
    ¬ later.IsLeap ∧ later.toNanos = now.toNanos + ms * nanosPerMilli := by
  unfold advance? at moved
  split at moved
  · exact Instant.add?_plain plain moved
  · cases moved

/-! ## Intervals of every length -/

/-- A word that is not small enough is so much less as a signed number. -/
theorem toInt_toInt64_of_large {ms : UInt64} (large : Clock.longestMillis < ms.toNat) :
    ms.toInt64.toInt = ms.toNat - 18446744073709551616 := by
  have same : ms.toInt64.toBitVec.toNat = ms.toNat := rfl
  rw [Clock.longestMillis] at large
  rw [Int64.toInt, BitVec.toInt_eq_toNat_cond, if_neg (by omega), same]
  rfl

/-- Rounding towards zero lets a bound that is not positive be reached almost a unit before it. -/
theorem le_tdiv_iff_of_nonpos {n span unit : Int} (nonpos : n ≤ 0) (whole : 0 < unit) :
    n ≤ span.tdiv unit ↔ (n - 1) * unit < span := by
  by_cases back : span < 0
  · have up : span.tdiv unit = -((-span) / unit) := by
      rw [← Int.tdiv_eq_ediv_of_nonneg (by omega), Int.neg_tdiv, Int.neg_neg]
    have reached : (-span) / unit < 1 - n ↔ -span < (1 - n) * unit := Int.ediv_lt_iff_lt_mul whole
    have turned : (n - 1) * unit = -((1 - n) * unit) := by
      rw [← Int.neg_mul, Int.neg_sub]
    omega
  · have down : 0 ≤ span.tdiv unit := Int.tdiv_nonneg (Int.not_lt.mp back) (Int.le_of_lt whole)
    have below : (n - 1) * unit < 0 := Int.mul_neg_of_neg_of_pos (by omega) whole
    omega

/-- Without leap seconds the order of instants is that of their nanoseconds. -/
theorem Instant.toNanos_lt {a b : Instant} (plain : ¬ a.IsLeap) (less : a < b) :
    a.toNanos < b.toNanos := by
  have below : a.nanos < nanosPerSecond := Nat.lt_of_not_le plain
  rw [lt_iff] at less
  simp only [toNanos, nanosPerSecond] at below ⊢
  omega

namespace Clock

theorem elapsedAtLeast_iff_of_nonpos {ms : UInt64} (nonpos : ms.toInt64.toInt ≤ 0)
    (now earlier : Instant) :
    elapsedAtLeast now earlier ms = true ↔
      (ms.toInt64.toInt - 1) * nanosPerMilli < now.since earlier := by
  rw [elapsedAtLeast, decide_eq_true_iff, millisSince, le_tdiv_iff_of_nonpos nonpos (by decide)]

/-- Of intervals that are read as they are, a shorter one is over when a longer one is. -/
theorem elapsedAtLeast_of_le {ms ms' : UInt64} (le : ms ≤ ms') (small : ms'.toNat ≤ longestMillis)
    {now earlier : Instant} (elapsed : elapsedAtLeast now earlier ms' = true) :
    elapsedAtLeast now earlier ms = true := by
  rw [UInt64.le_iff_toNat_le] at le
  rw [elapsedAtLeast, decide_eq_true_iff, toInt_toInt64 small] at elapsed
  rw [elapsedAtLeast, decide_eq_true_iff, toInt_toInt64 (by omega)]
  omega

/-- An interval that is not 0, and not too long to be signed, has passed between two times that are no
    leap seconds exactly if the one is so many milliseconds after the other, and with it every
    shorter one; so it has not if the times stand the other way round.  No interval at all has
    passed unless the clock is a millisecond behind.  One that is too long never has, but is taken
    to have passed where the clock is not as far behind as the interval is when it is read as
    signed. -/
theorem intervals_elapse_exactly {now earlier : Instant} (plain : ¬ now.IsLeap)
    (plain' : ¬ earlier.IsLeap) :
    let passed := now.toNanos - earlier.toNanos
    (∀ ms : UInt64, 0 < ms → ms.toNat ≤ longestMillis →
      (elapsedAtLeast now earlier ms = true ↔ ((ms.toNat * nanosPerMilli : Nat) : Int) ≤ passed) ∧
        (now < earlier → elapsedAtLeast now earlier ms = false)) ∧
      (∀ ms ms' : UInt64, ms ≤ ms' → ms'.toNat ≤ longestMillis →
        elapsedAtLeast now earlier ms' = true → elapsedAtLeast now earlier ms = true) ∧
      (elapsedAtLeast now earlier 0 = true ↔ -(nanosPerMilli : Int) < passed) ∧
      ∀ ms : UInt64, longestMillis < ms.toNat →
        ¬ ((ms.toNat * nanosPerMilli : Nat) : Int) ≤ passed ∧
          (elapsedAtLeast now earlier ms = true ↔
            ((ms.toNat : Int) - 18446744073709551617) * nanosPerMilli < passed) := by
  intro passed
  have since : now.since earlier = passed := Instant.since_eq plain plain'
  refine ⟨?_, ?_, ?_, ?_⟩
  · intro ms positive small
    have exactly := elapsedAtLeast_iff positive small now earlier
    rw [since] at exactly
    refine ⟨exactly, ?_⟩
    intro before
    have back := Instant.toNanos_lt plain before
    rw [← Bool.not_eq_true, exactly]
    omega
  · intro ms ms' le small
    exact elapsedAtLeast_of_le le small
  · have zero : (0 : UInt64).toInt64.toInt = 0 := rfl
    rw [elapsedAtLeast_iff_of_nonpos (Int.le_of_eq zero), since, zero, Int.zero_sub, Int.neg_one_mul]
  · intro ms large
    have read := toInt_toInt64_of_large large
    have below := ms.toNat_lt
    refine ⟨?_, ?_⟩
    · -- the whole range of instants is shorter
      have last := now.le_last
      have first := earlier.first_le
      have nanos := now.nanos_lt
      simp only [longestMillis] at large
      simp only [passed, Instant.toNanos, nanosPerMilli, nanosPerSecond]
      omega
    · have unit : (ms.toNat : Int) - 18446744073709551616 - 1 = ms.toNat - 18446744073709551617 := by
        omega
      rw [elapsedAtLeast_iff_of_nonpos (by omega), since, read, unit]

/-- A second after the start of 1970 a second has passed, and a longer interval has not. -/
theorem intervals_elapse_exactly_second :
    let now := atSecond 1
    ¬ now.IsLeap ∧ ¬ Instant.epoch.IsLeap ∧ elapsedAtLeast now Instant.epoch 1000 = true ∧
      elapsedAtLeast now Instant.epoch 1001 = false ∧ elapsedAtLeast Instant.epoch now 1 = false := by
  intro now
  have plain : ¬ now.IsLeap := by decide
  have plain' : ¬ Instant.epoch.IsLeap := by decide
  obtain ⟨forward, -, -, -⟩ := intervals_elapse_exactly plain plain'
  obtain ⟨backward, -, -, -⟩ := intervals_elapse_exactly plain' plain
  refine ⟨plain, plain', ?_, ?_, ?_⟩
  · exact (forward 1000 (by decide) (by decide)).1.mpr (by decide)
  · rw [← Bool.not_eq_true, (forward 1001 (by decide) (by decide)).1]
    decide
  · exact (backward 1 (by decide) (by decide)).2 (by decide)

/-- The shortest interval that is too long to be signed is taken to have passed at once, when one
    millisecond has not; and no interval at all is taken to have passed half a millisecond before
    the time. -/
theorem long_intervals_elapse_at_once :
    let soon : Instant := ⟨0, 500000, by decide, by decide, by decide, by decide⟩
    ¬ Instant.epoch.IsLeap ∧ ¬ soon.IsLeap ∧
      elapsedAtLeast Instant.epoch Instant.epoch 9223372036854775808 = true ∧
      elapsedAtLeast Instant.epoch Instant.epoch 1 = false ∧
      ¬ (((9223372036854775808 : UInt64).toNat * nanosPerMilli : Nat) : Int) ≤
        Instant.epoch.toNanos - Instant.epoch.toNanos ∧
      Instant.epoch < soon ∧ elapsedAtLeast Instant.epoch soon 0 = true ∧
      ¬ (((0 : UInt64).toNat * nanosPerMilli : Nat) : Int) ≤
        Instant.epoch.toNanos - soon.toNanos := by
  decide

end Clock

end Backlog
