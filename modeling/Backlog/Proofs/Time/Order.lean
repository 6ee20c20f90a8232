import Backlog.Time.Clock
import Mathlib.Order.Defs.LinearOrder

/-!
# The order of instants, and their age

Instants are ordered linearly.  `Instant.IsOlder` compares an instant with the time
some nanoseconds before another one, computed without bounds: that time need not be
an instant.  Where the clock computes it, the order of instants decides, and where it
cannot, no instant is that old.
-/

namespace Backlog

namespace Instant

theorem le_iff {a b : Instant} :
    a ≤ b ↔ a.seconds < b.seconds ∨ (a.seconds = b.seconds ∧ a.nanos ≤ b.nanos) :=
  Iff.rfl

theorem lt_iff {a b : Instant} :
    a < b ↔ a.seconds < b.seconds ∨ (a.seconds = b.seconds ∧ a.nanos < b.nanos) :=
  Iff.rfl

theorem ext_iff {a b : Instant} : a = b ↔ a.seconds = b.seconds ∧ a.nanos = b.nanos := by
  cases a
  cases b
  simp

instance : LinearOrder Instant where
  le_refl t := by
    rw [le_iff]
    omega
  le_trans a b c := by
    simp only [le_iff]
    omega
  lt_iff_le_not_ge a b := by
    simp only [le_iff, lt_iff]
    omega
  le_antisymm a b := by
    simp only [le_iff, ext_iff]
    omega
  le_total a b := by
    simp only [le_iff]
    omega
  toMin := inferInstance
  min_def _ _ := rfl
  toDecidableLE := inferInstance
  toDecidableLT := inferInstance
  toDecidableEq := inferInstance

/-! ## Age -/

/-- The nanoseconds since the start of 1970, where no leap second has passed. -/
def toNanos (t : Instant) : Int :=
  t.seconds * nanosPerSecond + t.nanos

/-- Whether `t` is before the time that is `age` nanoseconds before `now`. -/
def IsOlder (t now : Instant) (age : Nat) : Prop :=
  let time := now.toNanos - age
  t.seconds < time / nanosPerSecond ∨
    (t.seconds = time / nanosPerSecond ∧ t.nanos < time % nanosPerSecond)

instance (t now : Instant) (age : Nat) : Decidable (t.IsOlder now age) :=
  inferInstanceAs (Decidable (_ ∨ _))

/-- No two instants are this many nanoseconds apart. -/
def widest : Nat := 20000000000000 * nanosPerSecond

theorem not_isOlder_of_widest (t now : Instant) {age : Nat} (wide : widest ≤ age) :
    ¬ t.IsOlder now age := by
  have first := t.first_le
  have last := now.le_last
  have nanos := now.nanos_lt
  simp only [widest, nanosPerSecond] at wide
  simp only [IsOlder, toNanos, nanosPerSecond]
  omega

/-- What the clock shows earlier, when no leap second is in the way. -/
theorem add?_neg {now : Instant} (plain : ¬ now.IsLeap) (age : Nat) :
    now.add? (-age) =
      of? ((now.toNanos - age) / nanosPerSecond) ((now.toNanos - age) % nanosPerSecond).toNat := by
  have below : now.nanos < nanosPerSecond := Nat.lt_of_not_le plain
  have steps : now.stepped ((-(age : Int)).tdiv nanosPerSecond) ((-(age : Int)).tmod nanosPerSecond) =
      ((now.toNanos - age) / nanosPerSecond, (now.toNanos - age) % nanosPerSecond) := by
    rw [Int.neg_tdiv, Int.neg_tmod, ← Int.ofNat_tdiv, ← Int.ofNat_tmod]
    simp only [stepped, below, if_true, toNanos]
    simp only [nanosPerSecond] at below ⊢
    -- going back never carries into the next second, and borrows at most one
    have under : ¬ (1000000000 : Nat) ≤ (now.nanos : Int) + -(age % 1000000000 : Nat) := by omega
    by_cases borrow : (now.nanos : Int) + -(age % 1000000000 : Nat) < 0
    · simp only [borrow, if_true, Prod.mk.injEq]
      omega
    · simp only [borrow, under, if_false, Prod.mk.injEq]
      omega
  simp only [add?, steps]

theorem of?_eq_some_iff {seconds : Int} {nanos : Nat} {t : Instant} :
    of? seconds nanos = some t ↔ t.seconds = seconds ∧ t.nanos = nanos := by
  constructor
  · intro made
    unfold of? at made
    split at made
    · cases made
      exact ⟨rfl, rfl⟩
    · cases made
  · rintro ⟨rfl, rfl⟩
    exact of?_self t

theorem isOlder_iff_lt {now cutoff : Instant} (plain : ¬ now.IsLeap) {age : Nat}
    (shown : now.add? (-age) = some cutoff) (t : Instant) : t.IsOlder now age ↔ t < cutoff := by
  rw [add?_neg plain, of?_eq_some_iff] at shown
  obtain ⟨seconds, nanos⟩ := shown
  rw [lt_iff, seconds, nanos]
  simp only [IsOlder, nanosPerSecond]
  omega

theorem not_isOlder_of_add?_eq_none {now : Instant} (plain : ¬ now.IsLeap) {age : Nat}
    (none : now.add? (-age) = none) (t : Instant) : ¬ t.IsOlder now age := by
  have first := t.first_le
  have last := now.le_last
  have below : now.nanos < nanosPerSecond := Nat.lt_of_not_le plain
  rw [add?_neg plain] at none
  unfold of? at none
  split at none
  · cases none
  · rename_i outside
    simp only [IsOlder, toNanos, nanosPerSecond] at below outside ⊢
    omega

/-! ## Further back is earlier -/

/-- Within a leap second the clock goes back by nanoseconds of that second. -/
theorem add?_neg_short {now : Instant} (leap : now.IsLeap) {age : Nat} (short : age < nanosPerSecond) :
    now.add? (-age) = of? now.seconds (now.nanos - age) := by
  have within : nanosPerSecond ≤ now.nanos := leap
  have nanos : ((now.nanos : Int) + -(age : Int)).toNat = now.nanos - age := by omega
  have behind : ¬ (age : Int) < 0 := Int.not_lt.mpr (Int.natCast_nonneg age)
  rw [add?, Int.neg_tdiv, Int.neg_tmod, ← Int.ofNat_tdiv, ← Int.ofNat_tmod,
    Nat.div_eq_of_lt short, Nat.mod_eq_of_lt short]
  simp [stepped, Nat.not_lt_of_le within, behind, nanos]

/-- Further back a leap second counts as the start of the next minute. -/
theorem add?_neg_long {now : Instant} {age : Nat} (long : ¬ (now.IsLeap ∧ age < nanosPerSecond)) :
    now.add? (-age) =
      of? ((now.toNanos - age) / nanosPerSecond) ((now.toNanos - age) % nanosPerSecond).toNat := by
  by_cases leap : now.IsLeap
  · have within : nanosPerSecond ≤ now.nanos := leap
    have below := now.nanos_lt
    have steps : now.stepped ((-(age : Int)).tdiv nanosPerSecond) ((-(age : Int)).tmod nanosPerSecond) =
        ((now.toNanos - age) / nanosPerSecond, (now.toNanos - age) % nanosPerSecond) := by
      rw [Int.neg_tdiv, Int.neg_tmod, ← Int.ofNat_tdiv, ← Int.ofNat_tmod]
      simp only [stepped, Nat.not_lt_of_le within, if_false, toNanos]
      simp only [nanosPerSecond, leap, true_and] at within long ⊢
      -- a second or more back is the branch of `stepped` that leaves the leap second
      have behind : ¬ (0 < -((age / 1000000000 : Nat) : Int) ∨
          0 < -((age % 1000000000 : Nat) : Int) ∧
            2 * (1000000000 : Nat) ≤ (now.nanos : Int) + -((age % 1000000000 : Nat) : Int)) := by
        omega
      have back : -((age / 1000000000 : Nat) : Int) < 0 := by omega
      have under : ¬ (1000000000 : Nat) ≤
          (now.nanos : Int) - (1000000000 : Nat) + -(age % 1000000000 : Nat) := by omega
      simp only [behind, back, under, if_false, if_true]
      by_cases borrow : (now.nanos : Int) - (1000000000 : Nat) + -(age % 1000000000 : Nat) < 0
      · simp only [borrow, if_true, Prod.mk.injEq]
        omega
      · simp only [borrow, if_false, Prod.mk.injEq]
        omega
    simp only [add?, steps]
  · exact add?_neg leap age

theorem exists_of? (seconds : Int) (nanos : Nat) (first : -8334601228800 ≤ seconds)
    (last : seconds ≤ 8210266876799) (below : nanos < 2000000000)
    (leap : 1000000000 ≤ nanos → seconds % 60 = 59) :
    ∃ t, of? seconds nanos = some t ∧ t.seconds = seconds ∧ t.nanos = nanos :=
  ⟨⟨seconds, nanos, first, last, below, leap⟩, dif_pos ⟨first, last, below, leap⟩, rfl, rfl⟩

/-- Where the clock can go far back it can go less far, and shows no earlier time there. -/
theorem add?_neg_of_le {now far : Instant} {age age' : Nat} (le : age ≤ age')
    (shown : now.add? (-age') = some far) : ∃ near, now.add? (-age) = some near ∧ far ≤ near := by
  have first := far.first_le
  have last := now.le_last
  have below := now.nanos_lt
  -- whether the near and the far time are within the leap second decides how they are made
  by_cases short : now.IsLeap ∧ age < nanosPerSecond
  · obtain ⟨near, made, seconds, nanos⟩ := exists_of? now.seconds (now.nanos - age)
      now.first_le last (by omega) (fun _ => now.leap_at_end short.1)
    rw [add?_neg_short short.1 short.2]
    refine ⟨near, made, ?_⟩
    by_cases short' : age' < nanosPerSecond
    · -- neither leaves the leap second
      rw [add?_neg_short short.1 short', of?_eq_some_iff] at shown
      rw [le_iff]
      omega
    · rw [add?_neg_long (fun both => short' both.2), of?_eq_some_iff] at shown
      simp only [toNanos, nanosPerSecond] at shown short short'
      rw [le_iff]
      omega
  · have short' : ¬ (now.IsLeap ∧ age' < nanosPerSecond) :=
      fun both => short ⟨both.1, Nat.lt_of_le_of_lt le both.2⟩
    rw [add?_neg_long short', of?_eq_some_iff] at shown
    rw [add?_neg_long short]
    simp only [IsLeap, toNanos, nanosPerSecond] at shown short ⊢
    obtain ⟨near, made, seconds, nanos⟩ := exists_of?
      ((now.seconds * (1000000000 : Nat) + now.nanos - age) / (1000000000 : Nat))
      ((now.seconds * (1000000000 : Nat) + now.nanos - age) % (1000000000 : Nat)).toNat
      (by omega) (by omega) (by omega) (by omega)
    refine ⟨near, made, ?_⟩
    rw [le_iff]
    omega

end Instant

end Backlog
