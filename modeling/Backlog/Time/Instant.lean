/-!
# Instants

An instant is a whole second since the start of 1970 (UTC) and the nanoseconds
into it.  A leap second is counted within the second `:59` that it follows: there
the nanoseconds run on from one to two thousand million.  The range is the years
-262143 to 262142.

The type carries its range and the place of leap seconds, so that no operation
can leave them.  Spans of time are whole numbers of nanoseconds.
-/

namespace Backlog

/-- Nanoseconds in a second. -/
def nanosPerSecond : Nat := 1000000000

/-- Nanoseconds in a millisecond. -/
def nanosPerMilli : Nat := 1000000

/-- Seconds in a day. -/
def secondsPerDay : Nat := 86400

/-- A point in time, with nanoseconds. -/
structure Instant where
  seconds : Int
  nanos : Nat
  first_le : -8334601228800 ≤ seconds
  le_last : seconds ≤ 8210266876799
  nanos_lt : nanos < 2000000000
  leap_at_end : 1000000000 ≤ nanos → seconds % 60 = 59
deriving DecidableEq

namespace Instant

/-- The instant of the given second and nanoseconds, if there is one. -/
def of? (seconds : Int) (nanos : Nat) : Option Instant :=
  if h : -8334601228800 ≤ seconds ∧ seconds ≤ 8210266876799 ∧ nanos < 2000000000 ∧
      (1000000000 ≤ nanos → seconds % 60 = 59) then
    some ⟨seconds, nanos, h.1, h.2.1, h.2.2.1, h.2.2.2⟩
  else none

/-- The start of 1970. -/
def epoch : Instant :=
  ⟨0, 0, by decide, by decide, by decide, by decide⟩

/-- Whether `t` lies within a leap second. -/
def IsLeap (t : Instant) : Prop :=
  nanosPerSecond ≤ t.nanos

instance (t : Instant) : Decidable t.IsLeap :=
  inferInstanceAs (Decidable (nanosPerSecond ≤ t.nanos))

instance : Inhabited Instant := ⟨epoch⟩

/-! ## Order

A leap second sorts after the whole of its `:59` and before the next second. -/

instance : LT Instant where
  lt a b := a.seconds < b.seconds ∨ (a.seconds = b.seconds ∧ a.nanos < b.nanos)

instance : LE Instant where
  le a b := a.seconds < b.seconds ∨ (a.seconds = b.seconds ∧ a.nanos ≤ b.nanos)

instance (a b : Instant) : Decidable (a < b) :=
  inferInstanceAs (Decidable (a.seconds < b.seconds ∨ (a.seconds = b.seconds ∧ a.nanos < b.nanos)))

instance (a b : Instant) : Decidable (a ≤ b) :=
  inferInstanceAs (Decidable (a.seconds < b.seconds ∨ (a.seconds = b.seconds ∧ a.nanos ≤ b.nanos)))

instance : Min Instant := minOfLe

/-! ## Arithmetic -/

/-- The seconds and nanoseconds of `t` after `whole` seconds and `part`
    nanoseconds, which have one sign.  A leap second is left only by a step that
    reaches past one of its ends; a step that stays in it, or that goes back by
    less than a second, keeps the second as it is. -/
def stepped (t : Instant) (whole part : Int) : Int × Int :=
  let carry : Int × Int → Int × Int := fun (seconds, nanos) =>
    if nanos < 0 then (seconds - 1, nanos + nanosPerSecond)
    else if nanosPerSecond ≤ nanos then (seconds + 1, nanos - nanosPerSecond)
    else (seconds, nanos)
  if t.nanos < nanosPerSecond then
    carry (t.seconds + whole, t.nanos + part)
  else if 0 < whole ∨ (0 < part ∧ 2 * nanosPerSecond ≤ t.nanos + part) then
    carry (t.seconds + whole, t.nanos - nanosPerSecond + part)
  else if whole < 0 then
    carry (t.seconds + 1 + whole, t.nanos - nanosPerSecond + part)
  else (t.seconds, t.nanos + part)

/-- `t` moved by a span of nanoseconds, unless that leaves the range. -/
def add? (t : Instant) (span : Int) : Option Instant :=
  let (seconds, nanos) := t.stepped (span.tdiv nanosPerSecond) (span.tmod nanosPerSecond)
  of? seconds nanos.toNat

/-- The second of the day that `t` lies in. -/
def secondOfDay (t : Instant) : Nat :=
  (t.seconds % secondsPerDay).toNat

/-- The nanoseconds from `earlier` to `later`.  A leap second counts as a second
    of its own when it lies between the two times of day. -/
def since (later earlier : Instant) : Int :=
  let leap : Int :=
    if earlier.secondOfDay < later.secondOfDay ∧ earlier.IsLeap then 1
    else if later.secondOfDay < earlier.secondOfDay ∧ later.IsLeap then -1
    else 0
  (later.seconds - earlier.seconds + leap) * nanosPerSecond + (later.nanos - earlier.nanos)

/-! ## Laws -/

theorem of?_self (t : Instant) : of? t.seconds t.nanos = some t := by
  simp [of?, t.first_le, t.le_last, t.nanos_lt]
  exact t.leap_at_end

theorem lt_irrefl (t : Instant) : ¬ t < t := by
  intro h
  rcases h with h | ⟨_, h⟩ <;> omega

theorem not_lt {a b : Instant} : ¬ a < b ↔ b ≤ a := by
  change ¬ (a.seconds < b.seconds ∨ (a.seconds = b.seconds ∧ a.nanos < b.nanos)) ↔
    (b.seconds < a.seconds ∨ (b.seconds = a.seconds ∧ b.nanos ≤ a.nanos))
  omega

end Instant

end Backlog
