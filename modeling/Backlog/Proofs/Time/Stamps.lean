import Backlog.Proofs.Text.Numerals
import Backlog.Proofs.Time.Calendar
import Backlog.Proofs.Time.Order
import Backlog.Time.Stamp

/-!
# Stamps read back

A stamp that is written is read back as its instant in whole milliseconds, for every instant
of the range: years outside of 0 to 9999 have a sign and as many digits as they need, and a
leap second is written as the second 60.
-/

namespace Backlog

open Text

namespace Instant

/-- The instant without the nanoseconds that are no whole millisecond.  A leap second stays
    one. -/
def wholeMillis (t : Instant) : Instant where
  seconds := t.seconds
  nanos := t.nanos / nanosPerMilli * nanosPerMilli
  first_le := t.first_le
  le_last := t.le_last
  nanos_lt := by
    have below := t.nanos_lt
    simp only [nanosPerMilli]
    omega
  leap_at_end := by
    intro leap
    simp only [nanosPerMilli] at leap
    exact t.leap_at_end (by omega)

theorem isLeap_wholeMillis (t : Instant) : t.wholeMillis.IsLeap ↔ t.IsLeap := by
  simp only [IsLeap, wholeMillis, nanosPerMilli, nanosPerSecond]
  omega

theorem wholeMillis_mono {t u : Instant} (le : t ≤ u) : t.wholeMillis ≤ u.wholeMillis := by
  rw [le_iff] at le ⊢
  simp only [wholeMillis, nanosPerMilli]
  omega

/-! ## Fields -/

theorem hour_le (t : Instant) : t.hour ≤ 23 := by
  simp only [hour, secondOfDay, secondsPerDay]
  omega

theorem minute_le (t : Instant) : t.minute ≤ 59 := by
  simp only [minute]
  omega

theorem second_of_leap {t : Instant} (leap : t.IsLeap) : t.second = 60 := by
  -- a leap second stands at the end of a minute
  have last := t.leap_at_end leap
  simp only [second, leap, if_true, secondOfDay, secondsPerDay]
  omega

theorem second_of_plain {t : Instant} (plain : ¬ t.IsLeap) : t.second = t.secondOfDay % 60 := by
  simp [second, plain]

theorem second_eq_sixty_iff (t : Instant) : t.second = 60 ↔ t.IsLeap := by
  by_cases leap : t.IsLeap
  · simp [leap, second_of_leap]
  · simp [leap, second_of_plain]
    omega

theorem second_le (t : Instant) : t.second ≤ 60 := by
  by_cases leap : t.IsLeap
  · exact Nat.le_of_eq (second_of_leap leap)
  · rw [second_of_plain leap]
    omega

theorem subsecond_lt (t : Instant) : t.subsecond < nanosPerSecond := by
  have below := t.nanos_lt
  unfold subsecond
  split
  · simp only [nanosPerSecond]
    omega
  · rename_i plain
    exact Nat.lt_of_not_le plain

/-- A second of the day adds up from its fields. -/
theorem seconds_eq (t : Instant) :
    t.seconds = t.seconds / secondsPerDay * secondsPerDay +
      ((t.hour * 3600 + t.minute * 60 + (if t.second = 60 then 59 else t.second) : Nat) : Int) := by
  simp only [second_eq_sixty_iff]
  by_cases leap : t.IsLeap
  · have last := t.leap_at_end leap
    simp only [leap, if_true, hour, minute, secondOfDay, secondsPerDay]
    omega
  · simp only [leap, if_false, second_of_plain leap, hour, minute, secondOfDay, secondsPerDay]
    omega

theorem nanos_eq (t : Instant) :
    t.nanos / nanosPerMilli * nanosPerMilli =
      (if t.IsLeap then nanosPerSecond else 0) + t.subsecond / nanosPerMilli * nanosPerMilli := by
  unfold subsecond
  split
  · rename_i leap
    have within : nanosPerSecond ≤ t.nanos := leap
    simp only [nanosPerMilli, nanosPerSecond] at within ⊢
    omega
  · rw [Nat.zero_add]

/-- The fields of an instant, with the subsecond in whole milliseconds, are those of the instant
    in whole milliseconds. -/
theorem ofFields?_wholeMillis (t : Instant) :
    ofFields? t.date t.hour t.minute t.second (t.subsecond / nanosPerMilli * nanosPerMilli) 0 =
      some t.wholeMillis := by
  have valid : (t.date).isValid = true := Date.isValid_ofDays _
  have days : (t.date).toDays = t.seconds / secondsPerDay := Date.toDays_ofDays _
  have inRange : ((t.date).isValid && t.hour ≤ 23 && t.minute ≤ 59 && t.second ≤ 60) = true := by
    simp [valid, t.hour_le, t.minute_le, t.second_le]
  rw [ofFields?, if_pos inRange]
  -- what is left is that the seconds of the day and the nanoseconds add up
  simp only [of?_eq_some_iff, wholeMillis, days, nanos_eq t, second_eq_sixty_iff]
  refine ⟨?_, ?_⟩
  · have adds := t.seconds_eq
    simp only [second_eq_sixty_iff] at adds
    omega
  · split <;> simp

end Instant

/-! ## Text -/

namespace ServerTime

theorem field?_fixedDigits {n : Nat} (small : n < 100) {c : Char} (other : c.isDigit = false)
    (rest : List Char) : field? (fixedDigits 2 n ++ c :: rest) = some (n, c :: rest) := by
  have all := isDigits_fixedDigits 2 n
  have two := length_fixedDigits 2 n
  rw [field?, skipBlanks_run all (fixedDigits_ne_nil 1 n),
    number?_run all (by omega) (by omega) other, numeral_fixedDigits small]

theorem year?_digits {digits : List Char} (all : IsDigits digits) (some : digits ≠ [])
    (short : digits.length ≤ 4) (rest : List Char) :
    year? (digits ++ '-' :: rest) = .some ((numeral digits : Int), '-' :: rest) := by
  have number := number?_run all (List.length_pos_of_ne_nil some) short
    (by decide : Char.isDigit '-' = false) rest
  rw [year?, skipBlanks_run all some]
  split
  · -- a digit is no sign
    rename_i minus
    exact absurd (all.isDigit_head some minus) (by decide)
  · rename_i plus
    exact absurd (all.isDigit_head some plus) (by decide)
  · rw [number]
    rfl

theorem year?_yearText (year : Int) (rest : List Char) :
    year? (Instant.yearText year ++ '-' :: rest) = some (year, '-' :: rest) := by
  unfold Instant.yearText
  split
  · rename_i before
    have all := isDigits_paddedDecimal 4 year.natAbs
    have sign : -(year.natAbs : Int) = year := by omega
    rw [List.cons_append, year?, skipBlanks_cons (by decide)]
    simp only [anyNumber?_run all (paddedDecimal_ne_nil 3 _) (by decide : Char.isDigit '-' = false),
      numeral_paddedDecimal, Option.map_some, sign]
  · have sign : (year.natAbs : Int) = year := by omega
    split
    · have all := isDigits_fixedDigits 4 year.natAbs
      have four := length_fixedDigits 4 year.natAbs
      have fits : year.natAbs < 10000 := by omega
      rw [year?_digits all (fixedDigits_ne_nil 3 _) (by omega), numeral_fixedDigits fits, sign]
    · -- beyond year 9999 the sign tells the reader to take all digits
      have all := isDigits_decimal year.natAbs
      rw [List.cons_append, year?, skipBlanks_cons (by decide)]
      simp only [anyNumber?_run all (decimal_ne_nil _) (by decide : Char.isDigit '-' = false),
        numeral_decimal, Option.map_some, sign]

theorem millis?_fixedDigits {ms : Nat} (small : ms < 1000) {c : Char} (other : c.isDigit = false)
    (rest : List Char) :
    millis? ('.' :: (fixedDigits 3 ms ++ c :: rest)) = some (ms * nanosPerMilli, c :: rest) := by
  have three := length_fixedDigits 3 ms
  rw [millis?, number?_run (isDigits_fixedDigits 3 ms) (by omega) (by omega) other,
    numeral_fixedDigits small]
  rfl

/-- What is written is read back in whole milliseconds. -/
theorem read?_text (t : Instant) : read? (text t) = some t.wholeMillis := by
  have valid : (t.date).isValid = true := Date.isValid_ofDays _
  obtain ⟨⟨-, months⟩, -⟩ := Date.isValid_iff.mp valid
  have days := Date.day_le_of_isValid valid
  have hours := t.hour_le
  have minutes := t.minute_le
  have seconds := t.second_le
  have millis : t.subsecond / nanosPerMilli < 1000 := by
    have below := t.subsecond_lt
    simp only [nanosPerSecond, nanosPerMilli] at below ⊢
    omega
  -- each number ends at the sign after it, which is no digit
  have month := field?_fixedDigits (by omega : t.date.month < 100) (by decide : Char.isDigit '-' = false)
  have day := field?_fixedDigits (by omega : t.date.day < 100) (by decide : Char.isDigit 'T' = false)
  have hour := field?_fixedDigits (by omega : t.hour < 100) (by decide : Char.isDigit ':' = false)
  have minute := field?_fixedDigits (by omega : t.minute < 100) (by decide : Char.isDigit ':' = false)
  have second := field?_fixedDigits (by omega : t.second < 100) (by decide : Char.isDigit '.' = false)
  have milli := millis?_fixedDigits millis (by decide : Char.isDigit 'Z' = false)
  rw [← t.ofFields?_wholeMillis]
  simp only [read?, text, Instant.dateText, Instant.clockText, List.append_assoc, List.cons_append,
    Option.bind_eq_bind, Option.bind_some, symbol?_self, year?_yearText, month, day,
    hour, minute, second, milli]
  rfl

/-- Only whole milliseconds are written. -/
theorem text_wholeMillis (t : Instant) : text t.wholeMillis = text t := by
  -- the fields above the milliseconds read nothing of the nanoseconds but the leap second
  have ofDay : t.wholeMillis.secondOfDay = t.secondOfDay := rfl
  have second : t.wholeMillis.second = t.second := by
    simp only [Instant.second, t.isLeap_wholeMillis, ofDay]
  have millis : t.wholeMillis.subsecond / nanosPerMilli = t.subsecond / nanosPerMilli := by
    simp only [Instant.subsecond, t.isLeap_wholeMillis]
    split
    · simp only [Instant.wholeMillis, nanosPerMilli, nanosPerSecond]
      omega
    · simp [Instant.wholeMillis, nanosPerMilli]
  simp only [text, Instant.clockText, second, millis]
  rfl

end ServerTime

namespace Stamp

theorem parse?_format (t : Instant) : parse? (format t) = some t.wholeMillis := by
  simp [parse?, format, ServerTime.read?_text]

theorem format_wholeMillis (t : Instant) : format t.wholeMillis = format t := by
  rw [format, ServerTime.text_wholeMillis, format]

/-- The stamp of any instant is read back as that instant in whole milliseconds, leap seconds
    included.  So a stamp that was read and written once is written the same ever after, and
    stamps are in the order of their instants. -/
theorem stamps_read_back :
    (∀ t : Instant, ∃ back, parse? (format t) = some back ∧
      back.seconds = t.seconds ∧ back.nanos = t.nanos / nanosPerMilli * nanosPerMilli ∧
      (back.IsLeap ↔ t.IsLeap)) ∧
    (∀ s t, parse? s = some t → ∃ back, parse? (format t) = some back ∧ format back = format t) ∧
    ∀ t u : Instant, t ≤ u →
      ∃ t' u', parse? (format t) = some t' ∧ parse? (format u) = some u' ∧ t' ≤ u' := by
  refine ⟨?_, ?_, ?_⟩
  · intro t
    exact ⟨t.wholeMillis, parse?_format t, rfl, rfl, t.isLeap_wholeMillis⟩
  · intro s t _
    exact ⟨t.wholeMillis, parse?_format t, format_wholeMillis t⟩
  · intro t u le
    exact ⟨t.wholeMillis, u.wholeMillis, parse?_format t, parse?_format u, Instant.wholeMillis_mono le⟩

/-- An Internet time stamp within a leap second, which is written in whole milliseconds. -/
theorem stamps_read_back_leap :
    ∃ t, parse? "2017-01-01T00:59:60.0425+01:00" = some t ∧ t.IsLeap ∧
      format t = "2016-12-31T23:59:60.042Z" ∧
      ∃ back, parse? (format t) = some back ∧ format back = format t := by
  have leap : (parse? "2017-01-01T00:59:60.0425+01:00").map (fun t => (decide t.IsLeap, format t)) =
      some (true, "2016-12-31T23:59:60.042Z") := by
    decide +kernel
  obtain ⟨t, read, same⟩ := Option.map_eq_some_iff.mp leap
  obtain ⟨isLeap, written⟩ := Prod.mk.inj same
  exact ⟨t, read, of_decide_eq_true isLeap, written, stamps_read_back.2.1 _ t read⟩

end Stamp

end Backlog
