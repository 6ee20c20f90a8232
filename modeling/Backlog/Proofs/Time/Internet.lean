import Backlog.Proofs.Time.Stamps
import Mathlib.Data.List.TakeWhile

/-!
# Internet time stamps and the wire form

`Rfc3339.Spelling` is an Internet time stamp in its parts, with its text and its instant:
`Rfc3339.read?` accepts the texts of spellings and no others.  The wire form accepts some of
these texts, and others besides.  Where both accept a text they read the same instant, so that
it does not matter which of them is tried first.
-/

namespace Backlog

open Text

namespace Rfc3339

/-! ## Offsets -/

/-- What stands at the end of a stamp: a letter for UTC, or a sign with hours and minutes. -/
inductive Zone where
  | utc (letter : Char) (isUtc : letter = 'Z' ∨ letter = 'z')
  | off (sign : Char) (isSign : sign = '+' ∨ sign = '-' ∨ sign = '\u2212') (hours : Fin 24)
      (minutes : Fin 60)

def Zone.text : Zone → List Char
  | utc letter _ => [letter]
  | off sign _ hours minutes => sign :: fixedDigits 2 hours ++ ':' :: fixedDigits 2 minutes

/-- By how many seconds the clocks there are ahead of UTC. -/
def Zone.seconds : Zone → Int
  | utc _ _ => 0
  | off sign _ hours minutes =>
    let ahead : Int := ((hours * 60 + minutes) * 60 : Nat)
    if sign = '+' then ahead else -ahead

theorem Zone.seconds_bounds (zone : Zone) :
    -86400 < zone.seconds ∧ zone.seconds < 86400 ∧ zone.seconds % 60 = 0 := by
  cases zone with
  | utc => simp [seconds]
  | off sign isSign hours minutes =>
    have hoursBelow := hours.isLt
    have minutesBelow := minutes.isLt
    simp only [seconds]
    split <;> omega

/-- No zone goes on like the decimals or the digits before it. -/
theorem Zone.text_starts (zone : Zone) :
    ∃ c rest, zone.text = c :: rest ∧ c.isDigit = false ∧ c ≠ '.' := by
  cases zone with
  | utc letter isUtc =>
    refine ⟨letter, [], rfl, ?_⟩
    rcases isUtc with rfl | rfl <;> decide
  | off sign isSign hours minutes =>
    refine ⟨sign, _, rfl, ?_⟩
    rcases isSign with rfl | rfl | rfl <;> decide

theorem exactly?_fixedDigits {width n : Nat} (below : n < powerOfTen width) (rest : List Char) :
    exactly? width (fixedDigits width n ++ rest) = some (n, rest) :=
  number?_eq_some_iff.mpr ⟨below, rfl⟩

theorem offset?_text (zone : Zone) (rest : List Char) :
    offset? (zone.text ++ rest) = some (zone.seconds, rest) := by
  cases zone with
  | utc letter isUtc => rcases isUtc with rfl | rfl <;> rfl
  | off sign isSign hours minutes =>
    have hour := exactly?_fixedDigits (Nat.lt_trans hours.isLt (by decide) : (hours : Nat) < powerOfTen 2)
    have minute :=
      exactly?_fixedDigits (Nat.lt_trans minutes.isLt (by decide) : (minutes : Nat) < powerOfTen 2)
    have within : (hours : Nat) ≤ 23 ∧ (minutes : Nat) ≤ 59 := by omega
    rcases isSign with rfl | rfl | rfl <;>
      simp [offset?, sign?, Zone.text, Zone.seconds, hour, minute, symbol?_self, within]

theorem sign?_eq_some {s rest : List Char} {sign : Int} (read : sign? s = some (sign, rest)) :
    ∃ c, (c = '+' ∨ c = '-' ∨ c = '\u2212') ∧ s = c :: rest ∧ sign = if c = '+' then 1 else -1 := by
  unfold sign? at read
  split at read
  · cases read
    exact ⟨'+', by simp, rfl, rfl⟩
  · cases read
    exact ⟨'-', by simp, rfl, rfl⟩
  · cases read
    exact ⟨'\u2212', by simp, rfl, rfl⟩
  · cases read

theorem exists_zone {s rest : List Char} {seconds : Int} (read : offset? s = some (seconds, rest)) :
    ∃ zone : Zone, s = zone.text ++ rest ∧ zone.seconds = seconds := by
  unfold offset? at read
  split at read
  · cases read
    exact ⟨.utc 'Z' (.inl rfl), rfl, rfl⟩
  · cases read
    exact ⟨.utc 'z' (.inr rfl), rfl, rfl⟩
  · simp only [Option.bind_eq_bind, Option.bind_eq_some_iff, Prod.exists, exactly?, number?_eq_some_iff,
      symbol?_eq_some_iff] at read
    obtain ⟨sign, _, signs, hours, _, ⟨-, rfl⟩, _, rfl, minutes, _, ⟨-, rfl⟩, within⟩ := read
    obtain ⟨c, isSign, rfl, rfl⟩ := sign?_eq_some signs
    split at within
    · rename_i bounds
      cases within
      refine ⟨.off c isSign ⟨hours, by omega⟩ ⟨minutes, by omega⟩, by simp [Zone.text], ?_⟩
      simp only [Zone.seconds]
      split <;> omega
    · cases within

/-! ## Decimals -/

/-- The nanoseconds of decimals; what is less than one does not count. -/
def fraction (digits : List Char) : Nat :=
  numeral digits * nanosPerSecond / powerOfTen digits.length

/-- Decimals with their point, if there are any. -/
def decimalText : List Char → List Char
  | [] => []
  | c :: digits => '.' :: c :: digits

theorem powerOfTen_pos (n : Nat) : 0 < powerOfTen n :=
  Nat.pow_pos (by decide)

theorem powerOfTen_add (m n : Nat) : powerOfTen (m + n) = powerOfTen m * powerOfTen n :=
  Nat.pow_add 10 m n

theorem fraction_lt {digits : List Char} (all : IsDigits digits) : fraction digits < nanosPerSecond := by
  have below := (fixedDigits_numeral all).1
  rw [fraction, Nat.div_lt_iff_lt_mul (powerOfTen_pos _), Nat.mul_comm nanosPerSecond]
  exact Nat.mul_lt_mul_of_pos_right below (by decide)

/-- Nine digits are enough. -/
theorem fraction_eq {digits : List Char} (all : IsDigits digits) :
    numeral (digits.take 9) * powerOfTen (9 - (digits.take 9).length) = fraction digits := by
  have nano : nanosPerSecond = powerOfTen 9 := rfl
  by_cases short : digits.length ≤ 9
  · have split : powerOfTen 9 = powerOfTen (9 - digits.length) * powerOfTen digits.length := by
      rw [← powerOfTen_add, Nat.sub_add_cancel short]
    rw [List.take_of_length_le short, fraction, nano, split, ← Nat.mul_assoc,
      Nat.mul_div_cancel _ (powerOfTen_pos _)]
  · have more : IsDigits (digits.drop 9) := fun c member => all c (List.mem_of_mem_drop member)
    have nine : (digits.take 9).length = 9 := by
      rw [List.length_take]
      omega
    have count : digits.length = (digits.drop 9).length + 9 := by
      rw [List.length_drop]
      omega
    have value := numeral_append (digits.take 9) more
    rw [List.take_append_drop] at value
    rw [nine, fraction, nano, count, powerOfTen_add, Nat.mul_div_mul_right _ _ (powerOfTen_pos 9), value,
      Nat.mul_comm (numeral _) (powerOfTen (digits.drop 9).length), Nat.mul_add_div (powerOfTen_pos _),
      Nat.div_eq_of_lt (fixedDigits_numeral more).1]
    exact Nat.mul_one _

theorem nanosOfDecimals?_run {digits rest : List Char} (all : IsDigits digits) (some : digits ≠ [])
    (ends : ∀ c ∈ rest.head?, c.isDigit = false) :
    nanosOfDecimals? (digits ++ rest) = .some (fraction digits, rest) := by
  have left : (digits.drop 9 ++ rest).dropWhile Char.isDigit = rest := by
    rw [List.dropWhile_append_of_pos fun c member => all c (List.mem_of_mem_drop member)]
    cases rest with
    | nil => rfl
    | cons c rest => exact List.dropWhile_cons_of_neg (by simp [ends c rfl])
  have taken : (digits.take 9).isEmpty = false := by
    cases digits with
    | nil => exact absurd rfl some
    | cons c digits => rfl
  simp only [nanosOfDecimals?, takeDigits_append_run all 9 ends, taken, left, fraction_eq all]
  rfl

theorem decimals?_text {digits : List Char} (all : IsDigits digits) (zone : Zone) :
    decimals? (decimalText digits ++ zone.text) = some (fraction digits, zone.text) := by
  obtain ⟨c, rest, starts, other, noPoint⟩ := zone.text_starts
  rw [starts]
  cases digits with
  | nil =>
    have none : fraction [] = 0 := rfl
    rw [none]
    unfold decimals?
    split
    · rename_i point
      exact absurd (List.cons.inj point).1 noPoint
    · rfl
  | cons first digits =>
    exact nanosOfDecimals?_run all (List.cons_ne_nil _ _) (by simpa using other)

theorem exists_decimals {s rest : List Char} {nanos : Nat} (read : decimals? s = some (nanos, rest)) :
    ∃ digits, IsDigits digits ∧ s = decimalText digits ++ rest ∧ fraction digits = nanos := by
  unfold decimals? at read
  split at read
  · rename_i after
    have all : IsDigits (after.takeWhile Char.isDigit) := fun c member => List.mem_takeWhile_imp member
    have ends : ∀ c ∈ (after.dropWhile Char.isDigit).head?, c.isDigit = false := by
      intro c first
      have stops := List.head?_dropWhile_not Char.isDigit after
      rw [Option.mem_def.mp first] at stops
      exact stops
    rw [← List.takeWhile_append_dropWhile (p := Char.isDigit) (l := after)] at read ⊢
    generalize after.takeWhile Char.isDigit = digits at read all ⊢
    generalize after.dropWhile Char.isDigit = tail at read ends ⊢
    cases digits with
    | nil =>
      -- a point is not read where no digit follows it
      have none : (takeDigits 9 tail).1 = [] := by
        have taken := takeDigits_append_run all 9 ends
        rw [List.nil_append] at taken
        rw [taken]
        rfl
      simp [nanosOfDecimals?, none] at read
    | cons c digits =>
      rw [nanosOfDecimals?_run all (List.cons_ne_nil _ _) ends] at read
      cases read
      exact ⟨c :: digits, all, rfl, rfl⟩
  · cases read
    exact ⟨[], by simp [IsDigits], rfl, rfl⟩

/-! ## Spellings -/

/-- The parts of an Internet time stamp, each as it may be there. -/
structure Spelling where
  year : Nat
  month : Nat
  day : Nat
  /-- What stands between the date and the time of day. -/
  separator : Char
  hour : Nat
  minute : Nat
  second : Nat
  /-- The digits after the point; without any there is no point either. -/
  decimals : List Char
  zone : Zone
  year_le : year ≤ 9999
  isValid : (⟨year, month, day⟩ : Date).isValid = true
  separates : separator = 'T' ∨ separator = 't' ∨ separator = ' '
  hour_le : hour ≤ 23
  minute_le : minute ≤ 59
  second_le : second ≤ 60
  isDigits : IsDigits decimals

namespace Spelling

def text (p : Spelling) : List Char :=
  fixedDigits 4 p.year ++ '-' :: fixedDigits 2 p.month ++ '-' :: fixedDigits 2 p.day ++
    p.separator :: fixedDigits 2 p.hour ++ ':' :: fixedDigits 2 p.minute ++
    ':' :: fixedDigits 2 p.second ++ decimalText p.decimals ++ p.zone.text

/-- The day of a date of four digits lies well within the range of instants. -/
theorem toDays_bounds (p : Spelling) :
    -800000 ≤ (⟨p.year, p.month, p.day⟩ : Date).toDays ∧
      (⟨p.year, p.month, p.day⟩ : Date).toDays ≤ 3000000 := by
  obtain ⟨⟨first, last⟩, begins, -⟩ := Date.isValid_iff.mp p.isValid
  have most := Date.day_le_of_isValid p.isValid
  have years := p.year_le
  simp only at first last begins most
  simp only [Date.toDays, Date.daysBefore1970]
  split <;> omega

/-- The seconds of a stamp from the start of 1970, in UTC, with a leap second at the second 59. -/
def seconds (p : Spelling) : Int :=
  (⟨p.year, p.month, p.day⟩ : Date).toDays * secondsPerDay +
    ((p.hour * 3600 + p.minute * 60 + min p.second 59 : Nat) : Int) - p.zone.seconds

/-- The nanoseconds after these seconds.  The second 60 is a leap second. -/
def nanos (p : Spelling) : Nat :=
  (if p.second = 60 then nanosPerSecond else 0) + fraction p.decimals

theorem seconds_bounds (p : Spelling) :
    -8334601228800 ≤ p.seconds ∧ p.seconds ≤ 8210266876799 := by
  have days := p.toDays_bounds
  have zone := p.zone.seconds_bounds
  have hours := p.hour_le
  have minutes := p.minute_le
  simp only [seconds, secondsPerDay]
  omega

theorem nanos_bound (p : Spelling) : p.nanos < 2000000000 := by
  have below := fraction_lt p.isDigits
  simp only [nanos, nanosPerSecond] at below ⊢
  split <;> omega

theorem seconds_of_leap (p : Spelling) (leap : 1000000000 ≤ p.nanos) : p.seconds % 60 = 59 := by
  have below := fraction_lt p.isDigits
  have zone := p.zone.seconds_bounds
  have last : p.second = 60 := by
    by_contra plain
    rw [nanos, if_neg plain] at leap
    simp only [nanosPerSecond] at below
    omega
  simp only [seconds, last, secondsPerDay]
  omega

def instant (p : Spelling) : Instant :=
  ⟨p.seconds, p.nanos, p.seconds_bounds.1, p.seconds_bounds.2, p.nanos_bound, p.seconds_of_leap⟩

/-- The fields of a stamp are those of its instant. -/
theorem ofFields?_eq (p : Spelling) :
    Instant.ofFields? ⟨p.year, p.month, p.day⟩ p.hour p.minute p.second (fraction p.decimals)
      p.zone.seconds = some p.instant := by
  have inRange : ((⟨p.year, p.month, p.day⟩ : Date).isValid && p.hour ≤ 23 && p.minute ≤ 59 &&
      p.second ≤ 60) = true := by
    simp [p.isValid, p.hour_le, p.minute_le, p.second_le]
  have most := p.second_le
  rw [Instant.ofFields?, if_pos inRange, Instant.of?_eq_some_iff]
  by_cases leap : p.second = 60
  · simp [instant, seconds, nanos, leap]
  · have below : min p.second 59 = p.second := by omega
    simp [instant, seconds, nanos, leap, below]

theorem widths (p : Spelling) :
    p.year < powerOfTen 4 ∧ p.month < powerOfTen 2 ∧ p.day < powerOfTen 2 ∧ p.hour < powerOfTen 2 ∧
      p.minute < powerOfTen 2 ∧ p.second < powerOfTen 2 := by
  obtain ⟨⟨-, last⟩, -⟩ := Date.isValid_iff.mp p.isValid
  have most := Date.day_le_of_isValid p.isValid
  have four : powerOfTen 4 = 10000 := rfl
  have two : powerOfTen 2 = 100 := rfl
  have years := p.year_le
  have hours := p.hour_le
  have minutes := p.minute_le
  have seconds := p.second_le
  simp only at last most
  omega

/-- No digit follows the seconds. -/
theorem seconds_end (p : Spelling) :
    ∃ c rest, decimalText p.decimals ++ p.zone.text = c :: rest ∧ c.isDigit = false := by
  obtain ⟨c, rest, starts, other, -⟩ := p.zone.text_starts
  cases p.decimals with
  | nil => exact ⟨c, rest, starts, other⟩
  | cons first digits => exact ⟨'.', _, rfl, by decide⟩

end Spelling

theorem separator?_eq_some_iff {s rest : List Char} :
    separator? s = some rest ↔ ∃ c, (c = 'T' ∨ c = 't' ∨ c = ' ') ∧ s = c :: rest := by
  cases s with
  | nil => simp [separator?]
  | cons c s =>
    simp only [separator?, List.cons.injEq]
    split <;> simp_all

theorem read?_text (p : Spelling) : read? p.text = some p.instant := by
  obtain ⟨years, months, days, hours, minutes, seconds⟩ := p.widths
  have separator (rest : List Char) : separator? (p.separator :: rest) = some rest :=
    separator?_eq_some_iff.mpr ⟨p.separator, p.separates, rfl⟩
  have zone := offset?_text p.zone []
  rw [List.append_nil] at zone
  rw [← p.ofFields?_eq]
  simp only [read?, Spelling.text, List.append_assoc, List.cons_append, Option.bind_eq_bind,
    Option.bind_some, exactly?_fixedDigits years, exactly?_fixedDigits months,
    exactly?_fixedDigits days, exactly?_fixedDigits hours, exactly?_fixedDigits minutes,
    exactly?_fixedDigits seconds, symbol?_self, separator, decimals?_text p.isDigits, zone]
  rfl

/-- What is read is a spelling of what it is read as. -/
theorem exists_spelling {s : List Char} {t : Instant} (read : read? s = some t) :
    ∃ p : Spelling, p.text = s ∧ p.instant = t := by
  simp only [read?, Option.bind_eq_bind, Option.bind_eq_some_iff, Prod.exists, exactly?,
    number?_eq_some_iff, symbol?_eq_some_iff, separator?_eq_some_iff] at read
  obtain ⟨year, _, ⟨years, rfl⟩, _, rfl, month, _, ⟨-, rfl⟩, _, rfl, day, _, ⟨-, rfl⟩, _,
    ⟨separator, separates, rfl⟩, hour, _, ⟨-, rfl⟩, _, rfl, minute, _, ⟨-, rfl⟩, _, rfl, second, _,
    ⟨-, rfl⟩, nanos, _, fractional, offset, _, zoned, made⟩ := read
  obtain ⟨decimals, isDigits, rfl, rfl⟩ := exists_decimals fractional
  obtain ⟨zone, rfl, rfl⟩ := exists_zone zoned
  split at made
  · rename_i ended
    obtain rfl := List.isEmpty_iff.mp ended
    -- the readers take any digits, and the bounds are checked when the instant is made
    have inRange : ((⟨year, month, day⟩ : Date).isValid && hour ≤ 23 && minute ≤ 59 &&
        second ≤ 60) = true := by
      by_contra outside
      rw [Instant.ofFields?, if_neg outside] at made
      cases made
    simp only [Bool.and_eq_true, decide_eq_true_eq] at inRange
    obtain ⟨⟨⟨isValid, hours⟩, minutes⟩, seconds⟩ := inRange
    have four : powerOfTen 4 = 10000 := rfl
    let p : Spelling := ⟨year, month, day, separator, hour, minute, second, decimals, zone,
      by omega, isValid, separates, hours, minutes, seconds, isDigits⟩
    refine ⟨p, ?_, ?_⟩
    · simp [p, Spelling.text]
    · have same := p.ofFields?_eq
      exact Option.some.inj (same.symm.trans made)
  · cases made

theorem read?_eq_some_iff {s : List Char} {t : Instant} :
    read? s = some t ↔ ∃ p : Spelling, p.text = s ∧ p.instant = t := by
  constructor
  · exact exists_spelling
  · rintro ⟨p, rfl, rfl⟩
    exact read?_text p

end Rfc3339

/-! ## The wire form -/

namespace ServerTime

open Rfc3339 (Spelling decimalText fraction)

/-- The wire form, with `decimals` as the reader of what may stand after the seconds. -/
def readWith? (decimals : List Char → Option (Nat × List Char)) (s : List Char) : Option Instant := do
  let (year, s) ← year? s
  let s ← symbol? '-' s
  let (month, s) ← field? s
  let s ← symbol? '-' s
  let (day, s) ← field? s
  let s ← symbol? 'T' s
  let (hour, s) ← field? s
  let s ← symbol? ':' s
  let (minute, s) ← field? s
  let s ← symbol? ':' s
  let (second, s) ← field? s
  let (nanos, s) ← decimals s
  let s ← symbol? 'Z' s
  if s.isEmpty then Instant.ofFields? ⟨year, month, day⟩ hour minute second nanos 0 else none

theorem read?_eq : read? = readWith? millis? := rfl

/-- Milliseconds in front of the end are decimals like others. -/
theorem decimals?_of_millis? {s : List Char} {nanos : Nat} (read : millis? s = some (nanos, ['Z'])) :
    Rfc3339.decimals? s = some (nanos, ['Z']) := by
  unfold millis? at read
  split at read
  · obtain ⟨⟨ms, rest⟩, three, same⟩ := Option.map_eq_some_iff.mp read
    cases same
    obtain ⟨below, rfl⟩ := number?_eq_some_iff.mp three
    have nanos : fraction (fixedDigits 3 ms) = ms * nanosPerMilli := by
      rw [fraction, numeral_fixedDigits below, length_fixedDigits]
      change ms * 1000000000 / 1000 = ms * 1000000
      omega
    rw [Rfc3339.decimals?, Rfc3339.nanosOfDecimals?_run (isDigits_fixedDigits 3 ms)
      (fixedDigits_ne_nil 2 ms) (by simp), nanos]
  · cases read
    rfl

/-- Of an Internet time stamp the wire form reads the same fields, if it reads it. -/
theorem eq_instant_of_readWith? {decimals : List Char → Option (Nat × List Char)}
    (within : ∀ s n, decimals s = some (n, ['Z']) → Rfc3339.decimals? s = some (n, ['Z']))
    (p : Spelling) {t : Instant} (read : readWith? decimals p.text = some t) : t = p.instant := by
  obtain ⟨years, months, days, hours, minutes, seconds⟩ := p.widths
  have separator : p.separator.isDigit = false := by
    rcases p.separates with is | is | is <;> rw [is] <;> decide
  obtain ⟨c, rest, ends, other⟩ := p.seconds_end
  have year := year?_digits (isDigits_fixedDigits 4 p.year) (fixedDigits_ne_nil 3 _)
    (Nat.le_of_eq (length_fixedDigits 4 _))
  rw [numeral_fixedDigits years] at year
  have month := field?_fixedDigits months (by decide : Char.isDigit '-' = false)
  have day := field?_fixedDigits days separator
  have hour := field?_fixedDigits hours (by decide : Char.isDigit ':' = false)
  have minute := field?_fixedDigits minutes (by decide : Char.isDigit ':' = false)
  have second := field?_fixedDigits seconds other rest
  rw [← ends] at second
  simp only [readWith?, Spelling.text, List.append_assoc, List.cons_append, Option.bind_eq_bind,
    Option.bind_some, symbol?_self, year, month, day] at read
  -- of the three separators the wire form has only one
  obtain ⟨_, separates, read⟩ := Option.bind_eq_some_iff.mp read
  obtain ⟨-, rfl⟩ := List.cons.inj (symbol?_eq_some_iff.mp separates)
  simp only [hour, minute, second, Option.bind_some, symbol?_self, Option.bind_eq_some_iff, Prod.exists,
    symbol?_eq_some_iff] at read
  obtain ⟨nanos, _, cut, _, rfl, made⟩ := read
  split at made
  · rename_i ended
    obtain rfl := List.isEmpty_iff.mp ended
    have both := (Rfc3339.decimals?_text p.isDigits p.zone).symm.trans (within _ _ cut)
    obtain ⟨rfl, utc⟩ := Prod.mk.inj (Option.some.inj both)
    have zone := Rfc3339.offset?_text p.zone []
    rw [utc] at zone
    obtain ⟨ahead, -⟩ := Prod.mk.inj (Option.some.inj zone)
    have fields := p.ofFields?_eq
    rw [← ahead] at fields
    exact Option.some.inj (made.symm.trans fields)
  · cases made

end ServerTime

namespace Stamp

/-- An Internet time stamp is read as its instant, and those are all that are read as such.  The
    wire form, which is tried first, reads the same instant where it reads one, and would also if it
    took any number of decimals.  So it adds stamps and changes none. -/
theorem forms_agree :
    (∀ p : Rfc3339.Spelling, parse? (String.ofList p.text) = some p.instant) ∧
      (∀ s t, Rfc3339.read? s = some t ↔ ∃ p : Rfc3339.Spelling, p.text = s ∧ p.instant = t) ∧
      (∀ wire, wire = ServerTime.read? ∨ wire = ServerTime.readWith? Rfc3339.decimals? →
        ∀ s t u, wire s = some t → Rfc3339.read? s = some u → t = u) ∧
      ∀ s : String, parse? s = (Rfc3339.read? s.toList <|> ServerTime.read? s.toList) := by
  have agree : ∀ wire, wire = ServerTime.read? ∨ wire = ServerTime.readWith? Rfc3339.decimals? →
      ∀ s t u, wire s = some t → Rfc3339.read? s = some u → t = u := by
    intro wire isWire s t u read internet
    obtain ⟨p, rfl, rfl⟩ := Rfc3339.exists_spelling internet
    rcases isWire with rfl | rfl
    · rw [ServerTime.read?_eq] at read
      exact ServerTime.eq_instant_of_readWith? (fun _ _ => ServerTime.decimals?_of_millis?) p read
    · exact ServerTime.eq_instant_of_readWith? (fun _ _ same => same) p read
  -- so which of the two is tried first makes no difference
  have either : ∀ s : String, parse? s = (Rfc3339.read? s.toList <|> ServerTime.read? s.toList) := by
    intro s
    unfold parse?
    cases wire : ServerTime.read? s.toList with
    | none => cases Rfc3339.read? s.toList <;> rfl
    | some t =>
      cases internet : Rfc3339.read? s.toList with
      | none => rfl
      | some u => rw [agree _ (.inl rfl) _ t u wire internet]
  refine ⟨?_, fun s t => Rfc3339.read?_eq_some_iff, agree, either⟩
  intro p
  rw [either, String.toList_ofList, Rfc3339.read?_text p]
  rfl

/-- A leap second, which both forms read. -/
theorem forms_agree_leap :
    let s := "2016-12-31T23:59:60.042Z".toList
    ∃ t, ServerTime.read? s = some t ∧ Rfc3339.read? s = some t ∧ t.IsLeap := by
  intro s
  have wire : (ServerTime.read? s).map (fun t => decide t.IsLeap) = some true := by decide +kernel
  have internet : (Rfc3339.read? s).isSome := by decide +kernel
  obtain ⟨t, read, leap⟩ := Option.map_eq_some_iff.mp wire
  obtain ⟨u, read'⟩ := Option.isSome_iff_exists.mp internet
  have same : t = u := forms_agree.2.2.1 _ (.inl rfl) s t u read read'
  exact ⟨t, read, same ▸ read', of_decide_eq_true leap⟩

end Stamp

end Backlog
