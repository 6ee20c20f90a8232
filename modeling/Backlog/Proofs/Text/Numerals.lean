import Backlog.Text.Blank
import Backlog.Text.Numeral
import Mathlib.Data.List.Basic
import Mathlib.Data.List.Induction

/-!
# Numerals read back

What the writers of decimal numbers write is a run of digits for the same number, and a
reader takes a whole run when the text after it does not go on with a digit, or when it
takes no more digits anyhow.
-/

namespace Backlog.Text

theorem isDigit_digit {n : Nat} (small : n < 10) : (digit n).isDigit = true := by
  have all : ∀ n < 10, (digit n).isDigit = true := by decide
  exact all n small

theorem digitValue_digit {n : Nat} (small : n < 10) : digitValue (digit n) = n := by
  have all : ∀ n < 10, digitValue (digit n) = n := by decide
  exact all n small

theorem toNat_of_isDigit {c : Char} (isDigit : c.isDigit = true) : 48 ≤ c.toNat ∧ c.toNat ≤ 57 := by
  simp only [Char.isDigit, Bool.and_eq_true, decide_eq_true_eq, ge_iff_le, UInt32.le_iff_toNat_le] at isDigit
  exact isDigit

theorem digitValue_lt {c : Char} (isDigit : c.isDigit = true) : digitValue c < 10 := by
  have bounds := toNat_of_isDigit isDigit
  rw [digitValue]
  omega

theorem digit_digitValue {c : Char} (isDigit : c.isDigit = true) : digit (digitValue c) = c := by
  have bounds := toNat_of_isDigit isDigit
  have code : 48 + (c.toNat - 48) = c.toNat := by omega
  rw [digit, digitValue, code, Char.ofNat_toNat]

theorem isBlank_of_isDigit {c : Char} (isDigit : c.isDigit = true) : isBlank c = false := by
  have bounds := toNat_of_isDigit isDigit
  have below (n : Nat) (above : 57 < n) : ¬ n ≤ c.toNat ∧ c.toNat ≠ n := by omega
  have above : ¬ c.toNat ≤ 13 ∧ c.toNat ≠ 32 := by omega
  simp [isBlank, below, above]

/-- Whether all characters are digits. -/
def IsDigits (s : List Char) : Prop :=
  ∀ c ∈ s, c.isDigit = true

theorem IsDigits.append {s s' : List Char} (first : IsDigits s) (second : IsDigits s') :
    IsDigits (s ++ s') := by
  intro c member
  rcases List.mem_append.mp member with before | after
  · exact first c before
  · exact second c after

theorem isDigits_singleton {n : Nat} (small : n < 10) : IsDigits [digit n] := by
  intro c member
  rw [List.mem_singleton.mp member]
  exact isDigit_digit small

theorem IsDigits.isDigit_head {s rest s' : List Char} {c : Char} (all : IsDigits s) (some : s ≠ [])
    (starts : s ++ rest = c :: s') : c.isDigit = true := by
  cases s with
  | nil => exact absurd rfl some
  | cons first s =>
    obtain ⟨rfl, -⟩ := List.cons.inj starts
    exact all first List.mem_cons_self

/-! ## What is written -/

theorem numeral_append_digit (s : List Char) {n : Nat} (small : n < 10) :
    numeral (s ++ [digit n]) = 10 * numeral s + n := by
  simp [numeral, digitValue_digit small]

theorem isDigits_fixedDigits (width n : Nat) : IsDigits (fixedDigits width n) := by
  induction width generalizing n with
  | zero => simp [IsDigits, fixedDigits]
  | succ width ih => exact (ih (n / 10)).append (isDigits_singleton (by omega))

theorem powerOfTen_succ (width : Nat) : powerOfTen (width + 1) = powerOfTen width * 10 := rfl

theorem numeral_fixedDigits {width n : Nat} (fits : n < powerOfTen width) :
    numeral (fixedDigits width n) = n := by
  induction width generalizing n with
  | zero =>
    have none : n = 0 := Nat.lt_one_iff.mp fits
    simp [fixedDigits, numeral, none]
  | succ width ih =>
    rw [powerOfTen_succ] at fits
    rw [fixedDigits, numeral_append_digit _ (by omega), ih (by omega)]
    omega

theorem isDigits_decimal (n : Nat) : IsDigits (decimal n) := by
  fun_induction decimal n with
  | case1 n small => exact isDigits_singleton small
  | case2 n large ih => exact ih.append (isDigits_singleton (by omega))

theorem numeral_decimal (n : Nat) : numeral (decimal n) = n := by
  fun_induction decimal n with
  | case1 n small => simpa [numeral] using digitValue_digit small
  | case2 n large ih =>
    rw [numeral_append_digit _ (by omega), ih]
    omega

theorem decimal_ne_nil (n : Nat) : decimal n ≠ [] := by
  unfold decimal
  split <;> simp

theorem fixedDigits_ne_nil (width n : Nat) : fixedDigits (width + 1) n ≠ [] := by
  simp [fixedDigits]

theorem isDigits_paddedDecimal (width n : Nat) : IsDigits (paddedDecimal width n) := by
  unfold paddedDecimal
  split
  · exact isDigits_fixedDigits width n
  · exact isDigits_decimal n

theorem numeral_paddedDecimal (width n : Nat) : numeral (paddedDecimal width n) = n := by
  unfold paddedDecimal
  split
  · rename_i fits
    exact numeral_fixedDigits fits
  · exact numeral_decimal n

theorem paddedDecimal_ne_nil (width n : Nat) : paddedDecimal (width + 1) n ≠ [] := by
  unfold paddedDecimal
  split
  · exact fixedDigits_ne_nil width n
  · exact decimal_ne_nil n

/-! ## What is read -/

/-- A run of digits is taken as far as the limit allows, and ends at any other character. -/
theorem takeDigits_append_run {digits rest : List Char} (all : IsDigits digits) (limit : Nat)
    (ends : ∀ c ∈ rest.head?, c.isDigit = false) :
    takeDigits limit (digits ++ rest) = (digits.take limit, digits.drop limit ++ rest) := by
  induction digits generalizing limit with
  | nil =>
    cases rest with
    | nil => cases limit <;> rfl
    | cons c rest => cases limit <;> simp [takeDigits, ends c rfl]
  | cons first digits ih =>
    cases limit with
    | zero => rfl
    | succ limit =>
      obtain ⟨isDigit, more⟩ := List.forall_mem_cons.mp all
      simp [takeDigits, isDigit, ih more]

theorem takeDigits_run {digits : List Char} (all : IsDigits digits) {limit : Nat}
    (short : digits.length ≤ limit) {c : Char} (other : c.isDigit = false) (rest : List Char) :
    takeDigits limit (digits ++ c :: rest) = (digits, c :: rest) := by
  rw [takeDigits_append_run all limit (by simpa using other), List.take_of_length_le short,
    List.drop_of_length_le short, List.nil_append]

theorem takeDigits_full {digits : List Char} (all : IsDigits digits) (rest : List Char) :
    takeDigits digits.length (digits ++ rest) = (digits, rest) := by
  induction digits with
  | nil => rfl
  | cons first digits ih =>
    obtain ⟨isDigit, more⟩ := List.forall_mem_cons.mp all
    simp [takeDigits, isDigit, ih more]

theorem number?_run {digits : List Char} (all : IsDigits digits) {least most : Nat}
    (enough : least ≤ digits.length) (short : digits.length ≤ most) {c : Char}
    (other : c.isDigit = false) (rest : List Char) :
    number? least most (digits ++ c :: rest) = some (numeral digits, c :: rest) := by
  simp [number?, takeDigits_run all short other, enough]

theorem anyNumber?_run {digits : List Char} (all : IsDigits digits) (some : digits ≠ []) {c : Char}
    (other : c.isDigit = false) (rest : List Char) :
    anyNumber? (digits ++ c :: rest) = .some (numeral digits, c :: rest) :=
  number?_run all (List.length_pos_of_ne_nil some) (by simp) other rest

theorem symbol?_self (c : Char) (rest : List Char) : symbol? c (c :: rest) = some rest :=
  if_pos rfl

theorem skipBlanks_cons {c : Char} (solid : isBlank c = false) (rest : List Char) :
    skipBlanks (c :: rest) = c :: rest := by
  simp [skipBlanks, solid]

theorem skipBlanks_run {digits : List Char} (all : IsDigits digits) (some : digits ≠ [])
    (rest : List Char) : skipBlanks (digits ++ rest) = digits ++ rest := by
  cases text : digits ++ rest with
  | nil => rfl
  | cons c s => exact skipBlanks_cons (isBlank_of_isDigit (all.isDigit_head some text)) s

/-! ## What was read -/

/-- A run of digits is what is written of its number with as many digits. -/
theorem fixedDigits_numeral {digits : List Char} (all : IsDigits digits) :
    numeral digits < powerOfTen digits.length ∧
      fixedDigits digits.length (numeral digits) = digits := by
  induction digits using List.reverseRecOn with
  | nil => exact ⟨Nat.one_pos, rfl⟩
  | append_singleton digits c ih =>
    have isDigit : c.isDigit = true := all c (List.mem_append_right _ List.mem_cons_self)
    obtain ⟨below, same⟩ := ih fun c member => all c (List.mem_append_left _ member)
    have small := digitValue_lt isDigit
    have value : numeral (digits ++ [c]) = 10 * numeral digits + digitValue c := by
      rw [← digit_digitValue isDigit, numeral_append_digit digits small, digitValue_digit small]
    have front : (10 * numeral digits + digitValue c) / 10 = numeral digits := by omega
    have last : (10 * numeral digits + digitValue c) % 10 = digitValue c := by omega
    rw [value, List.length_append, List.length_singleton, powerOfTen_succ]
    refine ⟨by omega, ?_⟩
    rw [fixedDigits, front, last, same, digit_digitValue isDigit]

theorem numeral_append (digits : List Char) {more : List Char} (all : IsDigits more) :
    numeral (digits ++ more) = numeral digits * powerOfTen more.length + numeral more := by
  induction more using List.reverseRecOn with
  | nil => simp [numeral, powerOfTen]
  | append_singleton more c ih =>
    have isDigit : c.isDigit = true := all c (List.mem_append_right _ List.mem_cons_self)
    have small := digitValue_lt isDigit
    have before := ih fun c member => all c (List.mem_append_left _ member)
    rw [← List.append_assoc, ← digit_digitValue isDigit, numeral_append_digit _ small,
      numeral_append_digit _ small, before, List.length_append, List.length_singleton, powerOfTen_succ,
      ← Nat.mul_assoc, Nat.mul_add, Nat.mul_comm 10 (_ * _), Nat.add_assoc]

theorem takeDigits_digits (limit : Nat) (s : List Char) :
    IsDigits (takeDigits limit s).1 ∧ (takeDigits limit s).1.length ≤ limit := by
  induction limit generalizing s with
  | zero => exact ⟨by simp [IsDigits, takeDigits], Nat.le_refl _⟩
  | succ limit ih =>
    cases s with
    | nil => exact ⟨by simp [IsDigits, takeDigits], Nat.zero_le _⟩
    | cons c s =>
      obtain ⟨all, short⟩ := ih s
      by_cases isDigit : c.isDigit = true
      · simp only [takeDigits, isDigit, if_true, List.length_cons]
        exact ⟨List.forall_mem_cons.mpr ⟨isDigit, all⟩, Nat.succ_le_succ short⟩
      · simp [takeDigits, isDigit, IsDigits]

/-- A number of a fixed width is read where it is written, whatever follows. -/
theorem number?_eq_some_iff {width n : Nat} {s rest : List Char} :
    number? width width s = some (n, rest) ↔
      n < powerOfTen width ∧ s = fixedDigits width n ++ rest := by
  constructor
  · intro read
    obtain ⟨all, short⟩ := takeDigits_digits width s
    have whole := takeDigits_append width s
    unfold number? at read
    generalize takeDigits width s = taken at read all short whole
    obtain ⟨digits, rest'⟩ := taken
    simp only at read
    split at read
    · cases read
    · rename_i enough
      cases read
      obtain rfl : digits.length = width := Nat.le_antisymm short (Nat.le_of_not_lt enough)
      obtain ⟨below, same⟩ := fixedDigits_numeral all
      exact ⟨below, by rw [same, whole]⟩
  · rintro ⟨below, rfl⟩
    have full := takeDigits_full (isDigits_fixedDigits width n) rest
    rw [length_fixedDigits] at full
    simp [number?, full, length_fixedDigits, numeral_fixedDigits below]

theorem symbol?_eq_some_iff {c : Char} {s rest : List Char} :
    symbol? c s = some rest ↔ s = c :: rest := by
  cases s with
  | nil => simp [symbol?]
  | cons d s => by_cases same : d = c <;> simp [symbol?, same]

end Backlog.Text
