import Backlog.Proofs.Text.Numerals
import Backlog.Proofs.Toml.Strings
import Backlog.Toml.Document

/-!
# Values read back

A string or an integer at the end of a line is the value that was written
(`value?_writeString`, `value?_writeInteger`).  An integer is tried as a date, as a time and as a
floating point number first, and none of these takes it.
-/

namespace Backlog.Toml

open Backlog.Text

/-! ## Runs of digits -/

theorem isDigit_ne {c d : Char} (isDigit : c.isDigit = true) (other : d.isDigit = false) : c ≠ d := by
  rintro rfl
  rw [isDigit] at other
  cases other

theorem decimal_zero : decimal 0 = ['0'] := by
  unfold decimal
  rfl

theorem head_decimal (n : Nat) :
    ∃ c t, decimal n = c :: t ∧ c.isDigit = true ∧ (0 < n → c ≠ '0') := by
  have first : ∀ n < 10, 0 < n → digit n ≠ '0' := by decide
  fun_induction decimal n with
  | case1 n small => exact ⟨digit n, [], rfl, isDigit_digit small, first n small⟩
  | case2 n large ih =>
    obtain ⟨c, t, starts, isDigit, other⟩ := ih
    exact ⟨c, t ++ [digit (n % 10)], by rw [starts]; rfl, isDigit, fun _ => other (by omega)⟩

theorem underscored_line {digits : List Char} (all : IsDigits digits) (rest : List Char) :
    underscored Char.isDigit (digits ++ '\n' :: rest) = (digits, '\n' :: rest) := by
  induction digits with
  | nil => simp [underscored]
  | cons c digits ih =>
    obtain ⟨here, all⟩ := List.forall_mem_cons.mp all
    have other : c ≠ '_' := isDigit_ne here (by decide)
    simp [underscored, other, here, ih all]

theorem wholeDigits?_decimal (n : Nat) (rest : List Char) :
    wholeDigits? (decimal n ++ '\n' :: rest) = some (decimal n, '\n' :: rest) := by
  rcases Nat.eq_zero_or_pos n with rfl | positive
  · simp [decimal_zero, wholeDigits?]
  · have all := isDigits_decimal n
    obtain ⟨c, t, starts, here, other⟩ := head_decimal n
    rw [starts] at all ⊢
    simp [wholeDigits?, other positive, digits?, here, underscored_line (List.forall_mem_cons.mp all).2]

theorem takeDigits_line {digits : List Char} (all : IsDigits digits) (limit : Nat) (rest : List Char) :
    takeDigits limit (digits ++ '\n' :: rest) = (digits.take limit, digits.drop limit ++ '\n' :: rest) := by
  induction digits generalizing limit with
  | nil => cases limit <;> simp [takeDigits]
  | cons c digits ih =>
    obtain ⟨here, all⟩ := List.forall_mem_cons.mp all
    cases limit with
    | zero => rfl
    | succ limit => simp [takeDigits, here, ih all]

theorem symbol?_line {digits : List Char} (all : IsDigits digits) {sep : Char}
    (other : sep.isDigit = false) (line : sep ≠ '\n') (rest : List Char) :
    symbol? sep (digits ++ '\n' :: rest) = none := by
  cases digits with
  | nil => simp [symbol?, line.symm]
  | cons c digits => simp [symbol?, isDigit_ne (all c List.mem_cons_self) other]

/-! ## Integers -/

theorem moment?_line {digits : List Char} (all : IsDigits digits) (rest : List Char) :
    moment? (digits ++ '\n' :: rest) = none := by
  -- a date would go on with a minus after its year, and a time with a colon after its hour
  have later (k : Nat) : IsDigits (digits.drop k) := fun c member => all c (List.mem_of_mem_drop member)
  have date : date? (digits ++ '\n' :: rest) = none := by
    simp only [date?, number?, takeDigits_line all]
    split <;> simp [symbol?_line (later 4)]
  have time : timeOfDay? (digits ++ '\n' :: rest) = none := by
    simp only [timeOfDay?, pair?, number?, takeDigits_line all]
    split
    · simp
    · simp only [Option.bind_eq_bind, Option.bind_some]
      split <;> simp [symbol?_line (later 2)]
  simp [moment?, date, time]

theorem moment?_minus (s : List Char) : moment? ('-' :: s) = none := by
  simp [moment?, date?, timeOfDay?, pair?, number?, takeDigits]

theorem decimalFloat?_decimal (negative : Bool) (n : Nat) (rest : List Char) :
    decimalFloat? negative (decimal n ++ '\n' :: rest) = none := by
  simp [decimalFloat?, wholeDigits?_decimal, fraction?, exponent?]

theorem namedFloat?_decimal (negative : Bool) (n : Nat) (rest : List Char) :
    namedFloat? negative (decimal n ++ '\n' :: rest) = none := by
  obtain ⟨c, t, starts, isDigit, -⟩ := head_decimal n
  have letter : c ≠ 'i' ∧ c ≠ 'n' := ⟨isDigit_ne isDigit (by decide), isDigit_ne isDigit (by decide)⟩
  simp [namedFloat?, word, starts, letter.1.symm, letter.2.symm]

theorem sign_writeInteger (n : Int) (rest : List Char) :
    sign (writeInteger n ++ '\n' :: rest) = (decide (n < 0), decimal n.natAbs ++ '\n' :: rest) := by
  unfold writeInteger
  split
  · rename_i negative
    simp [sign, negative]
  · rename_i positive
    obtain ⟨c, t, starts, isDigit, -⟩ := head_decimal n.natAbs
    have other : c ≠ '-' ∧ c ≠ '+' := ⟨isDigit_ne isDigit (by decide), isDigit_ne isDigit (by decide)⟩
    simp [sign, starts, positive, other]

theorem float?_writeInteger (n : Int) (rest : List Char) :
    float? (writeInteger n ++ '\n' :: rest) = none := by
  simp [float?, sign_writeInteger, decimalFloat?_decimal, namedFloat?_decimal]

theorem moment?_writeInteger (n : Int) (rest : List Char) :
    moment? (writeInteger n ++ '\n' :: rest) = none := by
  unfold writeInteger
  split
  · exact moment?_minus _
  · exact moment?_line (isDigits_decimal _) rest

/-- No letter announces another base. -/
theorem eq_newline_of_writeInteger {n : Int} {rest s : List Char} {c : Char}
    (starts : writeInteger n ++ '\n' :: rest = '0' :: c :: s) : c = '\n' := by
  unfold writeInteger at starts
  split at starts
  · cases starts
  · rcases Nat.eq_zero_or_pos n.natAbs with zero | positive
    · rw [zero, decimal_zero] at starts
      cases starts
      rfl
    · obtain ⟨d, t, head, -, other⟩ := head_decimal n.natAbs
      rw [head] at starts
      exact absurd (List.cons.inj starts).1 (other positive)

theorem integer?_writeInteger {n : Int} (least : -9223372036854775808 ≤ n)
    (most : n ≤ 9223372036854775807) (rest : List Char) :
    integer? (writeInteger n ++ '\n' :: rest) = some (n, '\n' :: rest) := by
  have value : (if n < 0 then -(n.natAbs : Int) else n.natAbs) = n := by split <;> omega
  unfold integer?
  split
  -- hexadecimal, octal and binary, and then decimal
  · rename_i s starts
    exact absurd (eq_newline_of_writeInteger starts) (by decide)
  · rename_i s starts
    exact absurd (eq_newline_of_writeInteger starts) (by decide)
  · rename_i s starts
    exact absurd (eq_newline_of_writeInteger starts) (by decide)
  · simp only [sign_writeInteger, Option.bind_eq_bind, wholeDigits?_decimal, Option.bind_some,
      decide_eq_true_eq, numeral_decimal, value, word?, least, most, and_self, if_true]

/-! ## Values -/

/-- What is neither an array nor a table is read as a scalar, however deep it stands. -/
theorem value?_of_scalar {c : Char} (other : c ≠ '[' ∧ c ≠ '\x7b') (levels : Nat) (s : List Char) :
    value? levels (c :: s) = scalar? (c :: s) := by
  cases levels with
  | zero => rfl
  | succ levels => simp [value?, other]

theorem head_writeString (s : List Char) :
    ∃ quote t, writeString s = quote :: t ∧ (quote = '"' ∨ quote = '\'') := by
  unfold writeString
  cases Style.of s with
  | basic | multiBasic => exact ⟨'"', _, rfl, .inl rfl⟩
  | literal | multiLiteral => exact ⟨'\'', _, rfl, .inr rfl⟩

theorem head_writeInteger (n : Int) :
    ∃ c t, writeInteger n = c :: t ∧ (c = '-' ∨ c.isDigit = true) := by
  unfold writeInteger
  split
  · exact ⟨'-', _, rfl, .inl rfl⟩
  · obtain ⟨c, t, starts, isDigit, -⟩ := head_decimal n.natAbs
    exact ⟨c, t, starts, .inr isDigit⟩

/-- Whether a text is read as a value at the end of a line, after any white space. -/
structure IsWritten (v : Value) (text : List Char) : Prop where
  solid : ∀ rest, skipSpaces (text ++ rest) = text ++ rest
  reads : ∀ rest, value? deepestNesting (text ++ '\n' :: rest) = some (v, '\n' :: rest)

theorem skipSpaces_cons {c : Char} (solid : isSpace c = false) (s : List Char) :
    skipSpaces (c :: s) = c :: s := by
  simp [skipSpaces, solid]

theorem isWritten_string (s : List Char) : IsWritten (.string (String.ofList s)) (writeString s) := by
  obtain ⟨quote, t, starts, one⟩ := head_writeString s
  have other : isSpace quote = false ∧ quote ≠ '[' ∧ quote ≠ '\x7b' := by
    rcases one with rfl | rfl <;> decide
  refine ⟨fun rest => ?_, fun rest => ?_⟩
  · rw [starts]
    exact skipSpaces_cons other.1 _
  · have read := string?_writeString s rest
    rw [starts, List.cons_append] at read ⊢
    rw [value?_of_scalar other.2]
    simp [scalar?, one, read]

theorem isWritten_integer {n : Int} (least : -9223372036854775808 ≤ n)
    (most : n ≤ 9223372036854775807) : IsWritten (.integer n) (writeInteger n) := by
  -- the first character tells an integer from everything but other numbers and moments
  obtain ⟨c, t, starts, one⟩ := head_writeInteger n
  have other (d : Char) (sign : d ≠ '-') (letter : d.isDigit = false) : c ≠ d := by
    rcases one with rfl | isDigit
    · exact sign.symm
    · exact isDigit_ne isDigit letter
  have solid : isSpace c = false := by
    simp [isSpace, other ' ' (by decide) (by decide), other '\t' (by decide) (by decide)]
  have opens : c ≠ '[' ∧ c ≠ '\x7b' :=
    ⟨other _ (by decide) (by decide), other _ (by decide) (by decide)⟩
  have quote : c ≠ '"' ∧ c ≠ '\'' :=
    ⟨other _ (by decide) (by decide), other _ (by decide) (by decide)⟩
  have begins : (c = '+' ∨ c = '-') ∨ c.isDigit = true := by
    rcases one with minus | isDigit
    · exact .inl (.inr minus)
    · exact .inr isDigit
  refine ⟨fun rest => ?_, fun rest => ?_⟩
  · rw [starts]
    exact skipSpaces_cons solid _
  · have moment := moment?_writeInteger n rest
    have float := float?_writeInteger n rest
    have integer := integer?_writeInteger least most rest
    rw [starts, List.cons_append] at moment float integer ⊢
    rw [value?_of_scalar opens]
    simp [scalar?, quote, begins, moment, float, integer]

end Backlog.Toml
