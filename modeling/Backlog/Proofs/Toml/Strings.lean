import Backlog.Toml.Lexeme
import Backlog.Toml.Writer
import Mathlib.Data.List.Basic

/-!
# Strings read back

A string is read as it was written, whichever way it is written (`string?_writeString`).  The two
sides meet in what can be written for one character (`Written`) and, for the strings of many
lines, in how the quotes go on after a place (`Quotes`): the reader has to see up to five
of them before it knows which ones belong to the string.
-/

namespace Backlog.Toml

/-! ## Characters -/

theorem hexDigit?_hexDigit {n : Nat} (small : n < 16) : hexDigit? (hexDigit n) = some n := by
  have all : ∀ n < 16, hexDigit? (hexDigit n) = some n := by decide
  exact all n small

theorem hexDigit?_zero : hexDigit? '0' = some 0 := by decide

theorem escape?_u : escape? 'u' = some (.inr 4) := by decide

theorem escape?_quote : escape? '"' = some (.inl '"') := by decide

theorem charOfCode?_toNat (c : Char) : charOfCode? c.toNat = some c := by
  have valid : c.toNat.isValidChar := c.valid
  simp [charOfCode?, valid]

theorem isPrintable_of_not_needsEscape {c : Char} (free : needsEscape c = false) (line : c ≠ '\n') :
    isPrintable c = true := by
  by_cases tab : c = '\t'
  · simp [isPrintable, tab]
  · simp only [needsEscape, line, tab, ne_eq, not_false_eq_true, decide_true, Bool.true_and,
      Bool.or_eq_false_iff, decide_eq_false_iff_not] at free
    simp only [isPrintable, Bool.or_eq_true, Bool.and_eq_true, decide_eq_true_eq]
    exact .inr ⟨by omega, free.2⟩

theorem ne_carriage_of_not_needsEscape {c : Char} (free : needsEscape c = false) : c ≠ '\r' := by
  rintro rfl
  exact absurd free (by decide)

/-- What may be written for a character other than the double quote, so that the reader gets the
    character back. -/
inductive Written (multi : Bool) (c : Char) : List Char → Prop where
  | letter (l : Char) (means : escape? l = some (.inl c)) (solid : isSpace l = false)
      (line : l ≠ '\n' ∧ l ≠ '\r') : Written multi c ['\\', l]
  | code (low : c.toNat < 256) :
      Written multi c ['\\', 'u', '0', '0', hexDigit (c.toNat / 16), hexDigit (c.toNat % 16)]
  | lineEnd (feed : c = '\n') (allowed : multi = true) : Written multi c ['\n']
  | plain (free : needsEscape c = false) (other : c ≠ '\n' ∧ c ≠ '"' ∧ c ≠ '\\') :
      Written multi c [c]

theorem written_writeChar (multi : Bool) {c : Char} (other : c ≠ '"') :
    Written multi c (writeChar multi c) := by
  unfold writeChar
  split_ifs with backspace tab feed allowed page carriage backslash control
  · subst backspace
    exact .letter 'b' (by decide) (by decide) (by decide)
  · subst tab
    exact .letter 't' (by decide) (by decide) (by decide)
  · exact .lineEnd feed allowed
  · subst feed
    exact .letter 'n' (by decide) (by decide) (by decide)
  · subst page
    exact .letter 'f' (by decide) (by decide) (by decide)
  · subst carriage
    exact .letter 'r' (by decide) (by decide) (by decide)
  · subst backslash
    exact .letter '\\' (by decide) (by decide) (by decide)
  · refine .code ?_
    simp only [needsEscape, Bool.and_eq_true, Bool.or_eq_true, decide_eq_true_eq] at control
    omega
  · exact .plain (by simpa using control) ⟨feed, other, backslash⟩

theorem Written.head {multi : Bool} {c : Char} {w : List Char} (written : Written multi c w) :
    ∃ d t, w = d :: t ∧ d ≠ '"' ∧ d ≠ '\r' ∧ (d = '\n' → c = '\n') := by
  cases written with
  | letter l | code => exact ⟨'\\', _, rfl, by decide, by decide, fun feed => absurd feed (by decide)⟩
  | lineEnd feed => exact ⟨'\n', _, rfl, by decide, by decide, fun _ => feed⟩
  | plain free other => exact ⟨c, _, rfl, other.2.1, ne_carriage_of_not_needsEscape free, id⟩

/-- The code of a character in four digits, the first two of which are zeros. -/
theorem charOfCode?_digits {c : Char} (low : c.toNat < 256) :
    hexDigit? (hexDigit (c.toNat / 16)) = some (c.toNat / 16) ∧
      hexDigit? (hexDigit (c.toNat % 16)) = some (c.toNat % 16) ∧
      charOfCode? (16 * (c.toNat / 16) + c.toNat % 16) = some c := by
  refine ⟨hexDigit?_hexDigit (by omega), hexDigit?_hexDigit (by omega), ?_⟩
  rw [Nat.div_add_mod]
  exact charOfCode?_toNat c

theorem Written.basicBody {c : Char} {w : List Char} (written : Written false c w) (t : List Char) :
    basicBody .plain (w ++ t) = pushChar c (Toml.basicBody .plain t) := by
  cases written with
  | letter l means => simp [Toml.basicBody, means]
  | code low =>
    obtain ⟨first, second, whole⟩ := charOfCode?_digits low
    simp [Toml.basicBody, escape?_u, hexDigit?_zero, first, second, whole]
  | lineEnd feed allowed => cases allowed
  | plain free other =>
    simp [Toml.basicBody, other, isPrintable_of_not_needsEscape free other.1]

theorem Written.multiBasicBody {c : Char} {w : List Char} (written : Written true c w) (t : List Char) :
    multiBasicBody .plain (w ++ t) = pushChar c (Toml.multiBasicBody .plain t) := by
  cases written with
  | letter l means solid line => simp [Toml.multiBasicBody, means, solid, line]
  | code low =>
    obtain ⟨first, second, whole⟩ := charOfCode?_digits low
    have solid : isSpace 'u' = false := by decide
    simp [Toml.multiBasicBody, escape?_u, hexDigit?_zero, solid, first, second, whole]
  | lineEnd feed =>
    subst feed
    simp [Toml.multiBasicBody]
  | plain free other =>
    have carriage := ne_carriage_of_not_needsEscape free
    simp [Toml.multiBasicBody, other, carriage, isPrintable_of_not_needsEscape free other.1]

/-! ## Quotes in a row -/

/-- Whether no more than `limit` quotes follow each other, where `run` of them stand in front. -/
def RunsWithin (quote : Char) (limit : Nat) : (run : Nat) → List Char → Prop
  | _, [] => True
  | run, c :: s => if c = quote then run < limit ∧ RunsWithin quote limit (run + 1) s
      else RunsWithin quote limit 0 s

/-- The fold holds the run that it is in and the longest one so far. -/
theorem foldl_run_le_iff {quote : Char} {limit : Nat} (s : List Char) (run longest : Nat) :
    (s.foldl (fun found c =>
        if c = quote then (found.1 + 1, max found.2 (found.1 + 1)) else (0, found.2))
      (run, longest)).2 ≤ limit ↔ longest ≤ limit ∧ RunsWithin quote limit run s := by
  induction s generalizing run longest with
  | nil => simp [RunsWithin]
  | cons c s ih =>
    rw [List.foldl_cons]
    by_cases here : c = quote
    · simp only [here, if_true, ih, RunsWithin, Nat.max_le, Nat.add_one_le_iff, and_assoc]
    · simp only [here, if_false, ih, RunsWithin]

theorem longestRun_le_iff {quote : Char} {limit : Nat} {s : List Char} :
    longestRun quote s ≤ limit ↔ RunsWithin quote limit 0 s :=
  (foldl_run_le_iff s 0 0).trans (and_iff_right (Nat.zero_le limit))

theorem RunsWithin.not_mem {quote : Char} {s : List Char} (within : RunsWithin quote 0 0 s) :
    quote ∉ s := by
  induction s with
  | nil => simp
  | cons c s ih =>
    unfold RunsWithin at within
    split at within
    · exact absurd within.1 (by omega)
    · rename_i other
      simp [ih within, Ne.symm other]

/-- How the quotes go on in what is written for `s`: either nothing but quotes is left, or there is
    something else after no more than `limit` of them. -/
inductive Quotes (quote : Char) (limit : Nat) (s w : List Char) : Prop where
  | ends (k : Nat) (few : k ≤ limit) (read : s = List.replicate k quote)
      (written : w = List.replicate k quote)
  | gap (k : Nat) (few : k ≤ limit) (c : Char) (t : List Char) (other : c ≠ quote)
      (written : w = List.replicate k quote ++ c :: t)

theorem Quotes.cons {quote : Char} {limit : Nat} {s w : List Char} (quotes : Quotes quote limit s w) :
    Quotes quote (limit + 1) (quote :: s) (quote :: w) := by
  cases quotes with
  | ends k few read written =>
    subst read
    subst written
    exact .ends (k + 1) (by omega) rfl rfl
  | gap k few c t other written =>
    exact .gap (k + 1) (by omega) c t other (by simp [written, List.replicate_succ])

theorem Quotes.mono {quote : Char} {limit limit' : Nat} {s w : List Char}
    (quotes : Quotes quote limit s w) (more : limit ≤ limit') : Quotes quote limit' s w := by
  cases quotes with
  | ends k few read written => exact .ends k (Nat.le_trans few more) read written
  | gap k few c t other written => exact .gap k (Nat.le_trans few more) c t other written

theorem quotes_of_runsWithin {quote : Char} {limit run : Nat} {s : List Char}
    (within : RunsWithin quote limit run s) : Quotes quote (limit - run) s s := by
  induction s generalizing run with
  | nil => exact .ends 0 (by omega) rfl rfl
  | cons c s ih =>
    unfold RunsWithin at within
    split at within
    · rename_i here
      subst here
      have quotes := (ih within.2).cons
      rwa [show limit - (run + 1) + 1 = limit - run by omega] at quotes
    · rename_i other
      exact .gap 0 (by omega) c s other rfl

theorem quotes_writeBasic (multi : Bool) (allowed quotes : Nat) (s : List Char) :
    Quotes '"' (allowed - quotes) s (writeBasic multi allowed quotes s) := by
  induction s generalizing quotes with
  | nil => exact .ends 0 (by omega) rfl rfl
  | cons c s ih =>
    unfold writeBasic
    split_ifs with here few
    · subst here
      have more := (ih (quotes + 1)).cons
      rwa [show allowed - (quotes + 1) + 1 = allowed - quotes by omega] at more
    · exact .gap 0 (by omega) '\\' _ (by decide) rfl
    · obtain ⟨d, t, head, other, -⟩ := (written_writeChar multi here).head
      exact .gap 0 (by omega) d _ other (by rw [head]; rfl)

theorem closing?_of_other {quote c : Char} (other : c ≠ quote) {k : Nat} (few : k ≤ 2)
    (t : List Char) : closing? quote (List.replicate k quote ++ c :: t) = none := by
  have cases : k = 0 ∨ k = 1 ∨ k = 2 := by omega
  rcases cases with rfl | rfl | rfl
  · rcases t with _ | ⟨d, _ | ⟨e, t⟩⟩ <;> simp [closing?, other]
  · rcases t with _ | ⟨d, t⟩ <;> simp [closing?, other]
  · simp [closing?, List.replicate, other]

theorem closing?_of_quotes {quote next : Char} (after : next ≠ quote) {k : Nat} (few : k ≤ 2)
    (rest : List Char) :
    closing? quote (List.replicate k quote ++ quote :: quote :: quote :: next :: rest) =
      some (k, next :: rest) := by
  have cases : k = 0 ∨ k = 1 ∨ k = 2 := by omega
  rcases cases with rfl | rfl | rfl
  · cases rest <;> simp [closing?, after]
  · simp [closing?, after]
  · simp [closing?, List.replicate]

/-- Three quotes end a string, with up to two more of them in front.  Where something else
    comes first, it goes on. -/
theorem Quotes.closing? {quote : Char} {s w : List Char} (quotes : Quotes quote 2 s w) {next : Char}
    (after : next ≠ quote) (rest : List Char) :
    let found := Toml.closing? quote (w ++ quote :: quote :: quote :: next :: rest)
    (∃ k, s = List.replicate k quote ∧ found = some (k, next :: rest)) ∨ found = none := by
  cases quotes with
  | ends k few read written =>
    subst written
    exact .inl ⟨k, read, closing?_of_quotes after few rest⟩
  | gap k few c t other written =>
    subst written
    rw [List.append_assoc, List.cons_append]
    exact .inr (closing?_of_other other few _)

/-! ## Strings of one line -/

theorem basicBody_writeBasic (s rest : List Char) :
    basicBody .plain (writeBasic false 0 0 s ++ '"' :: rest) = some (s, rest) := by
  induction s with
  | nil => simp [writeBasic, basicBody]
  | cons c s ih =>
    by_cases quote : c = '"'
    · simp [writeBasic, basicBody, quote, escape?_quote, ih, pushChar]
    · simp [writeBasic, quote, (written_writeChar false quote).basicBody, ih, pushChar]

theorem literalBody_self {s : List Char} (printable : ∀ c ∈ s, isPrintable c = true ∧ c ≠ '\'')
    (rest : List Char) : literalBody (s ++ '\'' :: rest) = some (s, rest) := by
  induction s with
  | nil => simp [literalBody]
  | cons c s ih =>
    obtain ⟨⟨here, other⟩, printable⟩ := List.forall_mem_cons.mp printable
    simp [literalBody, here, other, ih printable, pushChar]

/-! ## Strings of many lines -/

theorem multiBasicBody_of_end {t rest : List Char} {k : Nat}
    (ends : closing? '"' ('"' :: t) = some (k, rest)) :
    multiBasicBody .plain ('"' :: t) = some (List.replicate k '"', rest) := by
  simp [multiBasicBody, ends]

theorem multiBasicBody_of_open {t : List Char} (goes : closing? '"' ('"' :: t) = none) :
    multiBasicBody .plain ('"' :: t) = pushChar '"' (multiBasicBody .plain t) := by
  simp [multiBasicBody, goes]

theorem multiBasicBody_writeBasic (quotes : Nat) (s : List Char) {next : Char} (after : next ≠ '"')
    (rest : List Char) :
    multiBasicBody .plain (writeBasic true 2 quotes s ++ '"' :: '"' :: '"' :: next :: rest) =
      some (s, next :: rest) := by
  induction s generalizing quotes with
  | nil =>
    cases rest <;> simp [writeBasic, multiBasicBody, closing?, after]
  | cons c s ih =>
    by_cases quote : c = '"'
    · subst quote
      by_cases few : quotes < 2
      · -- the quote stands for itself, and either the string ends here or it goes on
        have follow : Quotes '"' 2 ('"' :: s) ('"' :: writeBasic true 2 (quotes + 1) s) :=
          (quotes_writeBasic true 2 (quotes + 1) s).cons.mono (by omega)
        simp only [writeBasic, few, if_true]
        rcases follow.closing? after rest with ⟨k, all, ends⟩ | goes
        · rw [List.cons_append] at ends
          rw [List.cons_append, multiBasicBody_of_end ends, all]
        · rw [List.cons_append] at goes
          rw [List.cons_append, multiBasicBody_of_open goes, ih]
          rfl
      · have solid : isSpace '"' = false := by decide
        simp [writeBasic, multiBasicBody, few, escape?_quote, solid, ih, pushChar]
    · simp [writeBasic, quote, (written_writeChar true quote).multiBasicBody, ih, pushChar]

theorem multiLiteralBody_of_end {t rest : List Char} {k : Nat}
    (ends : closing? '\'' ('\'' :: t) = some (k, rest)) :
    multiLiteralBody false ('\'' :: t) = some (List.replicate k '\'', rest) := by
  simp [multiLiteralBody, ends]

theorem multiLiteralBody_of_open {t : List Char} (goes : closing? '\'' ('\'' :: t) = none) :
    multiLiteralBody false ('\'' :: t) = pushChar '\'' (multiLiteralBody false t) := by
  simp [multiLiteralBody, goes]

theorem multiLiteralBody_self {run : Nat} {s : List Char} (within : RunsWithin '\'' 2 run s)
    (free : ∀ c ∈ s, needsEscape c = false) {next : Char} (after : next ≠ '\'') (rest : List Char) :
    multiLiteralBody false (s ++ '\'' :: '\'' :: '\'' :: next :: rest) = some (s, next :: rest) := by
  -- `run` counts the quotes just read, so it is not the same at the next character
  induction s generalizing run with
  | nil => cases rest <;> simp [multiLiteralBody, closing?, after]
  | cons c s ih =>
    obtain ⟨here, free'⟩ := List.forall_mem_cons.mp free
    have follow : Quotes '\'' 2 (c :: s) (c :: s) := (quotes_of_runsWithin within).mono (by omega)
    unfold RunsWithin at within
    split at within
    · rename_i quote
      subst quote
      rcases follow.closing? after rest with ⟨k, all, ends⟩ | goes
      · rw [List.cons_append] at ends
        rw [List.cons_append, multiLiteralBody_of_end ends, all]
      · rw [List.cons_append] at goes
        rw [List.cons_append, multiLiteralBody_of_open goes, ih within.2 free']
        rfl
    · rename_i quote
      have carriage := ne_carriage_of_not_needsEscape here
      have reads : (c == '\n' || isPrintable c) = true := by
        by_cases feed : c = '\n'
        · simp [feed]
        · simp [isPrintable_of_not_needsEscape here feed]
      simp [multiLiteralBody, carriage, quote, reads, ih within free', pushChar]

/-! ## Styles -/

/-- Whether a style can hold a string.  The ones with escapes can hold all of them. -/
def Style.Holds : Style → List Char → Prop
  | basic, _ | multiBasic, _ => True
  | literal, s => (∀ c ∈ s, needsEscape c = false) ∧ '\'' ∉ s ∧ '\n' ∉ s ∧ s ≠ []
  | multiLiteral, s => (∀ c ∈ s, needsEscape c = false) ∧ RunsWithin '\'' 2 0 s

theorem Style.holds_of (s : List Char) : (Style.of s).Holds s := by
  have free (escapes : (!s.any needsEscape) = true) : ∀ c ∈ s, needsEscape c = false := by
    simpa using escapes
  simp only [Style.of]
  split_ifs with basic literal multiBasic multiLiteral
  · trivial
  · simp only [Bool.and_eq_true, decide_eq_true_eq, Bool.not_eq_true', List.contains_eq_mem,
      decide_eq_false_iff_not] at literal
    obtain ⟨⟨escapes, singles⟩, line⟩ := literal
    refine ⟨free (by simp [escapes]), ?_, line, ?_⟩
    · exact (longestRun_le_iff.mp (Nat.le_of_eq singles)).not_mem
    · -- the empty string is written between double quotes
      rintro rfl
      exact basic (by decide)
  · trivial
  · simp only [Bool.and_eq_true, decide_eq_true_eq] at multiLiteral
    exact ⟨free multiLiteral.1, longestRun_le_iff.mp multiLiteral.2⟩
  · trivial
  · trivial

theorem skipNewline_opening {s w : List Char} {d : Char} {t : List Char} (starts : w = d :: t)
    (other : d ≠ '\r') (feed : d = '\n' → '\n' ∈ s) :
    skipNewline ((if s.contains '\n' then ['\n'] else []) ++ w) = w := by
  by_cases line : '\n' ∈ s
  · simp [line, skipNewline]
  · have plain : d ≠ '\n' := mt feed line
    simp only [List.contains_eq_mem, line, decide_false, Bool.false_eq_true, if_false, List.nil_append, starts]
    unfold skipNewline
    split <;> simp_all

/-- Only three quotes in a row begin a string of many lines. -/
theorem string?_of_line {quote : Char} {t : List Char} (other : ∀ u, t ≠ quote :: quote :: u) :
    string? (quote :: t) = lineString? (quote :: t) := by
  unfold string?
  split
  · rename_i u starts
    obtain ⟨rfl, same⟩ := List.cons.inj starts
    exact absurd same (other u)
  · rename_i u starts
    obtain ⟨rfl, same⟩ := List.cons.inj starts
    exact absurd same (other u)
  · rfl

theorem head_writeBasic {multi : Bool} {allowed : Nat} {s : List Char} {d : Char} {t rest : List Char}
    (starts : writeBasic multi allowed 0 s ++ '"' :: rest = d :: t) :
    d ≠ '\r' ∧ (d = '\n' → '\n' ∈ s) := by
  cases s with
  | nil =>
    obtain ⟨rfl, -⟩ := List.cons.inj starts
    exact ⟨by decide, fun feed => absurd feed (by decide)⟩
  | cons c s =>
    unfold writeBasic at starts
    split_ifs at starts with quote few
    · obtain ⟨rfl, -⟩ := List.cons.inj starts
      exact ⟨by decide, fun feed => absurd feed (by decide)⟩
    · obtain ⟨rfl, -⟩ := List.cons.inj starts
      exact ⟨by decide, fun feed => absurd feed (by decide)⟩
    · obtain ⟨d', t', head, -, carriage, feed⟩ := (written_writeChar multi quote).head
      rw [head] at starts
      obtain ⟨rfl, -⟩ := List.cons.inj starts
      exact ⟨carriage, fun here => by simp [feed here]⟩

theorem string?_basic (s rest : List Char) :
    string? ('"' :: (writeBasic false 0 0 s ++ '"' :: '\n' :: rest)) =
      some (String.ofList s, '\n' :: rest) := by
  have single : ∀ u, writeBasic false 0 0 s ++ '"' :: '\n' :: rest ≠ '"' :: '"' :: u := by
    intro u starts
    cases quotes_writeBasic false 0 0 s with
    | ends k few read written =>
      -- the empty string: its closing quote is the last one
      obtain rfl : k = 0 := by omega
      simp [written] at starts
    | gap k few c t other written =>
      obtain rfl : k = 0 := by omega
      simp [written, other] at starts
  rw [string?_of_line single]
  simp [lineString?, basicBody_writeBasic]

theorem string?_literal {s : List Char} (holds : Style.literal.Holds s) (rest : List Char) :
    string? ('\'' :: (s ++ '\'' :: '\n' :: rest)) = some (String.ofList s, '\n' :: rest) := by
  obtain ⟨free, quote, line, some⟩ := holds
  have printable : ∀ c ∈ s, isPrintable c = true ∧ c ≠ '\'' := fun c member =>
    ⟨isPrintable_of_not_needsEscape (free c member) (ne_of_mem_of_not_mem member line),
      ne_of_mem_of_not_mem member quote⟩
  have single : ∀ u, s ++ '\'' :: '\n' :: rest ≠ '\'' :: '\'' :: u := by
    intro u starts
    cases s with
    | nil => exact some rfl
    | cons c s =>
      obtain ⟨rfl, -⟩ := List.cons.inj starts
      exact quote List.mem_cons_self
  rw [string?_of_line single]
  simp [lineString?, literalBody_self printable]

theorem string?_multiBasic (s rest : List Char) :
    string? ('"' :: '"' :: '"' :: ((if s.contains '\n' then ['\n'] else []) ++
      (writeBasic true 2 0 s ++ '"' :: '"' :: '"' :: '\n' :: rest))) =
        some (String.ofList s, '\n' :: rest) := by
  obtain ⟨d, t, starts⟩ : ∃ d t, writeBasic true 2 0 s ++ '"' :: '"' :: '"' :: '\n' :: rest = d :: t :=
    List.exists_cons_of_ne_nil (by simp)
  obtain ⟨carriage, feed⟩ := head_writeBasic starts
  rw [string?, skipNewline_opening starts carriage feed, multiBasicBody_writeBasic 0 s (by decide) rest]
  rfl

theorem string?_multiLiteral {s : List Char} (holds : Style.multiLiteral.Holds s) (rest : List Char) :
    string? ('\'' :: '\'' :: '\'' :: ((if s.contains '\n' then ['\n'] else []) ++
      (s ++ '\'' :: '\'' :: '\'' :: '\n' :: rest))) = some (String.ofList s, '\n' :: rest) := by
  obtain ⟨free, within⟩ := holds
  obtain ⟨d, t, starts⟩ : ∃ d t, s ++ '\'' :: '\'' :: '\'' :: '\n' :: rest = d :: t :=
    List.exists_cons_of_ne_nil (by simp)
  have head : d ≠ '\r' ∧ (d = '\n' → '\n' ∈ s) := by
    cases s with
    | nil =>
      obtain ⟨rfl, -⟩ := List.cons.inj starts
      exact ⟨by decide, fun feed => absurd feed (by decide)⟩
    | cons c s =>
      obtain ⟨rfl, -⟩ := List.cons.inj starts
      exact ⟨ne_carriage_of_not_needsEscape (free _ List.mem_cons_self), fun feed => by simp [feed]⟩
  rw [string?, skipNewline_opening starts head.1 head.2, multiLiteralBody_self within free (by decide) rest]
  rfl

/-- Every string is read as it was written, at the end of its line. -/
theorem string?_writeString (s : List Char) (rest : List Char) :
    string? (writeString s ++ '\n' :: rest) = some (String.ofList s, '\n' :: rest) := by
  have holds := Style.holds_of s
  unfold writeString
  cases style : Style.of s with
  | basic => simpa only [List.cons_append, List.append_assoc, List.nil_append] using string?_basic s rest
  | literal =>
    rw [style] at holds
    simpa only [List.cons_append, List.append_assoc, List.nil_append] using string?_literal holds rest
  | multiBasic =>
    simpa only [List.cons_append, List.append_assoc, List.nil_append] using string?_multiBasic s rest
  | multiLiteral =>
    rw [style] at holds
    simpa only [List.cons_append, List.append_assoc, List.nil_append] using string?_multiLiteral holds rest

end Backlog.Toml
