/-!
# The small parts of a TOML document

White space, comments, line ends and strings.  A reader takes something from the
front of a text and gives back the rest.
-/

namespace Backlog.Toml

/-- Takes an `α` from the front of a text, if there is one. -/
abbrev Reader (α : Type) : Type := List Char → Option (α × List Char)

/-- Puts a character in front of what was read. -/
def pushChar (c : Char) (r : Option (List Char × List Char)) : Option (List Char × List Char) :=
  r.map fun (cs, rest) => (c :: cs, rest)

/-! ## Space, comments, line ends -/

/-- Whether `c` is white space within a line. -/
def isSpace (c : Char) : Bool :=
  c == ' ' || c == '\t'

/-- Whether `c` may stand in a comment or a string: any character but control
    characters, of which only the tab may. -/
def isPrintable (c : Char) : Bool :=
  c == '\t' || (0x20 ≤ c.toNat && c.toNat ≠ 0x7F)

/-- The text without the white space in front. -/
def skipSpaces (s : List Char) : List Char :=
  s.dropWhile isSpace

/-- The text without the white space, line ends and comments in front.  With
    `comment` it begins inside of a comment. -/
def skipFiller : (comment : Bool) → List Char → List Char
  | _, [] => []
  | _, '\r' :: '\n' :: s => skipFiller false s
  | false, c :: s =>
    if isSpace c || c == '\n' then skipFiller false s
    else if c == '#' then skipFiller true s
    else c :: s
  | true, c :: s =>
    if c == '\n' then skipFiller false s
    else if isPrintable c then skipFiller true s
    else c :: s

/-- The text after the end of a line, before which white space and a comment may
    stand.  A text may end instead of its last line. -/
def lineEnd? (s : List Char) : Option (List Char) :=
  let s := skipSpaces s
  let s := match s with
    | '#' :: rest => rest.dropWhile isPrintable
    | s => s
  match s with
  | [] => some []
  | '\n' :: rest => some rest
  | '\r' :: '\n' :: rest => some rest
  | _ => none

/-! ## Escapes -/

/-- The value of a hexadecimal digit. -/
def hexDigit? (c : Char) : Option Nat :=
  if '0' ≤ c ∧ c ≤ '9' then some (c.toNat - 48)
  else if 'a' ≤ c ∧ c ≤ 'f' then some (c.toNat - 87)
  else if 'A' ≤ c ∧ c ≤ 'F' then some (c.toNat - 55)
  else none

/-- The character of a code, if there is one. -/
def charOfCode? (n : Nat) : Option Char :=
  if n.isValidChar then some (Char.ofNat n) else none

/-- What a letter after a backslash announces: a character, or the code of one in
    so many hexadecimal digits. -/
def escape? (c : Char) : Option (Char ⊕ Nat) :=
  if c = 'b' then some (.inl '\x08')
  else if c = 't' then some (.inl '\t')
  else if c = 'n' then some (.inl '\n')
  else if c = 'f' then some (.inl '\x0c')
  else if c = 'r' then some (.inl '\r')
  else if c = '"' then some (.inl '"')
  else if c = '\\' then some (.inl '\\')
  else if c = 'u' then some (.inr 4)
  else if c = 'U' then some (.inr 8)
  else none

/-! ## Strings of one line -/

/-- Where the reading of a string stands. -/
inductive Mode where
  | plain
  /-- After a backslash. -/
  | escape
  /-- Before the last `left` digits of a character code. -/
  | code (left value : Nat)
  /-- After a backslash and white space, before the end of the line. -/
  | lineBreak
  /-- In the white space that a backslash at the end of a line swallows. -/
  | trimming
  /-- After a carriage return, before its line feed. -/
  | carriage (trimming : Bool)
deriving DecidableEq

/-- The rest of a string in double quotes, after its opening quote. -/
def basicBody : Mode → Reader (List Char)
  | _, [] => none
  | .escape, c :: s =>
    match escape? c with
    | some (.inl d) => pushChar d (basicBody .plain s)
    | some (.inr digits) => basicBody (.code digits 0) s
    | none => none
  | .code left value, c :: s =>
    match hexDigit? c with
    | none => none
    | some d =>
      if left ≤ 1 then
        match charOfCode? (16 * value + d) with
        | some c => pushChar c (basicBody .plain s)
        | none => none
      else basicBody (.code (left - 1) (16 * value + d)) s
  | _, c :: s =>
    if c == '"' then some ([], s)
    else if c == '\\' then basicBody .escape s
    else if isPrintable c then pushChar c (basicBody .plain s)
    else none

/-- The rest of a string in single quotes, after its opening quote. -/
def literalBody : Reader (List Char)
  | [] => none
  | c :: s =>
    if c == '\'' then some ([], s)
    else if isPrintable c then pushChar c (literalBody s)
    else none

/-! ## Strings of many lines -/

/-- The text without a line end in front. -/
def skipNewline : List Char → List Char
  | '\n' :: s => s
  | '\r' :: '\n' :: s => s
  | s => s

/-- Reads the end of a string of many lines: three quotes.  Up to two quotes more
    belong to the string, which the number says. -/
def closing? (quote : Char) : Reader Nat
  | a :: b :: c :: s =>
    if a == quote && b == quote && c == quote then
      match s with
      | d :: e :: rest =>
        if d == quote then if e == quote then some (2, rest) else some (1, e :: rest)
        else some (0, s)
      | [d] => if d == quote then some (1, []) else some (0, s)
      | [] => some (0, [])
    else none
  | _ => none

/-- The rest of a string in three double quotes, after its opening quotes. -/
def multiBasicBody : Mode → Reader (List Char)
  | _, [] => none
  | .escape, c :: s =>
    if isSpace c then multiBasicBody .lineBreak s
    else if c == '\n' then multiBasicBody .trimming s
    else if c == '\r' then multiBasicBody (.carriage true) s
    else
      match escape? c with
      | some (.inl d) => pushChar d (multiBasicBody .plain s)
      | some (.inr digits) => multiBasicBody (.code digits 0) s
      | none => none
  | .code left value, c :: s =>
    match hexDigit? c with
    | none => none
    | some d =>
      if left ≤ 1 then
        match charOfCode? (16 * value + d) with
        | some c => pushChar c (multiBasicBody .plain s)
        | none => none
      else multiBasicBody (.code (left - 1) (16 * value + d)) s
  | .lineBreak, c :: s =>
    if isSpace c then multiBasicBody .lineBreak s
    else if c == '\n' then multiBasicBody .trimming s
    else if c == '\r' then multiBasicBody (.carriage true) s
    else none
  | .carriage trimming, c :: s =>
    if c == '\n' then
      if trimming then multiBasicBody .trimming s else pushChar '\n' (multiBasicBody .plain s)
    else none
  | mode, c :: s =>
    if mode = .trimming && (isSpace c || c == '\n') then multiBasicBody .trimming s
    else if c == '\r' then multiBasicBody (.carriage (mode = .trimming)) s
    else if c == '"' then
      match closing? '"' (c :: s) with
      | some (quotes, rest) => some (List.replicate quotes '"', rest)
      | none => pushChar '"' (multiBasicBody .plain s)
    else if c == '\\' then multiBasicBody .escape s
    else if c == '\n' || isPrintable c then pushChar c (multiBasicBody .plain s)
    else none

/-- The rest of a string in three single quotes, after its opening quotes. -/
def multiLiteralBody : (carriage : Bool) → Reader (List Char)
  | _, [] => none
  | true, c :: s => if c == '\n' then pushChar '\n' (multiLiteralBody false s) else none
  | false, c :: s =>
    if c == '\r' then multiLiteralBody true s
    else if c == '\'' then
      match closing? '\'' (c :: s) with
      | some (quotes, rest) => some (List.replicate quotes '\'', rest)
      | none => pushChar '\'' (multiLiteralBody false s)
    else if c == '\n' || isPrintable c then pushChar c (multiLiteralBody false s)
    else none

/-- Reads a string of one line. -/
def lineString? : Reader String
  | '"' :: s => (basicBody .plain s).map fun (cs, rest) => (String.ofList cs, rest)
  | '\'' :: s => (literalBody s).map fun (cs, rest) => (String.ofList cs, rest)
  | _ => none

/-- Reads a string. -/
def string? : Reader String
  | '"' :: '"' :: '"' :: s =>
    (multiBasicBody .plain (skipNewline s)).map fun (cs, rest) => (String.ofList cs, rest)
  | '\'' :: '\'' :: '\'' :: s =>
    (multiLiteralBody false (skipNewline s)).map fun (cs, rest) => (String.ofList cs, rest)
  | s => lineString? s

end Backlog.Toml
