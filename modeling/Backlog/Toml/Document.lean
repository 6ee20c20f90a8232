import Backlog.Toml.Number

/-!
# Reading a TOML document

A document is lines of keys with values, under headers that say which table they
belong to.  `parse?` reads one whole, or not at all.  Values nest to a limit, and
so do the keys of a path.
-/

namespace Backlog.Toml

/-- How deep arrays and tables in braces may nest. -/
def deepestNesting : Nat := 79

/-- How many keys a path may have. -/
def longestPath : Nat := 79

/-! ## Keys -/

/-- Whether `c` may stand in a key without quotes. -/
def isBareKeyChar (c : Char) : Bool :=
  c.isAlphanum || c == '-' || c == '_'

/-- Reads one key. -/
def key? (s : List Char) : Option (String × List Char) :=
  match s with
  | '"' :: _ | '\'' :: _ => lineString? s
  | _ =>
    let bare := s.takeWhile isBareKeyChar
    if bare.isEmpty then none else some (String.ofList bare, s.dropWhile isBareKeyChar)

/-- Reads keys with points between them, of which there are at most `fuel`. -/
def keys? : (fuel : Nat) → Reader (List String)
  | 0, _ => none
  | fuel + 1, s => do
    let (key, s) ← key? (skipSpaces s)
    match skipSpaces s with
    | '.' :: s => do
      let (keys, s) ← keys? fuel s
      some (key :: keys, s)
    | s => some ([key], s)

/-- Reads a path of keys: the tables that it leads through, and its last key. -/
def path? (s : List Char) : Option ((List String × String) × List Char) := do
  let (keys, rest) ← keys? longestPath s
  let last ← keys.getLast?
  some ((keys.dropLast, last), rest)

/-! ## Values -/

/-- Reads a value that holds no other ones. -/
def scalar? (s : List Char) : Option (Value × List Char) :=
  match s with
  | [] => none
  | c :: _ =>
    if c == '"' || c == '\'' then
      (string? s).map fun (text, rest) => (.string text, rest)
    else if c == '+' || c == '-' || c.isDigit then
      ((moment? s).map fun (m, rest) => (Value.moment m, rest)) <|>
      ((float? s).map fun (x, rest) => (Value.float x, rest)) <|>
      ((integer? s).map fun (n, rest) => (Value.integer n, rest))
    else if c == 't' then (word "true".toList s).map fun rest => (.boolean true, rest)
    else if c == 'f' then (word "false".toList s).map fun rest => (.boolean false, rest)
    else (namedFloat? false s).map fun (x, rest) => (.float x, rest)

/-- Reads the items of an array and its closing bracket.  White space, line ends
    and comments may stand anywhere, and a comma after the last item. -/
def items? (value? : Reader Value) : (fuel : Nat) → Reader (List Value)
  | 0, _ => none
  | fuel + 1, s =>
    match skipFiller false s with
    | ']' :: rest => some ([], rest)
    | s => do
      let (item, s) ← value? s
      match skipFiller false s with
      | ',' :: s => do
        let (items, rest) ← items? value? fuel s
        some (item :: items, rest)
      | ']' :: rest => some ([item], rest)
      | _ => none

/-- Reads the keys of a table in braces, and its closing brace, on one line. -/
def fields? (value? : Reader Value) : (fuel : Nat) → Entries → Reader Entries
  | 0, _, _ => none
  | fuel + 1, entries, s => do
    let ((path, key), s) ← path? s
    match s with
    | '=' :: s => do
      let (value, s) ← value? (skipSpaces s)
      let entries ← Entries.addKey? path key value .closed entries
      match skipSpaces s with
      | ',' :: s => fields? value? fuel entries s
      | '\x7d' :: rest => some (entries, rest)
      | _ => none
    | _ => none

/-- Reads a value, which may nest so many levels deeper. -/
def value? : (levels : Nat) → Reader Value
  | 0, s => scalar? s
  | levels + 1, s =>
    match s with
    | '[' :: s =>
      (items? (value? levels) (s.length + 1) s).map fun (items, rest) => (.array items, rest)
    | '\x7b' :: s =>
      match skipSpaces s with
      | '\x7d' :: rest => some (.table .closed [], rest)
      | s =>
        (fields? (value? levels) (s.length + 1) [] s).map
          fun (entries, rest) => (.table .closed entries, rest)
    | s => scalar? s

/-! ## Documents -/

/-- A document as far as it is read: its root, and the table that keys go to. -/
structure Draft where
  root : Entries
  current : List String

namespace Draft

/-- A document without keys. -/
def empty : Draft := ⟨[], []⟩

/-- Adds a key to the current table. -/
def addKey? (d : Draft) (path : List String) (key : String) (value : Value) : Option Draft := do
  let root ← Entries.changeAt? .byHeader (Entries.addKey? path key value) d.current .header d.root
  some { d with root }

/-- Begins the table of a header. -/
def openTable? (d : Draft) (path : List String) (key : String) : Option Draft := do
  let root ← Entries.openTable? path key .header d.root
  some ⟨root, path ++ [key]⟩

/-- Begins a table of an array of tables. -/
def openElement? (d : Draft) (path : List String) (key : String) : Option Draft := do
  let root ← Entries.openElement? path key .header d.root
  some ⟨root, path ++ [key]⟩

end Draft

/-- Reads one header or one key with its value, to the end of its line. -/
def statement? (d : Draft) (s : List Char) : Option (Draft × List Char) :=
  match s with
  | '[' :: '[' :: s => do
    let ((path, key), s) ← path? s
    let s ← word [']', ']'] s
    let s ← lineEnd? s
    let d ← d.openElement? path key
    some (d, s)
  | '[' :: s => do
    let ((path, key), s) ← path? s
    let s ← Text.symbol? ']' s
    let s ← lineEnd? s
    let d ← d.openTable? path key
    some (d, s)
  | s => do
    let ((path, key), s) ← path? s
    match s with
    | '=' :: s => do
      let (value, s) ← value? deepestNesting (skipSpaces s)
      let s ← lineEnd? s
      let d ← d.addKey? path key value
      some (d, s)
    | _ => none

/-- Reads statements to the end of the text. -/
def statements? : (fuel : Nat) → Draft → List Char → Option Draft
  | 0, _, _ => none
  | fuel + 1, d, s =>
    match skipFiller false s with
    | [] => some d
    | s => do
      let (d, s) ← statement? d s
      statements? fuel d s

/-- The text without a byte order mark in front. -/
def skipByteOrderMark : List Char → List Char
  | '\ufeff' :: s => s
  | s => s

/-- The root table of a document. -/
def parse? (text : String) : Option Entries :=
  let s := skipByteOrderMark text.toList
  (statements? (s.length + 1) .empty s).map (·.root)

end Backlog.Toml
