import Backlog.Config.Text
import Backlog.Proofs.Toml.Values

/-!
# Documents read back

What settings are written in is a list of headers and of keys with their values, one on a
line.  `parse?_entries` says of every such list what the reader makes of it: each entry is applied
to the document so far, in order.
-/

namespace Backlog.Config

open Backlog.Toml

/-- Something on a line of its own: the header of a section, or a field of one with its value and what
    is written for it. -/
inductive Entry where
  | header (name : String)
  | field (name : String) (value : Value) (text : List Char)

namespace Entry

/-- What is written for an entry. -/
def text : Entry → List Char
  | header name => writeHeader name
  | field name _ text => writeLine name text

/-- What an entry does to a document. -/
def extend? (d : Draft) : Entry → Option Draft
  | header name => d.openTable? [] name
  | field name value _ => d.addKey? [] name value

/-- Whether a name can be a key without quotes. -/
def IsBare (name : String) : Prop :=
  name.toList ≠ [] ∧ ∀ c ∈ name.toList, isBareKeyChar c = true

/-- Whether an entry is written so that it can be read. -/
def IsSound : Entry → Prop
  | header name => IsBare name
  | field name value text => IsBare name ∧ IsWritten value text

end Entry

open Entry

/-! ## Keys -/

theorem isBareKeyChar_ne {c d : Char} (bare : isBareKeyChar c = true) (other : isBareKeyChar d = false) :
    c ≠ d := by
  rintro rfl
  rw [bare] at other
  cases other

theorem isSpace_of_isBareKeyChar {c : Char} (bare : isBareKeyChar c = true) : isSpace c = false := by
  have blank : c ≠ ' ' := isBareKeyChar_ne bare (by decide)
  have tab : c ≠ '\t' := isBareKeyChar_ne bare (by decide)
  simp [isSpace, blank, tab]

theorem Entry.IsBare.head {name : String} (bare : IsBare name) :
    ∃ c t, name.toList = c :: t ∧ isBareKeyChar c = true := by
  obtain ⟨some, all⟩ := bare
  obtain ⟨c, t, starts⟩ := List.exists_cons_of_ne_nil some
  exact ⟨c, t, starts, all c (by simp [starts])⟩

theorem key?_bare {name : String} (bare : IsBare name) {c : Char} (other : isBareKeyChar c = false)
    (rest : List Char) : key? (name.toList ++ c :: rest) = some (name, c :: rest) := by
  obtain ⟨d, t, starts, first⟩ := bare.head
  have quote : d ≠ '"' ∧ d ≠ '\'' :=
    ⟨isBareKeyChar_ne first (by decide), isBareKeyChar_ne first (by decide)⟩
  have taken : (name.toList ++ c :: rest).takeWhile isBareKeyChar = name.toList := by
    rw [List.takeWhile_append_of_pos bare.2]
    simp [other]
  have dropped : (name.toList ++ c :: rest).dropWhile isBareKeyChar = c :: rest := by
    rw [List.dropWhile_append_of_pos bare.2]
    simp [other]
  have some : name.toList.isEmpty = false := by simp [starts]
  unfold key?
  split
  · rename_i s same
    rw [starts] at same
    exact absurd (List.cons.inj same).1 quote.1
  · rename_i s same
    rw [starts] at same
    exact absurd (List.cons.inj same).1 quote.2
  · simp only [taken, dropped, some, Bool.false_eq_true, if_false, String.ofList_toList]

theorem path?_bare {name : String} (bare : IsBare name) {c d : Char} {s rest : List Char}
    (other : isBareKeyChar c = false) (next : skipSpaces (c :: s) = d :: rest) (point : d ≠ '.') :
    path? (name.toList ++ c :: s) = some (([], name), d :: rest) := by
  have solid : skipSpaces (name.toList ++ c :: s) = name.toList ++ c :: s := by
    obtain ⟨first, t, starts, bareChar⟩ := bare.head
    rw [starts]
    exact skipSpaces_cons (isSpace_of_isBareKeyChar bareChar) _
  have keys (fuel : Nat) : keys? (fuel + 1) (name.toList ++ c :: s) = some ([name], d :: rest) := by
    simp [keys?, solid, key?_bare bare other, next, point]
  simp only [path?, longestPath, keys 78]
  rfl

/-! ## Entries -/

theorem lineEnd?_newline (rest : List Char) : lineEnd? ('\n' :: rest) = some rest := by
  simp [lineEnd?, skipSpaces, isSpace]

theorem skipSpaces_space (s : List Char) : skipSpaces (' ' :: s) = skipSpaces s := rfl

theorem writeLine_of_head {name : String} {c : Char} {t : List Char} (starts : name.toList = c :: t)
    (text : List Char) :
    writeLine name text = c :: (t ++ [' ', '=', ' '] ++ text ++ ['\n']) := by
  simp only [writeLine, starts, List.cons_append]

theorem statement?_field {name : String} (bare : IsBare name) {value : Value} {text : List Char}
    (written : IsWritten value text) (d : Draft) (rest : List Char) :
    statement? d (writeLine name text ++ rest) = (d.addKey? [] name value).map fun d => (d, rest) := by
  have path : path? (name.toList ++ ' ' :: '=' :: ' ' :: (text ++ '\n' :: rest)) =
      some (([], name), '=' :: ' ' :: (text ++ '\n' :: rest)) :=
    path?_bare bare (by decide) (by rw [skipSpaces_space, skipSpaces_cons (by decide)]) (by decide)
  have reads : value? deepestNesting (skipSpaces (' ' :: (text ++ '\n' :: rest))) =
      some (value, '\n' :: rest) := by
    rw [skipSpaces_space, written.solid, written.reads]
  obtain ⟨c, t, starts, first⟩ := bare.head
  have bracket : c ≠ '[' := isBareKeyChar_ne first (by decide)
  simp only [writeLine, List.append_assoc, List.cons_append, List.nil_append]
  rw [starts, List.cons_append] at path ⊢
  rw [statement?.eq_3 _ _ (by simp [bracket]) (by simp [bracket])]
  simp only [path, Option.bind_eq_bind, Option.bind_some, reads, lineEnd?_newline]
  cases d.addKey? [] name value <;> rfl

theorem statement?_header {name : String} (bare : IsBare name) (d : Draft) (rest : List Char) :
    statement? d ('[' :: name.toList ++ ']' :: '\n' :: rest) =
      (d.openTable? [] name).map fun d => (d, rest) := by
  have path : path? (name.toList ++ ']' :: '\n' :: rest) = some (([], name), ']' :: '\n' :: rest) :=
    path?_bare bare (by decide) (skipSpaces_cons (by decide) _) (by decide)
  obtain ⟨c, t, starts, first⟩ := bare.head
  have bracket : c ≠ '[' := isBareKeyChar_ne first (by decide)
  rw [starts] at path ⊢
  simp only [List.cons_append] at path ⊢
  rw [statement?.eq_2 _ _ (by simp [bracket])]
  simp only [path, Option.bind_eq_bind, Option.bind_some, lineEnd?_newline, Text.symbol?_self]
  cases d.openTable? [] name <;> rfl

theorem statements?_of_skipFiller {s t : List Char} {c : Char} (skipped : skipFiller false s = c :: t)
    (fuel : Nat) (d : Draft) :
    statements? (fuel + 1) d s =
      (statement? d (c :: t)).bind fun (d, rest) => statements? fuel d rest := by
  simp only [statements?, skipped]
  rfl

/-- An entry is read as it was written, and done to the document so far. -/
theorem statements?_entry {entry : Entry} (sound : entry.IsSound) (fuel : Nat) (d : Draft)
    (rest : List Char) :
    statements? (fuel + 1) d (entry.text ++ rest) =
      (extend? d entry).bind fun d => statements? fuel d rest := by
  cases entry with
  | header name =>
    -- the blank line before a header is skipped
    have skipped : skipFiller false ((header name).text ++ rest) =
        '[' :: (name.toList ++ ']' :: '\n' :: rest) := by
      simp [text, writeHeader, skipFiller, isSpace]
    have read := statement?_header sound d rest
    rw [List.cons_append] at read
    rw [statements?_of_skipFiller skipped, read, Option.bind_map]
    rfl
  | field name value written =>
    obtain ⟨bare, sound⟩ := sound
    obtain ⟨c, t, starts, first⟩ := bare.head
    have carriage : c ≠ '\r' := isBareKeyChar_ne first (by decide)
    have feed : c ≠ '\n' := isBareKeyChar_ne first (by decide)
    have comment : c ≠ '#' := isBareKeyChar_ne first (by decide)
    have read := statement?_field bare sound d rest
    rw [writeLine_of_head starts written, List.cons_append] at read
    rw [text, writeLine_of_head starts written, List.cons_append, statements?_of_skipFiller, read,
      Option.bind_map]
    · rfl
    · simp [skipFiller, carriage, feed, comment, isSpace_of_isBareKeyChar first]

theorem statements?_entries {entries : List Entry} (sound : ∀ entry ∈ entries, entry.IsSound)
    {fuel : Nat} (enough : entries.length < fuel) (d : Draft) :
    statements? fuel d (entries.flatMap text) = entries.foldlM extend? d := by
  induction entries generalizing fuel d with
  | nil =>
    obtain ⟨fuel, rfl⟩ := Nat.exists_eq_add_of_lt enough
    rfl
  | cons entry entries ih =>
    obtain ⟨fuel, rfl⟩ := Nat.exists_eq_add_of_lt (Nat.zero_lt_of_lt enough)
    obtain ⟨first, sound⟩ := List.forall_mem_cons.mp sound
    rw [List.length_cons] at enough
    rw [List.flatMap_cons, statements?_entry first, List.foldlM_cons]
    congr 1
    funext d
    exact ih sound (by omega) d

theorem Entry.IsSound.head {entry : Entry} (sound : entry.IsSound) :
    ∃ c t, entry.text = c :: t ∧ c ≠ '\ufeff' := by
  cases entry with
  | header name => exact ⟨'\n', _, rfl, by decide⟩
  | field name value written =>
    obtain ⟨c, t, starts, first⟩ := sound.1.head
    exact ⟨c, _, writeLine_of_head starts written, isBareKeyChar_ne first (by decide)⟩

theorem parse?_entries {entries : List Entry} (sound : ∀ entry ∈ entries, entry.IsSound) :
    Toml.parse? (String.ofList (entries.flatMap text)) =
      (entries.foldlM extend? .empty).map (·.root) := by
  have short : entries.length ≤ (entries.flatMap text).length := by
    induction entries with
    | nil => exact Nat.zero_le _
    | cons entry entries ih =>
      obtain ⟨first, sound⟩ := List.forall_mem_cons.mp sound
      obtain ⟨c, t, starts, -⟩ := first.head
      have more := ih sound
      simp only [List.flatMap_cons, starts, List.length_append, List.length_cons]
      omega
  have unmarked : skipByteOrderMark (entries.flatMap text) = entries.flatMap text := by
    cases entries with
    | nil => rfl
    | cons entry entries =>
      obtain ⟨c, t, starts, other⟩ := (sound entry List.mem_cons_self).head
      rw [List.flatMap_cons, starts, List.cons_append]
      exact skipByteOrderMark.eq_2 _ (by simp [other])
  simp only [Toml.parse?, String.toList_ofList, unmarked]
  rw [statements?_entries sound (by omega)]

end Backlog.Config
