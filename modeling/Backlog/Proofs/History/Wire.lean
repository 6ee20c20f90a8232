import Backlog.Proofs.History.Provenance
import Mathlib.Data.List.TakeWhile

/-!
# Reading the wire

`TagSet.ofWire` takes a line on the wire apart into its tags and its text.  It reads back
what was written wherever the names of tags have none of the characters that end a name, a tag
or a line; values may be anything, as they are escaped.
-/

namespace Backlog

namespace TagSet

/-- Whether a name of a tag can stand on the wire as it is. -/
def IsWireName (name : String) : Prop :=
  ∀ c ∈ name.toList, c ∉ [';', '=', ' ', '\r', '\n']

instance : DecidablePred IsWireName := fun name =>
  List.decidableBAll (· ∉ [';', '=', ' ', '\r', '\n']) name.toList

/-- Whether all names can. -/
def IsPlain (s : TagSet) : Prop :=
  ∀ tag ∈ s.tags, IsWireName tag.name

instance (s : TagSet) : Decidable s.IsPlain :=
  List.decidableBAll (fun tag : Tag => IsWireName tag.name) s.tags

/-! ## Values -/

/-- The character that is written as a backslash and `c`. -/
def unescapeChar (c : Char) : Char :=
  if c = ':' then ';'
  else if c = 's' then ' '
  else if c = 'r' then '\r'
  else if c = 'n' then '\n'
  else c

/-- The value that is written as `s`. -/
def unescape : List Char → List Char
  | '\\' :: c :: rest => unescapeChar c :: unescape rest
  | c :: rest => c :: unescape rest
  | [] => []

/-- A character is written as a backslash and another one, or it is harmless and written as it
    is. -/
theorem escapeChar_cases (c : Char) :
    (∃ letter, escapeChar c = ['\\', letter] ∧ unescapeChar letter = c ∧
      letter ∉ [';', ' ', '\r', '\n']) ∨
    (escapeChar c = [c] ∧ c ∉ [';', ' ', '\\', '\r', '\n']) := by
  by_cases special : c ∈ [';', ' ', '\\', '\r', '\n']
  · simp only [List.mem_cons, List.not_mem_nil, or_false] at special
    rcases special with rfl | rfl | rfl | rfl | rfl
    · exact .inl ⟨':', rfl, rfl, by decide⟩
    · exact .inl ⟨'s', rfl, rfl, by decide⟩
    · exact .inl ⟨'\\', rfl, rfl, by decide⟩
    · exact .inl ⟨'r', rfl, rfl, by decide⟩
    · exact .inl ⟨'n', rfl, rfl, by decide⟩
  · refine .inr ⟨?_, special⟩
    simp only [List.mem_cons, List.not_mem_nil, or_false, not_or] at special
    simp [escapeChar, special]

theorem unescape_escapeChar (c : Char) (rest : List Char) :
    unescape (escapeChar c ++ rest) = c :: unescape rest := by
  rcases escapeChar_cases c with ⟨letter, written, read, -⟩ | ⟨written, plain⟩
  · rw [written, List.cons_append, List.cons_append, List.nil_append, unescape, read]
  · -- a backslash would open an escape, but it is not written as it is
    rw [written, List.singleton_append, unescape]
    rintro letter rest' rfl
    simp at plain

theorem unescape_escape (value : List Char) : unescape (escape value) = value := by
  induction value with
  | nil => rfl
  | cons c value ih =>
    have step := unescape_escapeChar c (escape value)
    rw [ih] at step
    exact step

/-- Nothing in an escaped value ends the tag or the line. -/
theorem not_mem_of_mem_escape {value : List Char} {c : Char} (member : c ∈ escape value) :
    c ∉ [';', ' ', '\r', '\n'] := by
  obtain ⟨d, -, among⟩ := List.mem_flatMap.mp member
  rcases escapeChar_cases d with ⟨letter, written, -, harmless⟩ | ⟨written, harmless⟩
  · rw [written] at among
    rcases List.mem_cons.mp among with rfl | last
    · decide
    · rw [List.mem_singleton.mp last]
      exact harmless
  · rw [written, List.mem_singleton] at among
    subst among
    exact fun ends => harmless ((by decide : [';', ' ', '\r', '\n'] ⊆ [';', ' ', '\\', '\r', '\n']) ends)

/-! ## Tags -/

/-- The tag that is written as `s`. -/
def readTag (s : List Char) : Tag :=
  match s.dropWhile (· ≠ '=') with
  | [] => ⟨String.ofList s, none⟩
  | _ :: value => ⟨String.ofList (s.takeWhile (· ≠ '=')), some (String.ofList (unescape value))⟩

theorem readTag_wireTag {tag : Tag} (named : IsWireName tag.name) : readTag (wireTag tag) = tag := by
  have plain : ∀ c ∈ tag.name.toList, decide (c ≠ '=') = true := by
    intro c member
    have other : c ≠ '=' := List.ne_of_not_mem_cons (List.not_mem_of_not_mem_cons (named c member))
    simpa using other
  obtain ⟨name, value⟩ := tag
  cases value with
  | none =>
    have all : name.toList.dropWhile (· ≠ '=') = [] := List.dropWhile_eq_nil_iff.mpr plain
    simp only [readTag, wireTag, all, String.ofList_toList]
  | some value =>
    -- the name ends at the first equals sign, as it has none of its own
    simp only [readTag, wireTag]
    rw [List.dropWhile_append_of_pos plain, List.takeWhile_append_of_pos plain]
    simp [unescape_escape]

theorem not_mem_of_mem_wireTag {tag : Tag} (named : IsWireName tag.name) {c : Char}
    (member : c ∈ wireTag tag) : c ∉ [';', ' ', '\r', '\n'] := by
  have ofName : c ∈ tag.name.toList → c ∉ [';', ' ', '\r', '\n'] := by
    intro among ends
    exact named c among ((by decide : [';', ' ', '\r', '\n'] ⊆ [';', '=', ' ', '\r', '\n']) ends)
  unfold wireTag at member
  split at member
  · exact ofName member
  · rcases List.mem_append.mp member with name | rest
    · exact ofName name
    · rcases List.mem_cons.mp rest with rfl | value
      · decide
      · exact not_mem_of_mem_escape value

/-! ## Lines -/

theorem mem_intercalate {sep c : Char} {parts : List (List Char)}
    (member : c ∈ [sep].intercalate parts) : c = sep ∨ ∃ part ∈ parts, c ∈ part := by
  induction parts with
  | nil => simp at member
  | cons part parts ih =>
    cases parts with
    | nil => exact .inr ⟨part, List.mem_cons_self, by simpa using member⟩
    | cons next parts =>
      rw [List.intercalate_cons_cons, List.append_assoc, List.mem_append, List.singleton_append,
        List.mem_cons] at member
      rcases member with first | same | later
      · exact .inr ⟨part, List.mem_cons_self, first⟩
      · exact .inl same
      · rcases ih later with same | ⟨other, among, inside⟩
        · exact .inl same
        · exact .inr ⟨other, List.mem_cons_of_mem _ among, inside⟩

/-- The tags and the text of a line on the wire. -/
def ofWire (line : String) : TagSet × String :=
  match line.toList with
  | '@' :: rest =>
    (⟨((rest.takeWhile (· ≠ ' ')).splitOn ';').map readTag⟩,
      String.ofList ((rest.dropWhile (· ≠ ' ')).drop 1))
  | _ => (empty, line)

theorem wireHead_of_nonempty {s : TagSet} (nonempty : s.tags ≠ []) :
    s.wireHead.toList = '@' :: [';'].intercalate (s.tags.map wireTag) ++ [' '] := by
  simp [wireHead, isEmpty, nonempty]

/-- Nothing between the at sign and the space ends the line or the tags. -/
theorem IsPlain.inner {s : TagSet} (plain : s.IsPlain) {c : Char}
    (member : c ∈ [';'].intercalate (s.tags.map wireTag)) : c ∉ [' ', '\r', '\n'] := by
  rcases mem_intercalate member with rfl | ⟨part, among, inside⟩
  · decide
  · obtain ⟨tag, own, rfl⟩ := List.mem_map.mp among
    exact fun ends => not_mem_of_mem_wireTag (plain tag own) inside (List.mem_cons_of_mem _ ends)

theorem ofWire_append {s : TagSet} (plain : s.IsPlain) (nonempty : s.tags ≠ []) (text : String) :
    ofWire (s.wireHead ++ text) = (s, text) := by
  have inner : ∀ c ∈ [';'].intercalate (s.tags.map wireTag), decide (c ≠ ' ') = true := by
    intro c member
    have other : c ≠ ' ' := List.ne_of_not_mem_cons (plain.inner member)
    simpa using other
  have parts : ∀ part ∈ s.tags.map wireTag, ';' ∉ part := by
    intro part among inside
    obtain ⟨tag, own, rfl⟩ := List.mem_map.mp among
    exact not_mem_of_mem_wireTag (plain tag own) inside List.mem_cons_self
  have tags : (s.tags.map wireTag).map readTag = s.tags := by
    rw [List.map_map, List.map_congr_left (g := id), List.map_id]
    intro tag own
    exact readTag_wireTag (plain tag own)
  have line : (s.wireHead ++ text).toList =
      '@' :: ([';'].intercalate (s.tags.map wireTag) ++ ' ' :: text.toList) := by
    simp [wireHead_of_nonempty nonempty]
  simp only [ofWire, line]
  -- the tags end at the first space, and no tag has a semicolon within
  rw [List.takeWhile_append_of_pos inner, List.dropWhile_append_of_pos inner]
  simp [List.splitOn_intercalate ';' parts (by simpa using nonempty), tags]

theorem ofWire_wireHead {s : TagSet} (plain : s.IsPlain) : ofWire s.wireHead = (s, "") := by
  by_cases nonempty : s.tags = []
  · -- without tags nothing is written
    obtain ⟨tags⟩ := s
    subst nonempty
    rfl
  · have read := ofWire_append plain nonempty ""
    rw [String.append_empty] at read
    exact read

end TagSet

/-! ## Replays -/

/-- Whether the tags of a line, if it has any, can stand on the wire as they are. -/
def Sent.IsPlain (sent : Sent) : Prop :=
  ∀ tags ∈ sent.tags, tags.IsPlain

theorem Sent.ofWire_wire {sent : Sent} {tags : TagSet} (tagged : sent.tags = some tags)
    (nonempty : tags.tags ≠ []) (plain : tags.IsPlain) :
    TagSet.ofWire sent.wire = (tags, sent.text) := by
  rw [Sent.wire, tagged]
  exact TagSet.ofWire_append plain nonempty sent.text

namespace Archive

/-- Whether a line is sent in some replay of some archive that requests can reach. -/
def Sends (sent : Sent) : Prop :=
  ∃ hash server buckets first requests id recipient target filter,
    let a := (start hash server buckets first).after requests
    sent ∈ (a.store.replay a.now id recipient target filter).answer.2

theorem tags_ne_nil_of_time {tags : TagSet} {value : String} (timed : tags.get? "time" = some value) :
    tags.tags ≠ [] := by
  intro none
  rw [TagSet.get?, TagSet.find?, none] at timed
  cases timed

/-- A line that is sent is a stored one, which has a tag at least as it has a time, or it opens
    or closes a batch. -/
theorem Sends.cases {sent : Sent} (sends : Sends sent) :
    (∃ tags, sent.tags = some tags ∧ tags.tags ≠ []) ∨
      sent.tags = none ∧ ∃ rest, sent.text.toList = ':' :: rest := by
  obtain ⟨hash, server, buckets, first, requests, id, recipient, target, filter, member⟩ := sends
  obtain ⟨log, found, among⟩ := Store.mem_send_of_mem_replay _ _ _ member
  rcases Replay.mem_send _ _ _ _ among with ⟨line, selected, rfl | rfl⟩ | rfl | rfl
  · obtain ⟨value, timed⟩ := time_of_held found ((filter.select_sublist _ _).subset selected)
    exact .inl ⟨line.tags, rfl, tags_ne_nil_of_time timed⟩
  · exact .inl ⟨_, rfl, List.cons_ne_nil _ _⟩
  · refine .inr ⟨rfl, ?_⟩
    simp [Replay.opening]
  · refine .inr ⟨rfl, ?_⟩
    simp [Replay.closing]

end Archive

namespace TagSet

/-- What tags are written as tells them apart, with any text after it, when their names have
    none of the characters that end a name, a tag or a line.  So a line of a replay is told from
    any other one by what is on the wire. -/
theorem wire_is_read_back :
    (∀ s : TagSet, s.IsPlain → ofWire s.wireHead = (s, "")) ∧
    (∀ s s' : TagSet, s.IsPlain → s'.IsPlain → s.wireHead = s'.wireHead → s = s') ∧
    (∀ s : TagSet, s.IsPlain → s.tags ≠ [] →
      ∃ inner, s.wireHead.toList = inner ++ [' '] ∧ ∀ c ∈ inner, c ∉ [' ', '\r', '\n']) ∧
    (∀ s s' : TagSet, s.IsPlain → s'.IsPlain → s.tags ≠ [] → s'.tags ≠ [] →
      ∀ text text', s.wireHead ++ text = s'.wireHead ++ text' → s = s' ∧ text = text') ∧
    ∀ sent tags, Archive.Sends sent → sent.tags = some tags → tags.IsPlain →
      ofWire sent.wire = (tags, sent.text) ∧
        ∀ sent', Archive.Sends sent' → sent'.IsPlain → sent'.wire = sent.wire → sent' = sent := by
  refine ⟨fun s => ofWire_wireHead, ?_, ?_, ?_, ?_⟩
  · intro s s' plain plain' same
    have read := ofWire_wireHead plain
    rw [same, ofWire_wireHead plain'] at read
    exact (congrArg Prod.fst read).symm
  · intro s plain nonempty
    refine ⟨_, wireHead_of_nonempty nonempty, ?_⟩
    intro c member
    rcases List.mem_cons.mp member with rfl | inside
    · decide
    · exact plain.inner inside
  · intro s s' plain plain' nonempty nonempty' text text' same
    have read := ofWire_append plain nonempty text
    rw [same, ofWire_append plain' nonempty' text'] at read
    exact (Prod.mk.inj read).imp Eq.symm Eq.symm
  · intro sent tags sends tagged plain
    -- an archive sends no empty tags
    have nonempty : tags.tags ≠ [] := by
      rcases sends.cases with ⟨tags', tagged', nonempty⟩ | ⟨untagged, -⟩
      · rw [tagged] at tagged'
        cases tagged'
        exact nonempty
      · rw [tagged] at untagged
        cases untagged
    have read := Sent.ofWire_wire tagged nonempty plain
    refine ⟨read, ?_⟩
    intro sent' sends' plain' same
    rcases sends'.cases with ⟨tags', tagged', nonempty'⟩ | ⟨untagged', rest, colon⟩
    · rw [← same, Sent.ofWire_wire tagged' nonempty' (plain' tags' tagged')] at read
      obtain ⟨sameTags, sameText⟩ := Prod.mk.inj read
      have sameOption : sent'.tags = sent.tags := by rw [tagged', tagged, sameTags]
      cases sent
      cases sent'
      exact congrArg₂ Sent.mk sameOption sameText
    · -- a line without tags begins with a colon, and one with tags with an at sign
      have letters := congrArg String.toList same
      simp [Sent.wire, tagged, untagged', colon, wireHead_of_nonempty nonempty] at letters

/-- A stored line with a tag that has no value, one that has an empty one, and one whose value
    has what escapes are made of. -/
theorem wire_is_read_back_escaped :
    let tags : TagSet := ⟨[⟨"time", some "noon"⟩, ⟨"+typing", none⟩, ⟨"note", some "a b;c\\s"⟩,
      ⟨"note", some ""⟩]⟩
    let sent : Sent := ⟨some tags, "hello"⟩
    Archive.Sends sent ∧ sent.wire = "@time=noon;+typing;note=a\\sb\\:c\\\\s;note= hello" ∧
      ofWire sent.wire = (tags, "hello") := by
  intro tags sent
  have plain : tags.IsPlain := by decide +kernel
  have sends : Archive.Sends sent :=
    ⟨fun _ => 0, "relay.test", 1, Instant.epoch, [.addLine "#a" tags "hello"], "1", ⟨true, false⟩,
      "#A", {}, by decide +kernel⟩
  refine ⟨sends, by decide +kernel, ?_⟩
  exact (wire_is_read_back.2.2.2.2 sent tags sends rfl plain).1

end TagSet

end Backlog
