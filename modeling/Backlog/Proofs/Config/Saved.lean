import Backlog.Config.File
import Backlog.Proofs.Config.Entries
import Backlog.Proofs.Text.Folding

/-!
# Saved settings load back

What `saveTo` writes is what `loadFrom` reads: the same settings, or what is wrong with them
(`Config.saved_settings_load_back`).  Numbers that TOML has no room for are noticed before the
file is touched.
-/

namespace Backlog

/-! ## Files -/

/-- Whether a file can be written under a path: directories can be made above it, and it is
    no directory itself. -/
structure Disk.IsWritable (d : Disk) (path : Path) : Prop where
  above : ∀ f ∈ d.files, ¬ f.1 <+: path.dropLast
  file : d.isDirectory path = false

theorem Disk.files_of_makeDirectory? {d above : Disk} {path : Path}
    (made : d.makeDirectory? path = some above) : above.files = d.files := by
  unfold makeDirectory? at made
  split at made
  · cases made
  · cases made
    rfl

theorem Disk.isWritable_iff {d : Disk} {path : Path} :
    d.IsWritable path ↔
      ∃ above, d.makeDirectory? path.dropLast = some above ∧ above.isDirectory path = false := by
  constructor
  · rintro ⟨above, file⟩
    have free : d.files.any (fun f => f.1.isPrefixOf path.dropLast) = false := by
      simpa using above
    refine ⟨{ d with directories := d.directories ++ [path.dropLast] }, ?_, ?_⟩
    · simp only [makeDirectory?, free]
      rfl
    · have some : path ≠ [] := by
        rintro rfl
        cases file
      -- the new directory is above the path and makes nothing of it
      have longer : path.isPrefixOf path.dropLast = false := by
        rw [← Bool.not_eq_true, List.isPrefixOf_iff_prefix]
        intro isPrefix
        have length := isPrefix.length_le
        rw [List.length_dropLast] at length
        have positive := List.length_pos_of_ne_nil some
        omega
      simpa [isDirectory, isThere, longer] using file
  · rintro ⟨above, made, file⟩
    unfold makeDirectory? at made
    split at made
    · cases made
    · rename_i free
      cases made
      refine ⟨by simpa using free, ?_⟩
      simp only [isDirectory, isThere, List.any_append, Bool.or_eq_false_iff, Bool.and_eq_false_iff] at file ⊢
      refine ⟨file.1, ?_⟩
      rcases file.2 with nothing | something
      · exact .inl ⟨nothing.1, nothing.2.1⟩
      · exact .inr something

theorem fromUTF8?_toUTF8 (content : String) :
    String.fromUTF8? ⟨content.toUTF8.toList.toArray⟩ = some content := by
  have bytes : (⟨content.toUTF8.toList.toArray⟩ : ByteArray) = content.toByteArray := by
    rw [String.toUTF8_eq_toByteArray, ByteArray.toList, Text.toList_loop]
    simp
  rw [bytes, String.fromUTF8?, dif_pos content.isValidUTF8]
  rfl

namespace Config

open Toml

/-! ## Numbers -/

/-- Whether all numbers fit a 64-bit word with a sign. -/
def Fits (c : Config) : Prop :=
  c.tickMs.toNat ≤ 9223372036854775807 ∧ c.maxLines.toNat ≤ 9223372036854775807 ∧
    c.maxAgeSecs.toNat ≤ 9223372036854775807 ∧ c.hashBuckets.toNat ≤ 9223372036854775807

theorem isWritten_unsigned {n : UInt64} (fits : n.toNat ≤ 9223372036854775807) :
    IsWritten (.integer n.toNat) (writeInteger n.toNat) :=
  isWritten_integer (by omega) (by omega)

theorem isWritten_signed (n : Int64) : IsWritten (.integer n.toInt) (writeInteger n.toInt) :=
  isWritten_integer n.le_toInt (Int.le_of_lt_add_one n.toInt_lt)

theorem unsigned?_toNat (n : UInt64) : unsigned? (.integer n.toNat) = some n := by
  simp [unsigned?]

theorem signed?_toInt (n : Int64) : signed? (.integer n.toInt) = some n := by
  simp [signed?]

/-! ## Documents -/

/-- The document of the settings, entry by entry. -/
def entries (c : Config) : List Entry :=
  let text (s : String) : Value × List Char := (.string s, writeString s.toList)
  let number (n : Int) : Value × List Char := (.integer n, writeInteger n)
  let field (name : String) (value : Value × List Char) : Entry := .field name value.1 value.2
  [field "server_name" (text c.serverName),
    .header "scheduler",
    field "tick_ms" (number c.tickMs.toNat),
    .header "history",
    field "backend" (text c.backend),
    field "max_lines" (number c.maxLines.toNat),
    field "max_age_secs" (number c.maxAgeSecs.toNat),
    field "retention_every_ms" (number c.retentionEveryMs.toInt),
    field "hash_buckets" (number c.hashBuckets.toNat)]

theorem document?_of_fits {c : Config} (fits : c.Fits) :
    c.document? = some (c.entries.flatMap Entry.text) := by
  obtain ⟨tick, lines, age, buckets⟩ := fits
  simp [document?, writeUnsigned?, tick, lines, age, buckets, entries, Entry.text]

theorem document?_of_not_fits {c : Config} (large : ¬ c.Fits) : c.document? = none := by
  simp only [Fits, not_and_or] at large
  rcases large with tick | lines | age | buckets
  · simp [document?, writeUnsigned?, tick]
  · simp [document?, writeUnsigned?, lines]
  · simp [document?, writeUnsigned?, age]
  · simp [document?, writeUnsigned?, buckets]

theorem isSound_entries {c : Config} (fits : c.Fits) : ∀ entry ∈ c.entries, entry.IsSound := by
  obtain ⟨tick, lines, age, buckets⟩ := fits
  have text (s : String) : IsWritten (.string s) (writeString s.toList) := by
    simpa using isWritten_string s.toList
  simp only [entries, List.forall_mem_cons, Entry.IsSound]
  refine ⟨⟨?_, text _⟩, ?_, ⟨?_, isWritten_unsigned tick⟩, ?_, ⟨?_, text _⟩,
    ⟨?_, isWritten_unsigned lines⟩, ⟨?_, isWritten_unsigned age⟩, ⟨?_, isWritten_signed _⟩,
    ⟨?_, isWritten_unsigned buckets⟩, by simp⟩
  -- what is left is that none of the names needs quotes
  all_goals simp [Entry.IsBare, isBareKeyChar]

/-- The table that the entries of the settings make. -/
theorem foldlM_entries (c : Config) :
    (c.entries.foldlM Entry.extend? .empty).map (·.root) =
      some [("server_name", .string c.serverName),
        ("scheduler", .table .header [("tick_ms", .integer c.tickMs.toNat)]),
        ("history", .table .header [("backend", .string c.backend),
          ("max_lines", .integer c.maxLines.toNat), ("max_age_secs", .integer c.maxAgeSecs.toNat),
          ("retention_every_ms", .integer c.retentionEveryMs.toInt),
          ("hash_buckets", .integer c.hashBuckets.toNat)])] := by
  simp [entries, Entry.extend?, Draft.empty, Draft.addKey?, Draft.openTable?, Entries.changeAt?,
    Entries.addKey?, Entries.openTable?, Entries.get?, Entries.push, Entries.set, Route.mayEnter]

theorem ofEntries?_entries (c : Config) :
    ((c.entries.foldlM Entry.extend? .empty).map (·.root)).bind ofEntries? = some c := by
  rw [foldlM_entries]
  simp [ofEntries?, Section.field, Section.value?, Section.get?, Section.ofValue?, Entries.get?, text?,
    unsigned?_toNat, signed?_toInt]

theorem parse_of_fits {c : Config} (fits : c.Fits) :
    parse (String.ofList (c.entries.flatMap Entry.text)) = c.validate := by
  rw [parse, parse?_entries (isSound_entries fits), ofEntries?_entries]

/-! ## Saving and loading -/

theorem saveTo_of_fits {c : Config} (fits : c.Fits) {disk : Disk} {path : Path}
    (writable : disk.IsWritable path) :
    let saved := c.saveTo disk path
    saved.2 = .ok () ∧ loadFrom saved.1 path = c.validate := by
  obtain ⟨above, made, file⟩ := Disk.isWritable_iff.mp writable
  have render : c.render = .ok (String.ofList (c.entries.flatMap Entry.text)) := by
    simp only [render, document?_of_fits fits]
  obtain ⟨written, write⟩ : ∃ written,
      above.write? path (String.ofList (c.entries.flatMap Entry.text)).toUTF8.toList = some written := by
    simp [Disk.write?, file]
  simp only [saveTo, made, render, write, loadFrom, ofBytes, Disk.read?_of_write? write, Option.bind_some,
    fromUTF8?_toUTF8, true_and]
  exact parse_of_fits fits

theorem saved_iff_isWritable {c : Config} {disk : Disk} {path : Path} (fits : c.Fits) :
    (c.saveTo disk path).2 = .ok () ↔ disk.IsWritable path := by
  refine ⟨fun saved => Disk.isWritable_iff.mpr ?_, fun writable => (saveTo_of_fits fits writable).1⟩
  simp only [saveTo, render, document?_of_fits fits] at saved
  cases made : disk.makeDirectory? path.dropLast with
  | none => simp [made] at saved
  | some above =>
    refine ⟨above, rfl, ?_⟩
    by_contra directory
    rw [Bool.not_eq_false] at directory
    simp [made, Disk.write?, directory] at saved

theorem saveTo_of_not_fits {c : Config} (large : ¬ c.Fits) {disk : Disk} {path : Path}
    (writable : disk.IsWritable path) :
    let saved := c.saveTo disk path
    saved.2 = .error (.config .unserializable) ∧ saved.1.files = disk.files := by
  obtain ⟨above, made, -⟩ := Disk.isWritable_iff.mp writable
  have render : c.render = .error (.config .unserializable) := by
    simp only [render, document?_of_not_fits large]
  simp only [saveTo, made, render, Disk.files_of_makeDirectory? made, and_self]

theorem validate_eq_ok {c c' : Config} (valid : c.validate = .ok c') : c' = c := by
  unfold validate at valid
  split at valid
  · cases valid
  · exact (Except.ok.inj valid).symm

theorem validate_of_parse {content : String} {c : Config} (parsed : parse content = .ok c) :
    c.validate = .ok c := by
  unfold parse at parsed
  split at parsed
  · cases parsed
  · obtain rfl := validate_eq_ok parsed
    exact parsed

theorem validate_of_loadFrom {disk : Disk} {path : Path} {c : Config}
    (loaded : loadFrom disk path = .ok c) : c.validate = .ok c := by
  unfold loadFrom ofBytes at loaded
  split at loaded
  · cases loaded
  · exact validate_of_parse loaded

/-- Settings whose numbers fit are saved exactly where a file can be written, and load back as they
    are if the daemon can run with them, and else with the error that says why it cannot.  Where
    a number does not fit a TOML integer, no file is written.  Whatever text settings are read
    from, the daemon can run with them. -/
theorem saved_settings_load_back :
    (∀ (c : Config) (disk : Disk) (path : Path),
      let saved := c.saveTo disk path
      (c.Fits → (saved.2 = .ok () ↔ disk.IsWritable path)) ∧
        (disk.IsWritable path →
          (c.Fits → loadFrom saved.1 path = c.validate ∧ ∀ c', c.validate = .ok c' → c' = c) ∧
            (¬ c.Fits → saved.2 = .error (.config .unserializable) ∧ saved.1.files = disk.files))) ∧
      (∀ content c, parse content = .ok c → c.validate = .ok c) ∧
      ∀ disk path c, loadFrom disk path = .ok c → c.validate = .ok c := by
  refine ⟨?_, fun content c => validate_of_parse, fun disk path c => validate_of_loadFrom⟩
  intro c disk path saved
  refine ⟨saved_iff_isWritable, fun writable => ⟨?_, ?_⟩⟩
  · intro fits
    exact ⟨(saveTo_of_fits fits writable).2, fun c' => validate_eq_ok⟩
  · intro large
    exact saveTo_of_not_fits large writable

/-- A name that needs all escapes is kept, a blank one is refused when it is loaded, and a number
    that is too large leaves the old file in place. -/
theorem saved_settings_load_back_quoted :
    let c : Config := { serverName := "say \"\"\"hi\"\"\"\r\n\x01 \\ it's", backend := "two''ticks" }
    let blank : Config := { c with serverName := " \t" }
    let large : Config := { c with hashBuckets := 9223372036854775808 }
    let path : Path := ["home", "config.toml"]
    let disk : Disk := ⟨[(path, [120])], []⟩
    disk.IsWritable path ∧
      (c.Fits ∧ loadFrom (c.saveTo disk path).1 path = .ok c) ∧
      (blank.Fits ∧ loadFrom (blank.saveTo disk path).1 path = .error (.config .emptyServerName)) ∧
      (¬ large.Fits ∧ (large.saveTo disk path).1.read? path = some [120]) := by
  intro c blank large path disk
  have writable : disk.IsWritable path := ⟨by decide +kernel, by decide +kernel⟩
  have fits : c.Fits ∧ blank.Fits ∧ ¬ large.Fits := by unfold Fits; decide +kernel
  obtain ⟨saves, -, -⟩ := saved_settings_load_back
  obtain ⟨kept, -⟩ := ((saves c disk path).2 writable).1 fits.1
  obtain ⟨refused, -⟩ := ((saves blank disk path).2 writable).1 fits.2.1
  obtain ⟨-, files⟩ := ((saves large disk path).2 writable).2 fits.2.2
  refine ⟨writable, ⟨fits.1, kept.trans ?_⟩, ⟨fits.2.1, refused.trans ?_⟩, fits.2.2, ?_⟩
  · decide +kernel
  · decide +kernel
  · rw [Disk.read?, files]
    decide +kernel

end Config

end Backlog
