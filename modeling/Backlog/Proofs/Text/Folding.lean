import Backlog.Text.CaseFold

/-!
# What folding makes one

Bytes are folded one by one, but names are made of characters.  In UTF-8 an ASCII
character is one byte below 128, and every other character has only bytes from 128 on,
which folding leaves alone.  So two names are folded to the same bytes exactly when
they have the same characters up to the case of ASCII letters.
-/

namespace Backlog.Text

/-! ## Bytes of a name -/

theorem toList_loop (bytes : ByteArray) (i : Nat) (done : List UInt8) :
    ByteArray.toList.loop bytes i done = done.reverse ++ bytes.data.toList.drop i := by
  fun_induction ByteArray.toList.loop bytes i done with
  | case1 i done inside ih =>
    have bound : i < bytes.data.toList.length := by simpa using inside
    rw [ih, List.drop_eq_getElem_cons bound]
    simp [ByteArray.get!, inside]
  | case2 i done outside =>
    have ended : bytes.data.toList.length ≤ i := by simpa using outside
    rw [List.drop_eq_nil_of_le ended]
    simp

theorem nameBytes_eq_flatMap (name : String) :
    nameBytes name = name.toList.flatMap String.utf8EncodeChar := by
  rw [nameBytes, String.toUTF8_eq_toByteArray, ← String.utf8Encode_toList, List.utf8Encode,
    ByteArray.toList, toList_loop]
  simp

theorem nameBytes_injective {a b : String} (same : nameBytes a = nameBytes b) : a = b := by
  rw [nameBytes_eq_flatMap, nameBytes_eq_flatMap] at same
  rw [← String.toByteArray_inj, ← String.utf8Encode_toList, ← String.utf8Encode_toList,
    List.utf8Encode, List.utf8Encode, same]

/-! ## Folding a character -/

theorem utf8EncodeChar_of_ascii {c : Char} (ascii : c.val.toNat ≤ 127) :
    String.utf8EncodeChar c = [UInt8.ofNat c.val.toNat] :=
  if_pos ascii

theorem high_of_mem_utf8EncodeChar {c : Char} (other : ¬ c.val.toNat ≤ 127) :
    ∀ b ∈ String.utf8EncodeChar c, 128 ≤ b.toNat := by
  intro b member
  simp only [String.utf8EncodeChar, other, if_false] at member
  -- the bytes of a longer form are a sum of 128 or more and what is left of the code point
  split at member
  · simp only [List.mem_cons, List.not_mem_nil, or_false] at member
    rcases member with rfl | rfl <;> rw [UInt8.toNat_ofNat'] <;> omega
  · split at member
    · simp only [List.mem_cons, List.not_mem_nil, or_false] at member
      rcases member with rfl | rfl | rfl <;> rw [UInt8.toNat_ofNat'] <;> omega
    · simp only [List.mem_cons, List.not_mem_nil, or_false] at member
      rcases member with rfl | rfl | rfl | rfl <;> rw [UInt8.toNat_ofNat'] <;> omega

theorem lowerByte_of_high {b : UInt8} (high : 128 ≤ b.toNat) : lowerByte b = b := by
  have above : ¬ b ≤ 90 := by
    rw [UInt8.le_iff_toNat_le]
    change ¬ b.toNat ≤ 90
    omega
  simp [lowerByte, above]

theorem lowerByte_ofNat : ∀ n ≤ 127,
    lowerByte (UInt8.ofNat n) = UInt8.ofNat (if 65 ≤ n ∧ n ≤ 90 then n + 32 else n) := by
  decide

theorem toNat_toLower (c : Char) :
    c.toLower.val.toNat =
      if 65 ≤ c.val.toNat ∧ c.val.toNat ≤ 90 then c.val.toNat + 32 else c.val.toNat := by
  by_cases capital : 65 ≤ c.val.toNat ∧ c.val.toNat ≤ 90
  · have capital' : c.val ≥ 'A'.val ∧ c.val ≤ 'Z'.val := capital
    have lower : c.toLower = _ := dif_pos capital'
    rw [lower, if_pos capital]
    change (c.val + 32).toNat = _
    rw [UInt32.toNat_add]
    change (c.val.toNat + 32) % 2 ^ 32 = _
    omega
  · have other : ¬ (c.val ≥ 'A'.val ∧ c.val ≤ 'Z'.val) := capital
    have same : c.toLower = c := dif_neg other
    rw [same, if_neg capital]

theorem map_lowerByte_utf8EncodeChar (c : Char) :
    (String.utf8EncodeChar c).map lowerByte = String.utf8EncodeChar c.toLower := by
  have lowered := toNat_toLower c
  by_cases ascii : c.val.toNat ≤ 127
  · have ascii' : c.toLower.val.toNat ≤ 127 := by
      rw [lowered]
      split <;> omega
    rw [utf8EncodeChar_of_ascii ascii, utf8EncodeChar_of_ascii ascii', List.map_singleton,
      lowerByte_ofNat _ ascii, lowered]
  · have same : c.toLower = c := by
      rw [if_neg (by omega)] at lowered
      exact Char.ext (UInt32.toNat_inj.mp lowered)
    rw [same]
    conv => rhs; rw [← List.map_id (String.utf8EncodeChar c)]
    apply List.map_congr_left
    intro b member
    exact lowerByte_of_high (high_of_mem_utf8EncodeChar ascii b member)

/-! ## Folding a name -/

theorem foldCase_eq_nameBytes (name : String) : foldCase name = nameBytes name.toLower := by
  have lower : name.toLower = name.map Char.toLower := rfl
  rw [foldCase, nameBytes_eq_flatMap, nameBytes_eq_flatMap, lower, String.toList_map,
    List.map_flatMap, List.flatMap_map]
  congr 1
  funext c
  exact map_lowerByte_utf8EncodeChar c

theorem foldCase_eq_iff (a b : String) : foldCase a = foldCase b ↔ a.toLower = b.toLower := by
  rw [foldCase_eq_nameBytes, foldCase_eq_nameBytes]
  exact ⟨nameBytes_injective, congrArg nameBytes⟩

theorem sameName_iff_toLower (a b : String) : sameName a b = true ↔ a.toLower = b.toLower := by
  rw [sameName_iff, foldCase_eq_iff]

end Backlog.Text
