import Mathlib.Data.List.Nodup

/-!
# Lists with a key

Tasks, logs and backends are kept in lists and looked up by a handle or a name.  Where no two items
have one key, an item is found under its own, and with the first of a key all of that key are gone.
-/

namespace Backlog

variable {α ι : Type} [DecidableEq ι] {key : α → ι} {items : List α}

theorem find?_key_eq_some_iff (distinct : (items.map key).Nodup) {k : ι} {x : α} :
    items.find? (fun item => key item = k) = some x ↔ x ∈ items ∧ key x = k := by
  constructor
  · intro found
    exact ⟨List.mem_of_find?_eq_some found, by simpa using List.find?_some found⟩
  · rintro ⟨member, own⟩
    cases found : items.find? (fun item => key item = k) with
    | none =>
      have absent := List.find?_eq_none.mp found x member
      simp [own] at absent
    | some other =>
      -- two items of one key are one item
      have same : key other = k := by simpa using List.find?_some found
      rw [List.inj_on_of_nodup_map distinct (List.mem_of_find?_eq_some found) member
        (same.trans own.symm)]

theorem eraseP_key_eq_filter (distinct : (items.map key).Nodup) (k : ι) :
    items.eraseP (fun item => key item = k) = items.filter fun item => key item ≠ k := by
  induction items with
  | nil => rfl
  | cons item rest ih =>
    obtain ⟨other, distinct'⟩ := List.nodup_cons.mp distinct
    by_cases own : key item = k
    · -- the first is the only one of its key
      have others : ∀ later ∈ rest, key later ≠ k := by
        intro later member same
        exact other (List.mem_map.mpr ⟨later, member, same.trans own.symm⟩)
      rw [List.eraseP_cons_of_pos (by simpa using own), List.filter_cons_of_neg (by simpa using own)]
      exact (List.filter_eq_self.mpr fun later member => by simpa using others later member).symm
    · rw [List.eraseP_cons_of_neg (by simpa using own), List.filter_cons_of_pos (by simpa using own),
        ih distinct']

end Backlog
