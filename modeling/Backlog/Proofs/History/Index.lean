import Backlog.History.TargetIndex
import Mathlib.Algebra.GroupWithZero.Nat
import Mathlib.Data.List.Basic

/-!
# Logs in the table

What holds of every log in the table holds of every log after an operation on it, when
it holds of the one log that the operation makes or changes.  A log that is changed is
found under its name afterwards.
-/

namespace Backlog

namespace TargetIndex

variable {P : TargetLog → Prop} {x : TargetIndex} {name : String} {f : TargetLog → TargetLog}

/-- Every log has a property. -/
def Holds (P : TargetLog → Prop) (x : TargetIndex) : Prop :=
  ∀ l ∈ x.toList, P l

/-! ## Buckets -/

theorem mem_toList_of_mem_chain {l : TargetLog} (member : l ∈ x.chain name) : l ∈ x.toList :=
  List.mem_flatten.mpr ⟨x.chain name, Array.mem_toList_iff.mpr (Array.getElem_mem _), member⟩

theorem mem_toList_of_get? {l : TargetLog} (found : x.get? name = some l) : l ∈ x.toList :=
  mem_toList_of_mem_chain (List.mem_of_find?_eq_some found)

theorem isOf_of_get? {l : TargetLog} (found : x.get? name = some l) : isOf name l :=
  List.find?_some found

theorem chain_setChain (x : TargetIndex) (name : String) (chain : List TargetLog) (count : Nat) :
    (x.setChain name chain count).chain name = chain := by
  simp [TargetIndex.chain, setChain, slot]

theorem mem_toList_setChain {l : TargetLog} {chain : List TargetLog} {count : Nat}
    (member : l ∈ (x.setChain name chain count).toList) : l ∈ chain ∨ l ∈ x.toList := by
  obtain ⟨bucket, among, inside⟩ := List.mem_flatten.mp member
  rw [setChain, Array.toList_set] at among
  rcases List.mem_or_eq_of_mem_set among with old | rfl
  · exact .inr (List.mem_flatten.mpr ⟨bucket, old, inside⟩)
  · exact .inl inside

theorem mem_updateFirst {l : TargetLog} {chain : List TargetLog}
    (member : l ∈ updateFirst name f chain) :
    l ∈ chain ∨ ∃ old, chain.find? (isOf name) = some old ∧ l = f old := by
  induction chain with
  | nil => cases member
  | cons first rest ih =>
    unfold updateFirst at member
    split at member
    · rename_i own
      rcases List.mem_cons.mp member with rfl | member
      · exact .inr ⟨first, List.find?_cons_of_pos own, rfl⟩
      · exact .inl (List.mem_cons_of_mem _ member)
    · rename_i other
      rcases List.mem_cons.mp member with rfl | member
      · exact .inl List.mem_cons_self
      · rcases ih member with old | ⟨old, found, same⟩
        · exact .inl (List.mem_cons_of_mem _ old)
        · exact .inr ⟨old, (List.find?_cons_of_neg other).trans found, same⟩

theorem find?_updateFirst {chain : List TargetLog}
    (keeps : ∀ l, chain.find? (isOf name) = some l → isOf name (f l)) :
    (updateFirst name f chain).find? (isOf name) = (chain.find? (isOf name)).map f := by
  induction chain with
  | nil => rfl
  | cons first rest ih =>
    unfold updateFirst
    split
    · rename_i own
      have first_found : (first :: rest).find? (isOf name) = some first :=
        List.find?_cons_of_pos own
      rw [first_found, List.find?_cons_of_pos (keeps first first_found)]
      rfl
    · rename_i other
      rw [List.find?_cons_of_neg other] at keeps ⊢
      rw [List.find?_cons_of_neg other, ih keeps]

theorem mem_swapRemove {l : TargetLog} {chain : List TargetLog} {place : Nat}
    (member : l ∈ swapRemove chain place) : l ∈ chain := by
  unfold swapRemove at member
  split at member
  · cases member
  · -- the last log may stand twice before the end is dropped, but none is new
    rename_i last found
    rcases List.mem_or_eq_of_mem_set (List.dropLast_subset _ member) with old | rfl
    · exact old
    · exact List.mem_of_getLast? found

/-! ## Operations -/

theorem holds_empty (P : TargetLog → Prop) (hash : List UInt8 → Nat) (buckets : Nat) :
    Holds P (empty hash buckets) := by
  intro l member
  simp [toList, empty] at member

theorem Holds.setChain (holds : Holds P x) {chain : List TargetLog} (chained : ∀ l ∈ chain, P l)
    (count : Nat) : Holds P (x.setChain name chain count) := by
  intro l member
  rcases mem_toList_setChain member with new | old
  · exact chained l new
  · exact holds l old

theorem Holds.chain (holds : Holds P x) (name : String) : ∀ l ∈ x.chain name, P l :=
  fun l member => holds l (mem_toList_of_mem_chain member)

theorem Holds.update (holds : Holds P x) (changed : ∀ l, x.get? name = some l → P l → P (f l)) :
    Holds P (x.update name f) := by
  refine holds.setChain ?_ _
  intro l member
  rcases mem_updateFirst member with old | ⟨old, found, rfl⟩
  · exact holds.chain name l old
  · exact changed old found (holds.chain name old (List.mem_of_find?_eq_some found))

theorem Holds.ensure (holds : Holds P x) (made : P (TargetLog.empty name)) :
    Holds P (x.ensure name).1 := by
  unfold TargetIndex.ensure
  split
  · exact holds
  · refine holds.setChain ?_ _
    intro l member
    rcases List.mem_append.mp member with old | new
    · exact holds.chain name l old
    · rw [List.mem_singleton.mp new]
      exact made

theorem Holds.remove (holds : Holds P x) (name : String) : Holds P (x.remove name).2 := by
  unfold TargetIndex.remove
  split
  · exact holds
  · exact holds.setChain (fun l member => holds.chain name l (mem_swapRemove member)) _

theorem Holds.map (holds : Holds P x) (changed : ∀ l, P l → P (f l)) : Holds P (x.map f) := by
  intro l member
  simp only [toList, TargetIndex.map, Array.toList_map, ← List.map_flatten] at member
  obtain ⟨old, among, rfl⟩ := List.mem_map.mp member
  exact changed old (holds old among)

theorem get?_update (keeps : ∀ l, x.get? name = some l → isOf name (f l)) :
    (x.update name f).get? name = (x.get? name).map f := by
  rw [get?, TargetIndex.update, chain_setChain]
  exact find?_updateFirst keeps

/-- A log that takes another one's place under its name is found there. -/
theorem get?_replace {old new : TargetLog} (found : x.get? name = some old)
    (named : new.name = old.name) : (x.update name fun _ => new).get? name = some new := by
  have own : isOf name new := by
    rw [isOf, named]
    exact isOf_of_get? found
  have kept := get?_update (f := fun _ => new) fun l (_ : x.get? name = some l) => own
  rw [kept, found]
  rfl

theorem tally_eq_sum (x : TargetIndex) (number : TargetLog → Nat) :
    x.tally number = (x.toList.map number).sum := by
  rw [tally, List.sum, List.foldr_map]

end TargetIndex

end Backlog
