import Backlog.Proofs.History.Index
import Backlog.Proofs.Keyed
import Backlog.Proofs.Text.Folding
import Mathlib.Data.List.Perm.Basic

/-!
# Logs in their buckets

A table is proper when every log is in the bucket of its own name, no name has two logs,
and the number of logs is right.  Operations keep tables proper.  What they do to all the
logs is said up to the order of these, since the order depends on the hash, and taking a
log out of a bucket moves another one into its place.
-/

namespace Backlog

open Backlog.Text

namespace TargetIndex

variable {x : TargetIndex} {name : String} {f : TargetLog → TargetLog}

/-! ## Logs of distinct names -/

theorem isOf_iff (l : TargetLog) : isOf name l = true ↔ l.name.toLower = name.toLower :=
  sameName_iff_toLower l.name name

theorem find?_cons (l : TargetLog) (rest : List TargetLog) (key : String) :
    (l :: rest).find? (·.name.toLower = key) =
      if key = l.name.toLower then some l else rest.find? (·.name.toLower = key) := by
  by_cases own : key = l.name.toLower
  · rw [if_pos own, List.find?_cons_of_pos (by simpa using own.symm)]
  · rw [if_neg own, List.find?_cons_of_neg (by simpa using Ne.symm own)]

theorem find?_eq_of_perm {logs others : List TargetLog} (perm : logs.Perm others)
    (distinct : (logs.map (·.name.toLower)).Nodup) (key : String) :
    logs.find? (·.name.toLower = key) = others.find? (·.name.toLower = key) := by
  have distinct' : (others.map (·.name.toLower)).Nodup := (perm.map _).nodup_iff.mp distinct
  ext l
  rw [find?_key_eq_some_iff distinct, find?_key_eq_some_iff distinct', perm.mem_iff]

/-! ## Proper tables -/

/-- Every log is in the bucket of its own name, no name has two logs, and the number
    of logs is right. -/
structure Proper (x : TargetIndex) : Prop where
  placed : ∀ i chain, x.buckets[i]? = some chain → ∀ l ∈ chain, x.slot l.name = i
  distinct : (x.toList.map (·.name.toLower)).Nodup
  counted : x.count = x.toList.length

theorem slot_eq_of_toLower_eq {a b : String} (same : a.toLower = b.toLower) : x.slot a = x.slot b := by
  rw [slot, slot, (foldCase_eq_iff a b).mpr same]

theorem chain_eq_of_toLower_eq {a b : String} (same : a.toLower = b.toLower) :
    x.chain a = x.chain b := by
  simp only [chain, slot_eq_of_toLower_eq same]

theorem Proper.mem_chain (proper : x.Proper) {l : TargetLog} (member : l ∈ x.toList) :
    l ∈ x.chain l.name := by
  obtain ⟨bucket, among, inside⟩ := List.mem_flatten.mp member
  obtain ⟨i, bound, rfl⟩ := Array.getElem_of_mem (Array.mem_toList_iff.mp among)
  have here : x.slot l.name = i :=
    proper.placed i _ (Array.getElem?_eq_getElem bound) l inside
  subst here
  exact inside

theorem Proper.get?_eq_some_iff (proper : x.Proper) {l : TargetLog} :
    x.get? name = some l ↔ l ∈ x.toList ∧ l.name.toLower = name.toLower := by
  constructor
  · intro found
    exact ⟨mem_toList_of_get? found, (isOf_iff l).mp (isOf_of_get? found)⟩
  · rintro ⟨member, own⟩
    have inside := proper.mem_chain member
    rw [chain_eq_of_toLower_eq own] at inside
    cases found : x.get? name with
    | none =>
      have absent := List.find?_eq_none.mp found l inside
      exact absurd ((isOf_iff l).mpr own) absent
    | some other =>
      have same := (isOf_iff other).mp (isOf_of_get? found)
      rw [List.inj_on_of_nodup_map proper.distinct (mem_toList_of_get? found) member
        (same.trans own.symm)]

/-! ## One bucket among the others -/

theorem toList_setChain_perm (x : TargetIndex) (name : String) :
    ∃ others, x.toList.Perm (x.chain name ++ others) ∧
      ∀ chain count, (x.setChain name chain count).toList.Perm (chain ++ others) := by
  have bound : x.slot name < x.buckets.toList.length := by
    simpa using x.slot_lt name
  let before := (x.buckets.toList.take (x.slot name)).flatten
  let after := (x.buckets.toList.drop (x.slot name + 1)).flatten
  refine ⟨before ++ after, ?_, ?_⟩
  · have parts : x.toList = before ++ (x.chain name ++ after) := by
      rw [toList, ← List.take_append_drop (x.slot name) x.buckets.toList,
        List.drop_eq_getElem_cons bound, List.flatten_append, List.flatten_cons]
      rfl
    rw [parts]
    exact List.perm_append_comm_assoc _ _ _
  · intro chain count
    have parts : (x.setChain name chain count).toList = before ++ (chain ++ after) := by
      rw [toList, setChain, Array.toList_set, List.set_eq_take_append_cons_drop, if_pos bound,
        List.flatten_append, List.flatten_cons]
    rw [parts]
    exact List.perm_append_comm_assoc _ _ _

theorem updateFirst_of_find? {chain : List TargetLog} {l : TargetLog}
    (found : chain.find? (isOf name) = some l) :
    ∃ before after, chain = before ++ l :: after ∧
      updateFirst name f chain = before ++ f l :: after := by
  induction chain with
  | nil => cases found
  | cons first rest ih =>
    by_cases own : isOf name first = true
    · rw [List.find?_cons_of_pos own] at found
      cases found
      exact ⟨[], rest, rfl, by simp [updateFirst, own]⟩
    · rw [List.find?_cons_of_neg own] at found
      obtain ⟨before, after, parts, changed⟩ := ih found
      refine ⟨first :: before, after, by simp [parts], ?_⟩
      simp [updateFirst, own, changed]

theorem updateFirst_of_find?_none {chain : List TargetLog} (absent : chain.find? (isOf name) = none) :
    updateFirst name f chain = chain := by
  induction chain with
  | nil => rfl
  | cons first rest ih =>
    have other : ¬ isOf name first = true := List.find?_eq_none.mp absent first List.mem_cons_self
    rw [List.find?_cons_of_neg other] at absent
    simp [updateFirst, other, ih absent]

theorem perm_cons_swapRemove {chain : List TargetLog} {place : Nat} (bound : place < chain.length) :
    chain.Perm (chain[place] :: swapRemove chain place) := by
  obtain ⟨front, last, rfl⟩ : ∃ front last, chain = front ++ [last] := by
    have filled : chain ≠ [] := List.ne_nil_of_length_pos (Nat.zero_lt_of_lt bound)
    exact ⟨_, _, (List.dropLast_append_getLast filled).symm⟩
  simp only [swapRemove, List.getLast?_concat]
  by_cases inside : place < front.length
  · -- the last log takes the place of the one that goes
    rw [List.set_append_left _ _ inside, List.dropLast_concat, List.getElem_append_left inside]
    calc (front ++ [last]).Perm (last :: front) := List.perm_append_singleton _ _
      _ |>.Perm (last :: front[place] :: front.eraseIdx place) :=
        (List.getElem_cons_eraseIdx_perm inside).symm.cons last
      _ |>.Perm (front[place] :: last :: front.eraseIdx place) := List.Perm.swap _ _ _
      _ |>.Perm (front[place] :: front.set place last) :=
        (List.set_perm_cons_eraseIdx inside last).symm.cons _
  · -- the last log itself goes
    have here : place = front.length := by
      rw [List.length_append, List.length_singleton] at bound
      omega
    subst here
    rw [List.set_append_right _ _ (Nat.le_refl _)]
    simp

/-! ## What operations do to all logs -/

theorem setChain_self (x : TargetIndex) (name : String) :
    x.setChain name (x.chain name) x.count = x := by
  simp only [setChain, chain, Array.set_getElem_self]

theorem update_of_get?_none (absent : x.get? name = none) : x.update name f = x := by
  rw [TargetIndex.update, updateFirst_of_find?_none absent, setChain_self]

theorem remove_of_get?_none (absent : x.get? name = none) : x.remove name = (none, x) := by
  have nowhere : (x.chain name).findIdx? (isOf name) = none := by
    rw [List.findIdx?_eq_none_iff]
    intro l member
    simpa using List.find?_eq_none.mp absent l member
  simp only [TargetIndex.remove, nowhere]

theorem ensure_perm (absent : x.get? name = none) :
    (x.ensure name).1.toList.Perm (.empty name :: x.toList) := by
  obtain ⟨others, all, changed⟩ := x.toList_setChain_perm name
  simp only [TargetIndex.ensure, absent]
  refine (changed (x.chain name ++ [.empty name]) (x.count + 1)).trans ?_
  calc (x.chain name ++ [TargetLog.empty name] ++ others).Perm
        (.empty name :: (x.chain name ++ others)) :=
      (List.perm_append_singleton _ _).append_right others
    _ |>.Perm (.empty name :: x.toList) := all.symm.cons _

theorem update_perm {l : TargetLog} (found : x.get? name = some l) :
    ∃ others, x.toList.Perm (l :: others) ∧ (x.update name f).toList.Perm (f l :: others) := by
  obtain ⟨others, all, changed⟩ := x.toList_setChain_perm name
  obtain ⟨before, after, parts, updated⟩ := updateFirst_of_find? (f := f) found
  refine ⟨before ++ after ++ others, ?_, ?_⟩
  · rw [parts] at all
    exact all.trans (List.perm_middle.append_right others)
  · rw [TargetIndex.update, updated]
    exact (changed _ _).trans (List.perm_middle.append_right others)

theorem remove_perm {l : TargetLog} (found : x.get? name = some l) :
    (x.remove name).1 = some l ∧ (x.remove name).2.count = x.count - 1 ∧
      x.toList.Perm (l :: (x.remove name).2.toList) := by
  obtain ⟨others, all, changed⟩ := x.toList_setChain_perm name
  obtain ⟨own, place, bound, here, before⟩ := List.find?_eq_some_iff_getElem.mp found
  have position : (x.chain name).findIdx? (isOf name) = some place := by
    rw [List.findIdx?_eq_some_iff_getElem]
    exact ⟨bound, here ▸ own, fun j less => by simpa using before j less⟩
  simp only [TargetIndex.remove, position]
  refine ⟨found, rfl, ?_⟩
  calc x.toList.Perm (x.chain name ++ others) := all
    _ |>.Perm (l :: swapRemove (x.chain name) place ++ others) :=
      (here ▸ perm_cons_swapRemove bound).append_right others
    _ |>.Perm (l :: TargetIndex.toList _) := (changed _ _).symm.cons l

theorem toList_map (x : TargetIndex) : (x.map f).toList = x.toList.map f := by
  simp [toList, TargetIndex.map, List.map_flatten]

/-! ## Operations keep tables proper -/

theorem Proper.empty (hash : List UInt8 → Nat) (buckets : Nat) : (empty hash buckets).Proper where
  placed i chain here l member := by
    have none : chain = [] := by
      have among := Array.mem_of_getElem? here
      simp only [TargetIndex.empty, Array.mem_replicate] at among
      exact among.2
    simp [none] at member
  distinct := by simp [TargetIndex.empty, toList]
  counted := by simp [TargetIndex.empty, toList]

theorem Proper.placed_setChain (proper : x.Proper) {chain : List TargetLog} {count : Nat}
    (named : ∀ l ∈ chain, x.slot l.name = x.slot name) (i : Nat) (bucket : List TargetLog)
    (here : (x.setChain name chain count).buckets[i]? = some bucket) :
    ∀ l ∈ bucket, (x.setChain name chain count).slot l.name = i := by
  intro l member
  have slots : (x.setChain name chain count).slot l.name = x.slot l.name := by
    simp [setChain, slot]
  rw [slots]
  simp only [setChain, Array.getElem?_set] at here
  split at here
  · rename_i own
    cases here
    rw [← own]
    exact named l member
  · exact proper.placed i bucket here l member

theorem Proper.slot_of_mem_chain (proper : x.Proper) {l : TargetLog} (member : l ∈ x.chain name) :
    x.slot l.name = x.slot name :=
  proper.placed _ _ (Array.getElem?_eq_getElem (x.slot_lt name)) l member

theorem Proper.absent (proper : x.Proper) (absent : x.get? name = none) :
    name.toLower ∉ x.toList.map (·.name.toLower) := by
  intro member
  obtain ⟨l, among, own⟩ := List.mem_map.mp member
  rw [proper.get?_eq_some_iff.mpr ⟨among, own⟩] at absent
  cases absent

theorem Proper.ensure (proper : x.Proper) (name : String) : (x.ensure name).1.Proper := by
  cases found : x.get? name with
  | some l =>
    simp only [TargetIndex.ensure, found]
    exact proper
  | none =>
    have perm := ensure_perm found
    simp only [TargetIndex.ensure, found] at perm ⊢
    refine ⟨proper.placed_setChain ?_, ?_, ?_⟩
    · intro l member
      rcases List.mem_append.mp member with old | new
      · exact proper.slot_of_mem_chain old
      · rw [List.mem_singleton.mp new]
        rfl
    · rw [(perm.map _).nodup_iff, List.map_cons, List.nodup_cons]
      exact ⟨proper.absent found, proper.distinct⟩
    · rw [perm.length_eq, List.length_cons, ← proper.counted]
      rfl

theorem Proper.update (proper : x.Proper)
    (named : ∀ l, x.get? name = some l → (f l).name = l.name) : (x.update name f).Proper := by
  cases found : x.get? name with
  | none =>
    rw [update_of_get?_none found]
    exact proper
  | some l =>
    obtain ⟨others, all, changed⟩ := update_perm (f := f) found
    refine ⟨proper.placed_setChain ?_, ?_, ?_⟩
    · intro other member
      rcases mem_updateFirst member with old | ⟨old, place, rfl⟩
      · exact proper.slot_of_mem_chain old
      · rw [named old place]
        exact proper.slot_of_mem_chain (List.mem_of_find?_eq_some place)
    · rw [(changed.map _).nodup_iff, List.map_cons, named l found]
      exact (all.map _).nodup_iff.mp proper.distinct
    · rw [changed.length_eq, List.length_cons, ← List.length_cons, ← all.length_eq, ← proper.counted]
      rfl

theorem Proper.remove (proper : x.Proper) (name : String) : (x.remove name).2.Proper := by
  cases found : x.get? name with
  | none =>
    rw [remove_of_get?_none found]
    exact proper
  | some l =>
    obtain ⟨-, count, perm⟩ := remove_perm found
    refine ⟨?_, ?_, ?_⟩
    · unfold TargetIndex.remove
      split
      · exact proper.placed
      · exact proper.placed_setChain fun other member =>
          proper.slot_of_mem_chain (mem_swapRemove member)
    · have distinct := (perm.map (·.name.toLower)).nodup_iff.mp proper.distinct
      exact (List.nodup_cons.mp distinct).2
    · rw [count, proper.counted, perm.length_eq, List.length_cons, Nat.add_sub_cancel]

theorem Proper.map (proper : x.Proper) (named : ∀ l, (f l).name = l.name) : (x.map f).Proper where
  placed i bucket here l member := by
    simp only [TargetIndex.map, Array.getElem?_map, Option.map_eq_some_iff] at here
    obtain ⟨old, place, rfl⟩ := here
    obtain ⟨l, inside, rfl⟩ := List.mem_map.mp member
    have slots : (x.map f).slot l.name = x.slot l.name := by simp [TargetIndex.map, slot]
    rw [named, slots]
    exact proper.placed i old place l inside
  distinct := by
    simpa [toList_map, Function.comp_def, named] using proper.distinct
  counted := by
    rw [toList_map, List.length_map]
    exact proper.counted

end TargetIndex

end Backlog
