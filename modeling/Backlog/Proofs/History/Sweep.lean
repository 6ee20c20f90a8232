import Backlog.Proofs.History.Effects
import Backlog.Proofs.History.Retention

/-!
# Sweeps

A sweep applies limits to all logs at once.  In a proper table the log of a name is changed
where all logs are and those of other names are left alone, `TargetIndex.Proper.update_eq_map`;
so to trim one target after the other, in any order, comes to a sweep.  What limits leave
fits them, `TargetLog.Fits`, and all looser ones, and what fits is left as it is.
-/

namespace Backlog

/-! ## Lines that fit -/

namespace TargetLog

/-- Lines that the limits leave alone. -/
structure Fits (cutoff : Option Instant) (most : Nat) (lines : List Line) : Prop where
  few : lines.length ≤ most
  young : ∀ c, cutoff = some c → ∀ line ∈ lines, c ≤ line.timestamp

variable {cutoff cutoff' : Option Instant} {most most' : Nat} {lines : List Line}

theorem mem_youngIn {c : Instant} {line : Line} :
    line ∈ youngIn c lines ↔ line ∈ lines ∧ c ≤ line.timestamp := by
  simp [youngIn]

theorem fits_keptOf (cutoff : Option Instant) (most : Nat) (lines : List Line) :
    Fits cutoff most (keptOf cutoff most lines) where
  few := by
    rw [keptOf, length_lastOf]
    exact Nat.min_le_left _ _
  young := by
    rintro c rfl line member
    rw [keptOf, Option.map_some, Option.getD_some] at member
    exact (mem_youngIn.mp (List.mem_of_mem_drop member)).2

theorem Fits.looser (fits : Fits cutoff most lines) (fewer : most ≤ most')
    (earlier : ∀ far, cutoff' = some far → ∃ near, cutoff = some near ∧ far ≤ near) :
    Fits cutoff' most' lines where
  few := Nat.le_trans fits.few fewer
  young := by
    intro far shown line member
    obtain ⟨near, limit, before⟩ := earlier far shown
    exact le_trans before (fits.young near limit line member)

theorem Fits.keptOf_eq (fits : Fits cutoff most lines) : keptOf cutoff most lines = lines := by
  have young : (cutoff.map (youngIn · lines)).getD lines = lines := by
    cases cutoff with
    | none => rfl
    | some c =>
      rw [Option.map_some, Option.getD_some, youngIn, List.filter_eq_self]
      intro line member
      simpa using fits.young c rfl line member
  rw [keptOf, young, Filter.lastOf, Nat.sub_eq_zero_of_le fits.few, List.drop_zero]

theorem Scanned.trim_of_fits {l : TargetLog} (scanned : l.Scanned) (fits : Fits cutoff most l.lines) :
    l.trim cutoff most = (l, 0) := by
  rw [scanned.trim, fits.keptOf_eq, scanned.holding_lines, Nat.sub_self]

theorem length_keptOf_le (cutoff : Option Instant) (most : Nat) (lines : List Line) :
    (keptOf cutoff most lines).length ≤ lines.length := by
  have young : ((cutoff.map (youngIn · lines)).getD lines).length ≤ lines.length := by
    cases cutoff with
    | none => exact Nat.le_refl _
    | some c => exact List.length_filter_le _ _
  rw [keptOf, length_lastOf]
  exact Nat.le_trans (Nat.min_le_right _ _) young

/-- No line is lost: it is in the log still, or it is counted as evicted. -/
theorem Scanned.size_trim {l : TargetLog} (scanned : l.Scanned) (cutoff : Option Instant)
    (most : Nat) : (l.trim cutoff most).1.size + (l.trim cutoff most).2 = l.size := by
  have fewer := length_keptOf_le cutoff most l.lines
  rw [scanned.trim]
  simp only [size, holding, scanned.count]
  omega

end TargetLog

/-- The greater of two ages has the earlier cutoff. -/
theorem Age.cutoff?_of_le {age age' : Age} {now far : Instant} (le : age.toNanos ≤ age'.toNanos)
    (shown : age'.cutoff? now = some far) : ∃ near, age.cutoff? now = some near ∧ far ≤ near := by
  unfold cutoff? at shown ⊢
  split at shown
  · rename_i long
    rw [if_pos (by omega)]
    exact Instant.add?_neg_of_le le shown
  · cases shown

/-! ## One log among all -/

namespace TargetIndex

variable {x y : TargetIndex} {f g : TargetLog → TargetLog} {name : String}

theorem eq_of_buckets (hash : x.hash = y.hash) (buckets : x.buckets = y.buckets)
    (count : x.count = y.count) : x = y := by
  cases x
  cases y
  simp_all

theorem map_congr (same : ∀ l ∈ x.toList, f l = g l) : x.map f = x.map g := by
  refine eq_of_buckets rfl ?_ rfl
  apply Array.map_congr_left
  intro chain among
  apply List.map_congr_left
  intro l inside
  exact same l (List.mem_flatten.mpr ⟨chain, Array.mem_toList_iff.mpr among, inside⟩)

theorem map_eq_self (same : ∀ l ∈ x.toList, f l = l) : x.map f = x := by
  have identity : x.map f = x.map id := map_congr same
  rw [identity]
  refine eq_of_buckets rfl ?_ rfl
  simp [TargetIndex.map]

theorem map_map (x : TargetIndex) (f g : TargetLog → TargetLog) :
    (x.map f).map g = x.map fun l => g (f l) := by
  refine eq_of_buckets rfl ?_ rfl
  simp [TargetIndex.map, Function.comp_def]

/-- Changes the log of a name. -/
def onNamed (name : String) (f : TargetLog → TargetLog) (l : TargetLog) : TargetLog :=
  if l.name.toLower = name.toLower then f l else l

theorem updateFirst_eq_map {chain : List TargetLog} (distinct : (chain.map (·.name.toLower)).Nodup) :
    updateFirst name f chain = chain.map (onNamed name f) := by
  induction chain with
  | nil => rfl
  | cons first rest ih =>
    obtain ⟨alone, distinct⟩ := List.nodup_cons.mp distinct
    rw [updateFirst, List.map_cons, onNamed]
    by_cases own : first.name.toLower = name.toLower
    · -- no log of the rest has the name, too
      have others : rest.map (onNamed name f) = rest := by
        rw [List.map_congr_left, List.map_id]
        intro l member
        have differs : l.name.toLower ≠ name.toLower := fun same =>
          alone (List.mem_map.mpr ⟨l, member, same.trans own.symm⟩)
        rw [onNamed, if_neg differs, id]
      rw [if_pos ((isOf_iff first).mpr own), if_pos own, others]
    · rw [if_neg (mt (isOf_iff first).mp own), if_neg own, ih distinct]

theorem Proper.update_eq_map (proper : x.Proper) (name : String) (f : TargetLog → TargetLog) :
    x.update name f = x.map (onNamed name f) := by
  refine eq_of_buckets rfl ?_ rfl
  apply Array.ext
  · simp [TargetIndex.update, setChain, TargetIndex.map]
  · intro i bound bound'
    have inside : i < x.buckets.size := by simpa [TargetIndex.map] using bound'
    simp only [TargetIndex.update, setChain, TargetIndex.map, Array.getElem_set, Array.getElem_map]
    by_cases own : x.slot name = i
    · subst own
      rw [if_pos rfl]
      have among : (x.chain name).Sublist x.toList :=
        List.sublist_flatten_of_mem (Array.mem_toList_iff.mpr (Array.getElem_mem _))
      exact updateFirst_eq_map (List.Nodup.sublist (among.map _) proper.distinct)
    · rw [if_neg own]
      symm
      rw [List.map_congr_left, List.map_id]
      intro l member
      have place : x.slot l.name = i := proper.placed i _ (Array.getElem?_eq_getElem inside) l member
      have differs : l.name.toLower ≠ name.toLower := fun same =>
        own ((slot_eq_of_toLower_eq same).symm.trans place)
      rw [onNamed, if_neg differs, id]

theorem Proper.eq_of_get? (proper : x.Proper) {l log : TargetLog} (found : x.get? name = some log)
    (member : l ∈ x.toList) (own : l.name.toLower = name.toLower) : l = log := by
  have here := proper.get?_eq_some_iff.mpr ⟨member, own⟩
  exact Option.some.inj (here.symm.trans found)

/-- Limits to the log of one name are limits to all logs of that name.  The cutoff is any
    here: what the clock computes is not to be unfolded. -/
theorem Proper.trim_eq_map (proper : x.Proper) {target : String} {log : TargetLog}
    (found : x.get? target = some log) (cutoff : Option Instant) (most : Nat) :
    (x.update target fun _ => (log.trim cutoff most).1) =
      x.map (onNamed target fun l => (l.trim cutoff most).1) := by
  rw [proper.update_eq_map]
  apply map_congr
  intro l member
  by_cases own : l.name.toLower = target.toLower
  · rw [onNamed, onNamed, if_pos own, if_pos own, proper.eq_of_get? found member own]
  · rw [onNamed, onNamed, if_neg own, if_neg own]

theorem Proper.update_self (proper : x.Proper) {log : TargetLog} (found : x.get? name = some log) :
    (x.update name fun _ => log) = x := by
  rw [proper.update_eq_map]
  apply map_eq_self
  intro l member
  by_cases own : l.name.toLower = name.toLower
  · rw [onNamed, if_pos own, proper.eq_of_get? found member own]
  · rw [onNamed, if_neg own]

theorem Proper.map_onNamed_of_absent (proper : x.Proper) (absent : x.get? name = none)
    (f : TargetLog → TargetLog) : x.map (onNamed name f) = x := by
  apply map_eq_self
  intro l member
  have differs : l.name.toLower ≠ name.toLower := fun same =>
    proper.absent absent (List.mem_map.mpr ⟨l, member, same⟩)
  rw [onNamed, if_neg differs]

theorem names_trim (x : TargetIndex) (cutoff : Option Instant) (most : Nat) :
    (x.map fun l => (l.trim cutoff most).1).toList.map (·.name) = x.toList.map (·.name) := by
  simp only [toList_map, List.map_map, Function.comp_def, TargetLog.name_trim]

theorem tally_map (x : TargetIndex) (f : TargetLog → TargetLog) (number : TargetLog → Nat) :
    (x.map f).tally number = x.tally fun l => number (f l) := by
  rw [tally_eq_sum, tally_eq_sum, toList_map, List.map_map]
  rfl

theorem tally_add {number other total : TargetLog → Nat}
    (adds : ∀ l ∈ x.toList, number l + other l = total l) :
    x.tally number + x.tally other = x.tally total := by
  rw [tally_eq_sum, tally_eq_sum, tally_eq_sum, ← List.sum_map_add]
  exact congrArg List.sum (List.map_congr_left adds)

end TargetIndex

/-! ## Sweeps of a store -/

namespace Store

variable {s : Store}

/-- Trims one target after the other. -/
def trimEach (s : Store) (now : Instant) (most : Nat) (age : Age) (targets : List String) : Store :=
  targets.foldl (fun s target => (s.trim now target most age).state) s

theorem state_trim (proper : s.index.Proper) (now : Instant) (target : String) (most : Nat)
    (age : Age) :
    (s.trim now target most age).state =
      { s with
        index := s.index.map
          (TargetIndex.onNamed target fun l => (l.trim (age.cutoff? now) most).1) } := by
  cases found : s.get? target with
  | none => simp only [trim, found, proper.map_onNamed_of_absent found]
  | some log => simp only [trim, found, proper.trim_eq_map found]

theorem trimEach_eq (proper : s.index.Proper) (now : Instant) (most : Nat) (age : Age)
    {targets : List String} (distinct : (targets.map String.toLower).Nodup) :
    s.trimEach now most age targets =
      { s with
        index := s.index.map fun l =>
          if l.name.toLower ∈ targets.map String.toLower then (l.trim (age.cutoff? now) most).1
          else l } := by
  induction targets generalizing s with
  | nil => simp [trimEach, TargetIndex.map_eq_self]
  | cons target rest ih =>
    obtain ⟨alone, distinct⟩ := List.nodup_cons.mp distinct
    change (s.trim now target most age).state.trimEach now most age rest = _
    rw [ih (trim_effect proper now target most age).1 distinct, state_trim proper]
    generalize age.cutoff? now = cutoff
    simp only [TargetIndex.map_map]
    congr 1
    apply TargetIndex.map_congr
    intro l _
    by_cases own : l.name.toLower = target.toLower
    · -- it is trimmed here, and not again
      simp only [TargetIndex.onNamed, if_pos own, TargetLog.name_trim]
      rw [own, if_neg alone, List.map_cons, if_pos List.mem_cons_self]
    · simp only [TargetIndex.onNamed, List.map_cons, List.mem_cons, own, false_or, if_false]

/-- A sweep trims every target once, and the order does not matter. -/
theorem trimEach_eq_trimAll (proper : s.index.Proper) (now : Instant) (most : Nat) (age : Age)
    {targets : List String} (all : (targets.map String.toLower).Perm (s.targets.map String.toLower)) :
    s.trimEach now most age targets = (s.trimAll now most age).state := by
  have names : s.targets.map String.toLower = s.index.toList.map (·.name.toLower) := by
    simp [Store.targets, Function.comp_def]
  have distinct : (targets.map String.toLower).Nodup := by
    rw [all.nodup_iff, names]
    exact proper.distinct
  rw [trimEach_eq proper now most age distinct]
  have swept : (s.trimAll now most age).state =
      { s with index := s.index.map fun l => (l.trim (age.cutoff? now) most).1 } := rfl
  rw [swept]
  generalize age.cutoff? now = cutoff
  congr 1
  apply TargetIndex.map_congr
  intro l member
  have named : l.name.toLower ∈ targets.map String.toLower := by
    rw [all.mem_iff, names]
    exact List.mem_map_of_mem member
  rw [if_pos named]

theorem answer_trimAll (s : Store) (now : Instant) (most : Nat) (age : Age) :
    (s.trimAll now most age).answer =
      s.index.tally fun l => (l.trim (age.cutoff? now) most).2 := rfl

/-- A sweep counts the lines that it takes. -/
theorem answer_add_totalLines (scanned : s.index.Holds TargetLog.Scanned) (now : Instant)
    (most : Nat) (age : Age) :
    (s.trimAll now most age).answer + (s.trimAll now most age).state.totalLines = s.totalLines := by
  rw [totalLines, totalLines, answer_trimAll, index_trimAll]
  generalize age.cutoff? now = cutoff
  rw [TargetIndex.tally_map, Nat.add_comm]
  apply TargetIndex.tally_add
  intro l member
  exact (scanned l member).size_trim cutoff most

/-- A sweep leaves nothing to do for limits that every log fits. -/
theorem trimAll_of_fits (scanned : s.index.Holds TargetLog.Scanned) {now : Instant} {most : Nat}
    {age : Age} (fits : s.index.Holds fun l => TargetLog.Fits (age.cutoff? now) most l.lines) :
    s.trimAll now most age = ⟨s, 0, []⟩ := by
  unfold trimAll
  generalize age.cutoff? now = cutoff at fits ⊢
  have rests : ∀ l ∈ s.index.toList, l.trim cutoff most = (l, 0) :=
    fun l member => (scanned l member).trim_of_fits (fits l member)
  have same : (s.index.map fun l => (l.trim cutoff most).1) = s.index :=
    TargetIndex.map_eq_self fun l member => by rw [rests l member]
  have none : (s.index.tally fun l => (l.trim cutoff most).2) = 0 := by
    rw [TargetIndex.tally_eq_sum]
    apply List.sum_eq_zero
    intro n member
    obtain ⟨l, among, rfl⟩ := List.mem_map.mp member
    rw [rests l among]
  simp only [same, none, Nat.lt_irrefl, if_false]

/-- Nor does it leave anything to do for one target. -/
theorem trim_of_fits (proper : s.index.Proper) (scanned : s.index.Holds TargetLog.Scanned)
    {now : Instant} {most : Nat} {age : Age} {target : String} {log : TargetLog}
    (found : s.get? target = some log) (fits : TargetLog.Fits (age.cutoff? now) most log.lines) :
    s.trim now target most age = ⟨s, true, []⟩ := by
  simp only [trim, found]
  generalize age.cutoff? now = cutoff at fits ⊢
  have rests : log.trim cutoff most = (log, 0) :=
    (scanned log (TargetIndex.mem_toList_of_get? found)).trim_of_fits fits
  simp only [rests, proper.update_self found, Nat.lt_irrefl, if_false]

theorem scanned_trimAll (scanned : s.index.Holds TargetLog.Scanned) (now : Instant) (most : Nat)
    (age : Age) : (s.trimAll now most age).state.index.Holds TargetLog.Scanned := by
  rw [index_trimAll]
  generalize age.cutoff? now = cutoff
  exact scanned.map fun l scanned => scanned.scanned_trim cutoff most

theorem targets_trimAll (s : Store) (now : Instant) (most : Nat) (age : Age) :
    (s.trimAll now most age).state.targets = s.targets := by
  unfold targets
  rw [index_trimAll, TargetIndex.names_trim]

/-- What limits leave fits them, and all that are at least as large. -/
theorem fits_trimAll (scanned : s.index.Holds TargetLog.Scanned) (now : Instant) {most most' : Nat}
    {age age' : Age} (fewer : most ≤ most') (younger : age.toNanos ≤ age'.toNanos) :
    (s.trimAll now most age).state.index.Holds fun l =>
      TargetLog.Fits (age'.cutoff? now) most' l.lines := by
  rw [index_trimAll]
  have earlier : ∀ far, age'.cutoff? now = some far → ∃ near, age.cutoff? now = some near ∧ far ≤ near :=
    fun _ => Age.cutoff?_of_le younger
  generalize age.cutoff? now = cutoff at earlier ⊢
  intro l member
  rw [TargetIndex.toList_map] at member
  obtain ⟨old, among, rfl⟩ := List.mem_map.mp member
  have kept : (old.trim cutoff most).1.lines = TargetLog.keptOf cutoff most old.lines := by
    rw [(scanned old among).trim]
    rfl
  rw [kept]
  exact (TargetLog.fits_keptOf cutoff most old.lines).looser fewer earlier

end Store

namespace Archive

/-- In every archive that requests can reach, a sweep leaves the store as trimming each target
    once does, in whatever order and case of letters; its answer is by how much the lines
    are fewer, and the targets stay, also those that have no line left.  After it, at the
    same time, limits at least as large find nothing to do, in a sweep or for one target. -/
theorem sweep_trims_each_target (hash : List UInt8 → Nat) (server : String) (buckets : Nat)
    (first : Instant) (requests : List Request) :
    let s := ((start hash server buckets first).after requests).store
    ∀ now most age,
      let swept := s.trimAll now most age
      (∀ order : List String, (order.map String.toLower).Perm (s.targets.map String.toLower) →
        s.trimEach now most age order = swept.state) ∧
      swept.answer + swept.state.totalLines = s.totalLines ∧
      swept.state.targets = s.targets ∧ swept.state.targetCount = s.targetCount ∧
      ∀ most' age', most ≤ most' → age.toNanos ≤ age'.toNanos →
        swept.state.trimAll now most' age' = ⟨swept.state, 0, []⟩ ∧
        ∀ target, (swept.state.get? target).isSome →
          swept.state.trim now target most' age' = ⟨swept.state, true, []⟩ := by
  intro s now most age swept
  have proper : s.index.Proper := proper_after (proper_start hash server buckets first) requests
  have scanned : s.index.Holds TargetLog.Scanned := scanned_after hash server buckets first requests
  have proper' : swept.state.index.Proper := (Store.trimAll_effect proper now most age).1
  have scanned' : swept.state.index.Holds TargetLog.Scanned :=
    Store.scanned_trimAll scanned now most age
  refine ⟨?_, ?_, ?_, ?_, ?_⟩
  · intro order all
    exact Store.trimEach_eq_trimAll proper now most age all
  · exact Store.answer_add_totalLines scanned now most age
  · exact Store.targets_trimAll s now most age
  · rfl
  · intro most' age' fewer younger
    have fits := Store.fits_trimAll scanned now fewer younger
    refine ⟨Store.trimAll_of_fits scanned' fits, ?_⟩
    intro target present
    obtain ⟨log, found⟩ := Option.isSome_iff_exists.mp present
    exact Store.trim_of_fits proper' scanned' found (fits log (TargetIndex.mem_toList_of_get? found))

/-- Two targets in one chain.  The one loses an old line and has none left, the other stays as it
    is, whichever is trimmed first. -/
theorem sweep_trims_each_target_swapped :
    let later := Clock.atSecond 100
    let s := ((start (fun _ => 0) "relay.test" 1 Instant.epoch).after
      [.addLine "#a" .empty "early", .turn later, .addLine "#b" .empty "late"]).store
    let swept := s.trimAll later 1 (.ofSeconds 60)
    ((["#b", "#a"].map String.toLower).Perm (s.targets.map String.toLower) ∧
      s.trimEach later 1 (.ofSeconds 60) ["#b", "#a"] = swept.state) ∧
      swept.answer = 1 ∧ swept.state.targets = ["#a", "#b"] ∧ swept.state.lineCount "#a" = 0 ∧
      (Age.ofSeconds 60).toNanos ≤ Age.longest.toNanos ∧
      swept.state.trimAll later 2 .longest = ⟨swept.state, 0, []⟩ ∧
      (swept.state.get? "#a").isSome ∧
      swept.state.trim later "#a" 2 .longest = ⟨swept.state, true, []⟩ := by
  intro later s swept
  obtain ⟨each, -, same, -, looser⟩ := sweep_trims_each_target (fun _ => 0) "relay.test" 1
    Instant.epoch [.addLine "#a" .empty "early", .turn later, .addLine "#b" .empty "late"]
    later 1 (.ofSeconds 60)
  have targets : s.targets = ["#a", "#b"] := by decide +kernel
  have order : (["#b", "#a"].map String.toLower).Perm (s.targets.map String.toLower) := by
    rw [targets]
    exact (List.Perm.swap "#a" "#b" []).map String.toLower
  have younger : (Age.ofSeconds 60).toNanos ≤ Age.longest.toNanos := by decide
  have present : (swept.state.get? "#a").isSome := by decide +kernel
  obtain ⟨again, one⟩ := looser 2 .longest (by decide) younger
  refine ⟨⟨order, each _ order⟩, ?_, ?_, ?_, younger, again, present, one "#a" present⟩
  · decide +kernel
  · rw [same, targets]
  · decide +kernel

end Archive

end Backlog
