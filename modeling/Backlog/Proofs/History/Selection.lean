import Backlog.Proofs.History.Retention

/-!
# What a replay sends

`Filter.chosen` is what a filter is to choose of some lines: of those that pass its test
and are no older than it allows, the last ones.  Age is compared without bounds.  The
clock computes the cutoff within its range and from no more seconds than it can hold;
where it cannot, no line is too old.  A replay sends exactly the chosen lines, as they are
or as parts of a batch.
-/

namespace Backlog

/-- A computed cutoff, or none, is for exactly the instants that are too old. -/
theorem Age.any_lt_iff_isOlder {age : Age} {now : Instant} {cutoff : Option Instant}
    (plain : ¬ now.IsLeap) (computed : age.cutoff? now = cutoff) (t : Instant) :
    cutoff.any (t < ·) = true ↔ t.IsOlder now age.toNanos := by
  cases cutoff with
  | none => simp [Age.not_isOlder_of_cutoff?_eq_none plain computed t]
  | some cutoff => simp [Age.isOlder_iff_lt plain computed t]

theorem Age.toNanos_ofSeconds (seconds : Nat) :
    (Age.ofSeconds seconds).toNanos = seconds * nanosPerSecond :=
  Nat.add_zero _

/-- Filters and limits on age count the time back alike. -/
theorem Instant.secondsBefore?_eq_cutoff? (now : Instant) (seconds : Nat) :
    now.secondsBefore? seconds = (Age.ofSeconds seconds).cutoff? now := by
  have bound : seconds ≤ Clock.longestSeconds ↔
      ((seconds * nanosPerSecond : Nat) : Int) ≤ Clock.longestMillis * nanosPerMilli := by
    simp only [Clock.longestSeconds, Clock.longestMillis, nanosPerSecond, nanosPerMilli]
    omega
  rw [secondsBefore?, Age.cutoff?, Age.toNanos_ofSeconds]
  simp only [bound]

theorem Instant.any_lt_iff_isOlder {now : Instant} (plain : ¬ now.IsLeap) (t : Instant)
    (seconds : Nat) :
    (now.secondsBefore? seconds).any (t < ·) = true ↔ t.IsOlder now (seconds * nanosPerSecond) := by
  rw [secondsBefore?_eq_cutoff?]
  generalize computed : (Age.ofSeconds seconds).cutoff? now = cutoff
  rw [← Age.toNanos_ofSeconds, Age.any_lt_iff_isOlder plain computed]

/-! ## Chosen lines -/

namespace Filter

variable {f : Filter} {now : Instant}

/-- Whether a line is as young as the filter asks and passes its test. -/
def Passes (f : Filter) (now : Instant) (line : Line) : Prop :=
  (∀ seconds ∈ f.lastSeconds, ¬ line.timestamp.IsOlder now (seconds * nanosPerSecond)) ∧
    ∀ test ∈ f.test, test line.timestamp line.text = true

instance (f : Filter) (now : Instant) : DecidablePred (f.Passes now) :=
  fun line => inferInstanceAs (Decidable (_ ∧ ∀ test ∈ f.test, test line.timestamp line.text = true))

/-- The last of the lines that pass. -/
def chosen (f : Filter) (now : Instant) (lines : List Line) : List Line :=
  let passing := lines.filter fun line => f.Passes now line
  match f.lastLines with
  | none => passing
  | some n => lastOf n passing

theorem lastOf_suffix {α : Type} (n : Nat) (xs : List α) : lastOf n xs <:+ xs :=
  List.drop_suffix _ _

theorem select_sublist (f : Filter) (now : Instant) (lines : List Line) :
    (f.select now lines).Sublist lines := by
  unfold select
  split
  · exact List.filter_sublist
  · exact (lastOf_suffix _ _).sublist.trans List.filter_sublist

theorem any_lt_cutoff?_iff (plain : ¬ now.IsLeap) (t : Instant) :
    (f.cutoff? now).any (t < ·) = true ↔
      ∃ seconds ∈ f.lastSeconds, t.IsOlder now (seconds * nanosPerSecond) := by
  unfold cutoff?
  cases f.lastSeconds with
  | none => simp
  | some seconds =>
    have older := Instant.any_lt_iff_isOlder plain t seconds
    constructor
    · exact fun young => ⟨seconds, rfl, older.mp young⟩
    · rintro ⟨_, ⟨⟩, old⟩
      exact older.mpr old

theorem accepts_iff_passes (plain : ¬ now.IsLeap) (line : Line) :
    f.accepts (f.cutoff? now) line = true ↔ f.Passes now line := by
  have young : (!(f.cutoff? now).any (line.timestamp < ·)) = true ↔
      ∀ seconds ∈ f.lastSeconds, ¬ line.timestamp.IsOlder now (seconds * nanosPerSecond) := by
    rw [Bool.not_eq_true', ← Bool.not_eq_true, any_lt_cutoff?_iff plain]
    simp
  have tested : f.test.all (· line.timestamp line.text) = true ↔
      ∀ test ∈ f.test, test line.timestamp line.text = true := by
    cases f.test <;> simp
  rw [accepts, Bool.and_eq_true, young, tested, Passes]

theorem select_eq_chosen (plain : ¬ now.IsLeap) (lines : List Line) :
    f.select now lines = f.chosen now lines := by
  have same : lines.filter (f.accepts (f.cutoff? now)) =
      lines.filter fun line => f.Passes now line := by
    apply List.filter_congr
    intro line _
    rw [Bool.eq_iff_iff, accepts_iff_passes plain, decide_eq_true_iff]
  cases limit : f.lastLines with
  | none => simp only [select, chosen, limit, same]
  | some n => simp only [select, chosen, limit, same]

theorem chosen_suffix (f : Filter) (now : Instant) (lines : List Line) :
    f.chosen now lines <:+ lines.filter fun line => f.Passes now line := by
  unfold chosen
  split
  · exact List.suffix_refl _
  · exact lastOf_suffix _ _

theorem length_chosen (f : Filter) (now : Instant) (lines : List Line) :
    let passing := lines.filter fun line => f.Passes now line
    (f.chosen now lines).length = (f.lastLines.map (min · passing.length)).getD passing.length := by
  unfold chosen
  cases f.lastLines with
  | none => rfl
  | some n => exact TargetLog.length_lastOf n _

end Filter

/-! ## Sent lines -/

namespace TagSet

theorem get?_prepend_self (s : TagSet) (name : String) (value : Option String) :
    (s.prepend ⟨name, value⟩).get? name = value := by
  rw [get?, find?_prepend_self s ⟨name, value⟩]
  rfl

theorem get?_prepend_of_ne (s : TagSet) {tag : Tag} {name : String} (other : name ≠ tag.name) :
    (s.prepend tag).get? name = s.get? name := by
  simp [get?, find?, prepend, Ne.symm other]

end TagSet

/-- What is sent, without its leading tag. -/
def Sent.bare (s : Sent) : Sent :=
  { s with tags := s.tags.map fun tags => ⟨tags.tags.tail⟩ }

namespace Replay

variable (server id target : String) {recipient : Recipient} (lines : List Line)

theorem send_plain (without : recipient.batch = false) :
    send server id target recipient lines = lines.map plain := by
  simp [send, without]

theorem send_batch (batch : recipient.batch = true) :
    send server id target recipient lines =
      opening server id target :: lines.map (framed id) ++ [closing server id] := by
  simp [send, batch]

theorem mem_send {sent : Sent} (member : sent ∈ send server id target recipient lines) :
    (∃ line ∈ lines, sent = plain line ∨ sent = framed id line) ∨
      sent = opening server id target ∨ sent = closing server id := by
  cases batch : recipient.batch with
  | false =>
    rw [send_plain server id target lines batch] at member
    obtain ⟨line, among, rfl⟩ := List.mem_map.mp member
    exact .inl ⟨line, among, .inl rfl⟩
  | true =>
    rw [send_batch server id target lines batch] at member
    rcases List.mem_append.mp member with before | last
    · rcases List.mem_cons.mp before with first | inner
      · exact .inr (.inl first)
      · obtain ⟨line, among, rfl⟩ := List.mem_map.mp inner
        exact .inl ⟨line, among, .inr rfl⟩
    · exact .inr (.inr (List.mem_singleton.mp last))

theorem inner_send_batch (batch : recipient.batch = true) :
    (send server id target recipient lines).tail.dropLast = lines.map (framed id) := by
  rw [send_batch server id target lines batch]
  simp

theorem bare_framed (line : Line) : (framed id line).bare = plain line := rfl

end Replay

namespace Store

variable (s : Store) {now : Instant} {target : String} (id : String) {recipient : Recipient}
  (filter : Filter)

theorem answer_replay_of_found {log : TargetLog} (plain : ¬ now.IsLeap)
    (found : s.get? target = some log) (stamped : recipient.serverTime = true) :
    (s.replay now id recipient target filter).answer =
      ((filter.chosen now log.lines).length,
        Replay.send s.server id target recipient (filter.chosen now log.lines)) := by
  simp only [replay, found, stamped, if_true, Filter.select_eq_chosen plain]

theorem mem_send_of_mem_replay {sent : Sent}
    (member : sent ∈ (s.replay now id recipient target filter).answer.2) :
    ∃ log, s.get? target = some log ∧
      sent ∈ Replay.send s.server id target recipient (filter.select now log.lines) := by
  unfold replay at member
  split at member
  · cases member
  · rename_i log found
    split at member
    · exact ⟨log, found, member⟩
    · cases member

theorem state_replay (s : Store) (now : Instant) (id : String) (recipient : Recipient)
    (target : String) (filter : Filter) :
    (s.replay now id recipient target filter).state = s := by
  unfold replay
  split
  · rfl
  · split <;> rfl

/-- A replay changes nothing.  It sends nothing for a target without a log or to a
    recipient without server time, and otherwise the chosen lines of the log, with a
    batch around them if the recipient understands batches.  Without the lines that open
    and close it and without the leading tags, a batch is what is sent without one. -/
theorem replay_sends_chosen (now : Instant) (plain : ¬ now.IsLeap) (id : String)
    (recipient : Recipient) (target : String) (filter : Filter) :
    let replayed := s.replay now id recipient target filter
    replayed.state = s ∧
      (s.get? target = none ∨ recipient.serverTime = false → replayed.answer = (0, [])) ∧
      ∀ log, s.get? target = some log → recipient.serverTime = true →
        let passing := log.lines.filter fun line => filter.Passes now line
        let lines := filter.chosen now log.lines
        let sent := replayed.answer.2
        (lines <:+ passing ∧
            lines.length = (filter.lastLines.map (min · passing.length)).getD passing.length) ∧
          replayed.answer.1 = lines.length ∧
          (recipient.batch = false → sent = lines.map fun line => ⟨some line.tags, line.text⟩) ∧
          (recipient.batch = true →
            sent = ⟨none, ":" ++ s.server ++ " BATCH +" ++ id ++ " chathistory " ++ target⟩ ::
                lines.map (fun line => ⟨some (line.tags.prepend ⟨"batch", some id⟩), line.text⟩) ++
                [⟨none, ":" ++ s.server ++ " BATCH -" ++ id⟩] ∧
              (∀ id', sent.tail.dropLast.map Sent.bare =
                (s.replay now id' { recipient with batch := false } target filter).answer.2) ∧
              ∀ line ∈ lines,
                (line.tags.prepend ⟨"batch", some id⟩).get? "batch" = some id ∧
                  ∀ name, name ≠ "batch" →
                    (line.tags.prepend ⟨"batch", some id⟩).get? name = line.tags.get? name) := by
  intro replayed
  refine ⟨s.state_replay now id recipient target filter, ?_, ?_⟩
  · rintro (absent | unstamped)
    · simp only [replayed, replay, absent]
    · simp only [replayed, replay, unstamped]
      split <;> rfl
  · intro log found stamped passing lines sent
    have answer : replayed.answer =
        (lines.length, Replay.send s.server id target recipient lines) :=
      s.answer_replay_of_found id filter plain found stamped
    have sends : sent = Replay.send s.server id target recipient lines := by
      simp only [sent, answer]
    refine ⟨⟨filter.chosen_suffix now log.lines, filter.length_chosen now log.lines⟩, ?_, ?_, ?_⟩
    · rw [answer]
    · intro without
      rw [sends, Replay.send_plain _ _ _ _ without]
      rfl
    · intro batch
      refine ⟨?_, ?_, ?_⟩
      · rw [sends, Replay.send_batch _ _ _ _ batch]
        rfl
      · intro id'
        let without : Recipient := { recipient with batch := false }
        have unbatched : (s.replay now id' without target filter).answer =
            (lines.length, Replay.send s.server id' target without lines) :=
          s.answer_replay_of_found id' filter plain found stamped
        rw [sends, Replay.inner_send_batch _ _ _ _ batch, unbatched, Replay.send_plain _ _ _ _ rfl,
          List.map_map]
        apply List.map_congr_left
        intro line _
        exact Replay.bare_framed id line
      · intro line _
        refine ⟨line.tags.get?_prepend_self "batch" (some id), ?_⟩
        intro name other
        exact line.tags.get?_prepend_of_ne other

/-- The later of two lines that came with a batch tag of their own. -/
theorem replay_sends_chosen_minute :
    let later := Clock.atSecond 100
    let tags : TagSet := ⟨[⟨"batch", some "old"⟩]⟩
    let early := (empty (fun _ => 0) "relay.test" 4).addLine Instant.epoch "#lean" tags "early"
    let store := (early.state.addLine later "#lean" tags "late").state
    let replayed := store.replay later "new" ⟨true, true⟩ "#LEAN" { lastSeconds := some 60 }
    ¬ later.IsLeap ∧ store.lineCount "#LEAN" = 2 ∧ replayed.answer.1 = 1 ∧
      replayed.answer.2.map (·.text) =
        [":relay.test BATCH +new chathistory #LEAN", "late", ":relay.test BATCH -new"] := by
  intro later tags early store replayed
  have plain : ¬ later.IsLeap := by decide
  have young : (store.get? "#LEAN").map (fun log =>
      ((({ lastSeconds := some 60 } : Filter).chosen later log.lines).map (·.text))) =
        some ["late"] := by
    decide +kernel
  obtain ⟨log, found, chosen⟩ := Option.map_eq_some_iff.mp young
  obtain ⟨-, -, sends⟩ :=
    store.replay_sends_chosen later plain "new" ⟨true, true⟩ "#LEAN" { lastSeconds := some 60 }
  obtain ⟨-, count, -, batch⟩ := sends log found rfl
  refine ⟨plain, by decide +kernel, ?_, ?_⟩
  · rw [count, ← List.length_map (·.text), chosen]
    rfl
  · rw [(batch rfl).1]
    simp only [List.map_append, List.map_cons, List.map_map, Function.comp_def, chosen]
    decide +kernel

end Store

end Backlog
