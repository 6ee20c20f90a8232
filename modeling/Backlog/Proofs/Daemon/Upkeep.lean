import Backlog.Proofs.Daemon.Service

/-!
# How a daemon keeps its history within limits

Between its start and its shutdown a daemon sweeps in those ticks that come late enough after
the last sweep, and a sweep leaves in every log the lines within the limits,
`TargetLog.within`.  Nothing else that a tick does touches the history.
-/

namespace Backlog

namespace Service

variable {c : Config} {v : Service} {last : Instant}

/-! ## Ticks of a daemon at work -/

theorem Works.sweeps_iff (works : v.Works c last) (plain : ¬ v.now.IsLeap) (plain' : ¬ last.IsLeap) :
    v.sweeps .tick = true ↔
      last.toNanos + max 100 c.retentionEveryMs.toInt * nanosPerMilli ≤ v.now.toNanos := by
  obtain ⟨sweeps, beats, store, same, rfl, -⟩ := works
  rw [Service.sweeps, same, Daemon.runs_working, Daemon.isDue_sweepTask c sweeps v.now plain plain']

/-- A tick sweeps, or it leaves the history alone. -/
theorem Works.store_tick (works : v.Works c last) :
    (v.serve .tick).daemon.store =
      if v.sweeps .tick then Daemon.swept c v.now v.daemon.store else v.daemon.store := by
  obtain ⟨sweeps, beats, store, same, -, -⟩ := works
  rw [Service.serve, Service.sweeps, same, Daemon.runs_working, Daemon.state_tick_working]
  rfl

theorem Works.sound (works : v.Works c last) : v.daemon.store.Sound := by
  obtain ⟨sweeps, beats, store, same, -, sound⟩ := works
  rw [same]
  exact sound

/-- The one task of that name counts its runs, and leaves the history alone in all of them. -/
theorem Works.heartbeat (works : v.Works c last) :
    ∃ beat, v.daemon.scheduler.tasks.filter (·.name = "heartbeat") = [beat] ∧
      beat.payload = .beats beat.fireCount ∧
      ∀ context world, (Job.behavior beat.callback context beat.payload world).world = world := by
  obtain ⟨sweeps, beats, store, same, -, -⟩ := works
  refine ⟨Daemon.beatTask beats, ?_, rfl, ?_⟩
  · rw [same]
    rfl
  · intro context world
    exact Job.world_heartbeat context _ world

theorem IsStopped.store_tick (stopped : v.IsStopped) :
    (v.serve .tick).daemon.store = v.daemon.store := by
  obtain ⟨store, same⟩ := stopped
  rw [Service.serve, same, Daemon.tick_stopped]

/-- From its start to its shutdown, whatever others do to its history and its clock between
    ticks: a daemon sweeps in a tick exactly if the interval has passed since the tick that
    swept last, or since the start.  A sweep leaves of every log the last lines that are no older
    than the limit, as many as may be kept; other ticks leave the history alone, and so
    do heartbeats, which count themselves.  After a shutdown no tick touches the history. -/
theorem sweeps_keep_limits {hash : List UInt8 → Nat} {first : Instant} {d : Daemon}
    (started : (Daemon.start c hash first).1 = .ok d) (plain : ¬ first.IsLeap)
    {requests : List Request} (goesOn : .shutdown ∉ requests)
    (turns : ∀ now, .history (.turn now) ∈ requests → ¬ now.IsLeap) :
    let begun : Service := ⟨d, first⟩
    let v := begun.after requests
    let last := begun.lastSweep first requests
    let history := v.daemon.store
    let history' := (v.serve .tick).daemon.store
    let most := c.maxLines.toNat
    let age := Age.ofSeconds c.maxAgeSecs.toNat
    (v.sweeps .tick = true ↔
        last.toNanos + max 100 c.retentionEveryMs.toInt * nanosPerMilli ≤ v.now.toNanos) ∧
      (v.sweeps .tick = true →
        history'.index.toList =
            history.index.toList.map (fun l => l.holding (TargetLog.within v.now most age l.lines)) ∧
          (∀ target, history'.get? target =
            (history.get? target).map fun l => l.holding (TargetLog.within v.now most age l.lines)) ∧
          ∀ l ∈ history'.index.toList,
            l.lines.length ≤ most ∧ ∀ line ∈ l.lines, ¬ line.timestamp.IsOlder v.now age.toNanos) ∧
      (v.sweeps .tick = false → history' = history) ∧
      (∃ beat, v.daemon.scheduler.tasks.filter (·.name = "heartbeat") = [beat] ∧
        beat.payload = .beats beat.fireCount ∧
        ∀ context world, (Job.behavior beat.callback context beat.payload world).world = world) ∧
      ∀ later, let ended := (v.serve .shutdown).after later
        (ended.serve .tick).daemon.store = ended.daemon.store := by
  intro begun v last history history' most age
  have works : v.Works c last := (Works.start started).after goesOn
  obtain ⟨plain, plain'⟩ := plain_after (v := begun) plain plain turns
  have left : history' = if v.sweeps .tick then Daemon.swept c v.now history else history :=
    works.store_tick
  refine ⟨works.sweeps_iff plain plain', ?_, ?_, works.heartbeat, ?_⟩
  · intro swept
    rw [if_pos swept, Daemon.swept] at left
    have listed := works.sound.toList_trimAll plain most age
    rw [← left] at listed
    refine ⟨listed, ?_, ?_⟩
    · intro target
      rw [left]
      exact works.sound.get?_trimAll plain most age target
    · intro l member
      rw [listed] at member
      obtain ⟨old, -, rfl⟩ := List.mem_map.mp member
      exact ⟨TargetLog.length_within _ _ _ _, fun line => TargetLog.not_isOlder_of_mem_within⟩
  · intro rests
    rw [left, rests, if_neg Bool.false_ne_true]
  · intro later
    exact (works.shutdown.after later).store_tick

/-- A daemon that keeps two lines for an hour.  A tick with the clock set back does not sweep, and
    one a minute after the start does. -/
theorem sweeps_keep_limits_hour :
    let c : Config := { maxLines := 2, maxAgeSecs := 3600, hashBuckets := 1 }
    let first := Clock.atSecond 100000
    let d := Daemon.working c ⟨first, 0⟩ ⟨first, 0⟩ (.empty (fun _ => 0) c.serverName 1)
    let add (second : Int) (text : String) : List Request :=
      [.history (.turn (Clock.atSecond second)), .history (.addLine "#chat" .empty text)]
    let earlier := add 10 "a" ++ add 99000 "b" ++ add 99500 "c" ++ add 99900 "d"
    let requests := earlier ++ [.tick, .history (.turn (Clock.atSecond 100060))]
    let begun : Service := ⟨d, first⟩
    (Daemon.start c (fun _ => 0) first).1 = .ok d ∧ ¬ first.IsLeap ∧ .shutdown ∉ requests ∧
      (∀ now, .history (.turn now) ∈ requests → ¬ now.IsLeap) ∧
      (begun.after earlier).sweeps .tick = false ∧
      (begun.after requests).sweeps .tick = true ∧
      (((begun.after requests).serve .tick).daemon.store.get? "#chat").map
        (·.lines.map (·.text)) = some ["c", "d"] := by
  intro c first d add earlier requests begun
  have started : (Daemon.start c (fun _ => 0) first).1 = .ok d := by
    rw [Daemon.start_eq]
    rfl
  have plain : ¬ first.IsLeap := by decide
  have goesOn : .shutdown ∉ requests := by simp [requests, earlier, add]
  have turns : ∀ now, .history (.turn now) ∈ requests → ¬ now.IsLeap := by
    simp [requests, earlier, add]
    decide
  obtain ⟨due, sweep, -⟩ := sweeps_keep_limits started plain goesOn turns
  have late : (begun.lastSweep first requests).toNanos +
      max 100 c.retentionEveryMs.toInt * nanosPerMilli ≤ (begun.after requests).now.toNanos := by
    decide +kernel
  have sweeps := due.mpr late
  obtain ⟨-, found, -⟩ := sweep sweeps
  refine ⟨started, plain, goesOn, turns, by decide +kernel, sweeps, ?_⟩
  rw [found]
  decide +kernel

end Service

end Backlog
