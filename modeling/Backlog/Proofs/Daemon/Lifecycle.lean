import Backlog.Proofs.Daemon.Service

/-!
# From the start of a daemon to its end

With valid settings nothing but the name of the history backend decides whether a daemon starts.
Until its shutdown it has its two tasks, whatever happens to its history and its clock, and from
then on it has none.
-/

namespace Backlog

namespace Config

theorem fault?_eq_none_of_validate {c : Config} (valid : c.validate = .ok c) : c.fault? = none := by
  unfold validate at valid
  cases found : c.fault? with
  | none => rfl
  | some fault =>
    rw [found] at valid
    cases valid

theorem retention_nonneg_of_fault? {c : Config} (sound : c.fault? = none) :
    ¬ c.retentionEveryMs.toInt < 0 := by
  intro negative
  unfold fault? at sound
  split at sound
  · cases sound
  · split at sound
    · cases sound
    · cases sound

end Config

namespace Daemon

/-- What a task of the daemon is for, and when it runs. -/
structure Duty where
  name : String
  job : Job
  owner : Option OwnerId
  remaining : Remaining
  everyMs : Int
deriving DecidableEq

/-- The duty of a task. -/
def Duty.of (t : Task Job JobPayload) : Duty :=
  ⟨t.name, t.callback, t.owner, t.remaining, t.intervalMs.toNat⟩

/-- The tasks of a daemon by its settings. -/
def duties (c : Config) (owner : OwnerId) : List Duty :=
  [⟨"history_retention", .retention c.maxLines.toNat (.ofSeconds c.maxAgeSecs.toNat), some owner,
      .forever, max 100 c.retentionEveryMs.toInt⟩,
    ⟨"heartbeat", .heartbeat, some owner, .forever, 1000⟩]

theorem duties_rota (c : Config) (sweeps beats : Turns) :
    (rota c sweeps beats).tasks.map Duty.of = duties c self := by
  have sweep : ((sweepTask c sweeps).intervalMs.toNat : Int) = max 100 c.retentionEveryMs.toInt :=
    Scheduler.toNat_raised c.retentionEveryMs
  have beat : ((beatTask beats).intervalMs.toNat : Int) = 1000 := Scheduler.toNat_raised heartbeatMs
  simp only [rota, List.map_cons, List.map_nil, Duty.of, sweep, beat]
  rfl

/-- Settings that can be run with are refused only for their backend. -/
theorem start_of_sound {c : Config} (sound : c.fault? = none) (hash : List UInt8 → Nat)
    (now : Instant) :
    (start c hash now).1 =
      if c.backend = Store.backendName then
        .ok (working c ⟨now, 0⟩ ⟨now, 0⟩ (.empty hash c.serverName c.hashBuckets.toNat))
      else .error (.notFound (.backend c.backend)) := by
  rw [start_eq, if_neg (Config.retention_nonneg_of_fault? sound)]

end Daemon

namespace Service

open Daemon

variable {c : Config} {v : Service} {last : Instant}

theorem Works.duties (works : v.Works c last) :
    v.daemon.owner = self ∧ v.daemon.scheduler.tasks.map Duty.of = Daemon.duties c self := by
  obtain ⟨sweeps, beats, store, same, -, -⟩ := works
  rw [same]
  exact ⟨rfl, duties_rota c sweeps beats⟩

theorem Works.ends (works : v.Works c last) :
    v.daemon.shutdown.answer = 2 ∧ (v.serve .shutdown).daemon.store = v.daemon.store := by
  obtain ⟨sweeps, beats, store, same, -, -⟩ := works
  rw [Service.serve, same, (shutdown_working c sweeps beats store).1]
  exact ⟨(shutdown_working c sweeps beats store).2, rfl⟩

theorem IsStopped.idle (stopped : v.IsStopped) :
    v.daemon.scheduler.tasks = [] ∧ (v.daemon.tick v.now).answer = ⟨0, 0⟩ ∧
      v.daemon.shutdown.answer = 0 ∧ (v.serve .shutdown).daemon.store = v.daemon.store := by
  obtain ⟨store, same⟩ := stopped
  rw [Service.serve, same, tick_stopped]
  exact ⟨rfl, rfl, (shutdown_stopped store).2, congrArg (·.store) (shutdown_stopped store).1⟩

/-- With valid settings a daemon starts exactly if its history is kept in memory, and otherwise
    there is no such backend.  Until its first shutdown its tasks are the sweep and the
    heartbeat, and the shutdown takes out these two.  From then on there is no task, no tick
    does anything, and no other shutdown does.  Shutdowns leave the history as it is. -/
theorem works_until_shutdown (hash : List UInt8 → Nat) (first : Instant)
    (valid : c.validate = .ok c) :
    ((∃ d, (start c hash first).1 = .ok d) ↔ c.backend = "mem") ∧
      (c.backend ≠ "mem" → (start c hash first).1 = .error (.notFound (.backend c.backend))) ∧
      ∀ d, (start c hash first).1 = .ok d → ∀ requests, .shutdown ∉ requests →
        let v := (⟨d, first⟩ : Service).after requests
        let ended := v.serve .shutdown
        v.daemon.scheduler.tasks.map Duty.of = Daemon.duties c d.owner ∧
          v.daemon.shutdown.answer = 2 ∧ ended.daemon.store = v.daemon.store ∧
          ∀ later, let w := ended.after later
            w.daemon.scheduler.tasks = [] ∧ (w.daemon.tick w.now).answer = ⟨0, 0⟩ ∧
              w.daemon.shutdown.answer = 0 ∧ (w.serve .shutdown).daemon.store = w.daemon.store := by
  have begun := start_of_sound (Config.fault?_eq_none_of_validate valid) hash first
  refine ⟨?_, ?_, ?_⟩
  · rw [begun, Store.backendName]
    split <;> simp [*]
  · intro other
    rw [begun, Store.backendName, if_neg other]
  · intro d started requests goesOn v ended
    have works : v.Works c _ := (Works.start started).after goesOn
    obtain ⟨self, -⟩ := (Works.start started).duties
    obtain ⟨removed, kept⟩ := works.ends
    refine ⟨?_, removed, kept, ?_⟩
    · rw [show d.owner = Daemon.self from self]
      exact works.duties.2
    · intro later
      exact (works.shutdown.after later).idle

/-- A daemon that is to sweep more often than tasks may run.  It ticks with the clock ahead and set
    back, is shut down, and gets one more line and one more tick afterwards. -/
theorem works_until_shutdown_twice :
    let c : Config := { retentionEveryMs := 7, hashBuckets := 1 }
    let first := Clock.atSecond 100000
    let d := Daemon.working c ⟨first, 0⟩ ⟨first, 0⟩ (.empty (fun _ => 0) c.serverName 1)
    let requests : List Request := [.history (.addLine "#chat" .empty "a"),
      .history (.turn (Clock.atSecond 100001)), .tick, .history (.turn (Clock.atSecond 5)), .tick]
    let later : List Request := [.history (.addLine "#chat" .empty "b"), .tick]
    let v := (⟨d, first⟩ : Service).after requests
    let w := (v.serve .shutdown).after later
    c.validate = .ok c ∧ (start c (fun _ => 0) first).1 = .ok d ∧ .shutdown ∉ requests ∧
      v.daemon.scheduler.tasks.map (fun t => (t.name, t.intervalMs.toNat, t.fireCount)) =
        [("history_retention", 100, 1), ("heartbeat", 1000, 1)] ∧
      v.daemon.scheduler.tasks.map Duty.of = Daemon.duties c d.owner ∧
      v.daemon.shutdown.answer = 2 ∧ w.daemon.scheduler.tasks = [] ∧
      (w.daemon.tick w.now).answer = ⟨0, 0⟩ ∧ w.daemon.shutdown.answer = 0 ∧
      (start { c with backend := "disk" } (fun _ => 0) first).1 =
        .error (.notFound (.backend "disk")) := by
  intro c first d requests later v w
  have valid : c.validate = .ok c := by decide
  have valid' : ({ c with backend := "disk" } : Config).validate = .ok { c with backend := "disk" } := by
    decide
  have started : (start c (fun _ => 0) first).1 = .ok d := by
    rw [start_eq]
    rfl
  have goesOn : .shutdown ∉ requests := by simp [requests]
  obtain ⟨-, -, runs⟩ := works_until_shutdown (fun _ => 0) first valid
  obtain ⟨-, refused, -⟩ := works_until_shutdown (fun _ => 0) first valid'
  obtain ⟨duties, removed, -, after⟩ := runs d started requests goesOn
  obtain ⟨none, idle, nothing, -⟩ := after later
  exact ⟨valid, started, goesOn, by decide +kernel, duties, removed, none, idle, nothing,
    refused (by decide)⟩

end Service

end Backlog
