import Backlog.Proofs.Daemon.Rota
import Backlog.Proofs.History.Sweep

/-!
# Daemons at work

A `Service` is a daemon with the clock.  Others work on its history and set the clock as it
may please them, between ticks and after a shutdown.  Until the first shutdown a daemon is
`Daemon.working`, and from then on it is `Daemon.stopped`; all the while its store is
`Store.Sound`.
-/

namespace Backlog

/-! ## The history -/

/-- What holds of every store that requests can reach. -/
structure Store.Sound (s : Store) : Prop where
  proper : s.index.Proper
  scanned : s.index.Holds TargetLog.Scanned

namespace Store

variable {s : Store}

theorem Sound.empty (hash : List UInt8 → Nat) (server : String) (buckets : Nat) :
    (Store.empty hash server buckets).Sound :=
  ⟨.empty hash buckets, TargetIndex.holds_empty _ hash buckets⟩

theorem Sound.serve {a : Archive} (sound : a.store.Sound) (request : Archive.Request) :
    (a.serve request).1.store.Sound :=
  ⟨(Archive.serve_effect sound.proper request).1, Archive.scanned_serve sound.scanned request⟩

theorem Sound.trimAll (sound : s.Sound) (now : Instant) (most : Nat) (age : Age) :
    (s.trimAll now most age).state.Sound :=
  ⟨(trimAll_effect sound.proper now most age).1, scanned_trimAll sound.scanned now most age⟩

/-- A sweep leaves the lines within the limits, in all logs and under all names. -/
theorem Sound.toList_trimAll (sound : s.Sound) {now : Instant} (plain : ¬ now.IsLeap) (most : Nat)
    (age : Age) :
    (s.trimAll now most age).state.index.toList =
      s.index.toList.map fun l => l.holding (TargetLog.within now most age l.lines) := by
  rw [index_trimAll, TargetIndex.toList_map]
  apply List.map_congr_left
  intro l member
  rw [(sound.scanned l member).trim, TargetLog.keptOf_cutoff? plain]

theorem Sound.get?_trimAll (sound : s.Sound) {now : Instant} (plain : ¬ now.IsLeap) (most : Nat)
    (age : Age) (target : String) :
    (s.trimAll now most age).state.get? target =
      (s.get? target).map fun l => l.holding (TargetLog.within now most age l.lines) := by
  rw [Store.get?_trimAll sound.proper]
  apply Option.map_congr
  intro l found
  have scanned := sound.scanned l (TargetIndex.mem_toList_of_get? found)
  rw [scanned.trim, TargetLog.keptOf_cutoff? plain]

end Store

/-! ## Requests -/

/-- A daemon with the clock. -/
structure Service where
  daemon : Daemon
  now : Instant

namespace Service

/-- What can happen to a daemon. -/
inductive Request where
  /-- Its history is worked on, or the clock is set. -/
  | history (request : Archive.Request)
  | tick
  | shutdown

/-- Serves a request. -/
def serve (v : Service) : Request → Service
  | .history request =>
    let left := (Archive.serve ⟨v.daemon.store, v.now⟩ request).1
    ⟨{ v.daemon with store := left.store }, left.now⟩
  | .tick => { v with daemon := (v.daemon.tick v.now).state }
  | .shutdown => { v with daemon := v.daemon.shutdown.state }

/-- The service after requests were served in order. -/
def after (v : Service) (requests : List Request) : Service :=
  requests.foldl serve v

/-! ## From the start to a shutdown -/

/-- Whether a request is a tick that runs the sweep. -/
def sweeps (v : Service) : Request → Bool
  | .tick => v.daemon.runs "history_retention" v.now
  | .history _ | .shutdown => false

/-- When the sweep ran last while requests were served in order; `last` is when it ran before. -/
def lastSweep : Service → Instant → List Request → Instant
  | _, last, [] => last
  | v, last, request :: rest =>
    (v.serve request).lastSweep (if v.sweeps request then v.now else last) rest

/-- Whether the daemon is at work by its settings, and its last sweep was at `last`. -/
def Works (c : Config) (last : Instant) (v : Service) : Prop :=
  ∃ (sweeps beats : Turns) (store : Store),
    v.daemon = .working c sweeps beats store ∧ sweeps.last = last ∧ store.Sound

variable {c : Config} {v : Service} {last : Instant}

theorem Works.start {hash : List UInt8 → Nat} {first : Instant} {d : Daemon}
    (started : (Daemon.start c hash first).1 = .ok d) : (⟨d, first⟩ : Service).Works c first := by
  rw [Daemon.start_eq] at started
  split at started
  · split at started
    · cases started
    · cases started
      exact ⟨⟨first, 0⟩, ⟨first, 0⟩, _, rfl, rfl, .empty hash _ _⟩
  · cases started

theorem Works.serve (works : v.Works c last) {request : Request} (goesOn : request ≠ .shutdown) :
    (v.serve request).Works c (if v.sweeps request then v.now else last) := by
  obtain ⟨daemon, now⟩ := v
  obtain ⟨sweeps, beats, store, rfl, rfl, sound⟩ := works
  cases request with
  | history request =>
    exact ⟨sweeps, beats, _, rfl, rfl, Store.Sound.serve (a := ⟨store, now⟩) sound request⟩
  | tick =>
    -- the turn of the sweep is noted exactly if the tick runs it
    refine ⟨_, _, _, Daemon.state_tick_working c sweeps beats now store, ?_, ?_⟩
    · rw [Service.sweeps, Daemon.runs_working, Turns.after]
      split <;> rfl
    · split
      · exact sound.trimAll now _ _
      · exact sound
  | shutdown => exact absurd rfl goesOn

theorem Works.after (works : v.Works c last) {requests : List Request}
    (goesOn : .shutdown ∉ requests) : (v.after requests).Works c (v.lastSweep last requests) := by
  induction requests generalizing v last with
  | nil => exact works
  | cons request rest ih =>
    rw [List.mem_cons, not_or] at goesOn
    obtain ⟨other, goesOn⟩ := goesOn
    exact ih (works.serve (Ne.symm other)) goesOn

/-- Where the clock is never set to a leap second, it shows none, and no sweep ran at one. -/
theorem plain_after (plain : ¬ v.now.IsLeap) (plain' : ¬ last.IsLeap) {requests : List Request}
    (turns : ∀ now, .history (.turn now) ∈ requests → ¬ now.IsLeap) :
    ¬ (v.after requests).now.IsLeap ∧ ¬ (v.lastSweep last requests).IsLeap := by
  induction requests generalizing v last with
  | nil => exact ⟨plain, plain'⟩
  | cons request rest ih =>
    -- a sweep notes the clock, so both are carried on together
    have shown : ¬ (v.serve request).now.IsLeap := by
      rcases request with request | _ | _
      · cases request with
        | turn now => exact turns now List.mem_cons_self
        | addLine | trim | trimAll | destroy | replay => exact plain
      · exact plain
      · exact plain
    refine ih shown ?_ fun now member => turns now (List.mem_cons_of_mem _ member)
    split
    · exact plain
    · exact plain'

/-! ## After a shutdown -/

/-- Whether the daemon was shut down. -/
def IsStopped (v : Service) : Prop :=
  ∃ store, v.daemon = .stopped store

theorem IsStopped.serve (stopped : v.IsStopped) (request : Request) : (v.serve request).IsStopped := by
  obtain ⟨daemon, now⟩ := v
  obtain ⟨store, rfl⟩ := stopped
  cases request with
  | history request => exact ⟨_, rfl⟩
  | tick => exact ⟨store, by rw [Service.serve, Daemon.tick_stopped]⟩
  | shutdown => exact ⟨store, (Daemon.shutdown_stopped store).1⟩

theorem IsStopped.after (stopped : v.IsStopped) (requests : List Request) :
    (v.after requests).IsStopped := by
  induction requests generalizing v with
  | nil => exact stopped
  | cons request rest ih => exact ih (stopped.serve request)

theorem Works.shutdown (works : v.Works c last) : (v.serve .shutdown).IsStopped := by
  obtain ⟨sweeps, beats, store, same, -, -⟩ := works
  exact ⟨store, by rw [Service.serve, same, (Daemon.shutdown_working c sweeps beats store).1]⟩

end Service

end Backlog
