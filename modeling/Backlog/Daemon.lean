import Backlog.Config.Settings
import Backlog.History.Registry
import Backlog.Schedule.Tick

/-!
# The daemon

One scheduler and one history, and the two tasks that tie them together: a sweep
that keeps every log within the configured limits, and a heartbeat that reports
how much there is.
-/

namespace Backlog

/-- What the daemon's own tasks do. -/
inductive Job where
  /-- Applies the limits to every log. -/
  | retention (mostLines : Nat) (maxAge : Age)
  /-- Counts its own runs and reports. -/
  | heartbeat
deriving DecidableEq, Repr

/-- What the daemon's own tasks carry. -/
inductive JobPayload where
  | unit
  | beats (n : Nat)
deriving DecidableEq, Repr

/-- How the daemon's own tasks run: on the store that the world shares. -/
def Job.behavior : Behavior Job JobPayload Store (List Event) :=
  fun job context payload world =>
    match job with
    | .retention mostLines maxAge =>
      let swept := world.shared.trimAll world.clock mostLines maxAge
      { callback := job, payload, removals := []
        world := { world with shared := swept.state }
        output := swept.log ++
          (if 0 < swept.answer then [.retentionEvicted swept.answer] else []) }
    | .heartbeat =>
      match payload with
      | .beats n =>
        { callback := job, payload := .beats (n + 1), world, removals := []
          output := [.heartbeat (n + 1) context.now world.shared.targetCount
            world.shared.totalLines] }
      | .unit => { callback := job, payload, world, removals := [], output := [] }

/-- A running daemon. -/
structure Daemon where
  scheduler : Scheduler Job JobPayload
  store : Store
  /-- Who owns the daemon's own tasks. -/
  owner : OwnerId

namespace Daemon

/-- The name under which the daemon owns its tasks. -/
def ownerName : String := "daemon"

/-- Milliseconds between two heartbeats. -/
def heartbeatMs : Int64 := 1000

/-- The task that keeps the logs within limits. -/
def retentionTask (c : Config) (owner : OwnerId) : NewTask Job JobPayload where
  owner := some owner
  name := "history_retention"
  callback := .retention c.maxLines.toNat (Age.ofSeconds c.maxAgeSecs.toNat)
  payload := .unit
  intervalMs := c.retentionEveryMs
  count := 0

/-- The task that reports. -/
def heartbeatTask (owner : OwnerId) : NewTask Job JobPayload where
  owner := some owner
  name := "heartbeat"
  callback := .heartbeat
  payload := .beats 0
  intervalMs := heartbeatMs
  count := 0

/-- The history backend that the settings name. -/
def openHistory (c : Config) (hash : List UInt8 → Nat) : Except Error Store × List Event :=
  let store := Store.empty hash c.serverName c.hashBuckets.toNat
  let registered := (Registry.empty : Registry Store).register ⟨Store.backendName, store⟩
  match registered.answer with
  | .error e => (.error e, registered.log)
  | .ok () =>
    let taken := registered.state.take c.backend
    (taken.answer.map (·.store), registered.log ++ taken.log)

/-- Starts a daemon at `now`: picks its history and adds its tasks. -/
def start (c : Config) (hash : List UInt8 → Nat) (now : Instant) :
    Except Error Daemon × List Event :=
  match openHistory c hash with
  | (.error e, log) => (.error e, log)
  | (.ok store, log) =>
    let (owner, scheduler) := (Scheduler.empty : Scheduler Job JobPayload).registerOwner ownerName
    let first := scheduler.add now (retentionTask c owner)
    match first.answer with
    | .error e => (.error e, log ++ first.log)
    | .ok _ =>
      let second := first.state.add now (heartbeatTask owner)
      let log := log ++ first.log ++ second.log
      match second.answer with
      | .error e => (.error e, log)
      | .ok _ => (.ok ⟨second.state, store, owner⟩, log)

/-- One turn of the main loop at `now`. -/
def tick (d : Daemon) (now : Instant) : Outcome Daemon TickReport :=
  let result := d.scheduler.tick Job.behavior ⟨now, d.store⟩
  let report := result.report
  let turn :=
    if 0 < report.fired ∨ 0 < report.removed then
      [Event.ticked report.fired report.removed result.scheduler.size]
    else []
  ⟨{ d with scheduler := result.scheduler, store := result.world.shared }, report,
    result.visits.flatMap (·.log id) ++ turn⟩

/-- Drops the daemon's own tasks.  The answer is how many there were. -/
def shutdown (d : Daemon) : Outcome Daemon Nat :=
  let released := d.scheduler.releaseOwner d.owner
  ⟨{ d with scheduler := released.state }, released.answer,
    released.log ++ [.stopped released.answer]⟩

end Daemon

end Backlog
