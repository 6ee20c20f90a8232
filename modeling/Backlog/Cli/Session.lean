import Backlog.Cli.LogFilter
import Backlog.Cli.Options
import Backlog.Config.File
import Backlog.Daemon

/-!
# A session of the daemon

What a run of the daemon does from the command line to its end: it loads the
settings, starts, ticks, and stops.  The world around it is given: the files, the
environment, when it begins and after how many turns somebody interrupts it.
-/

namespace Backlog.Cli

/-- The world around a run. -/
structure Environment where
  disk : Disk
  /-- The home directory. -/
  home : String
  /-- The directory that the run begins in. -/
  workingDirectory : Path
  /-- The log filter that the environment asks for. -/
  logFilter : Option String
  /-- When the run begins. -/
  start : Instant
  /-- After how many turns of the main loop it is interrupted. -/
  patience : Nat
  hash : List UInt8 → Nat

/-- What a run comes to. -/
structure Exit where
  code : Nat
  out : List String
  err : Option String
deriving DecidableEq, Repr

/-- The log filter of a run: that of the environment if it is right, and else the
    usual one. -/
def filterOf (o : Options) (asked : Option String) : LogFilter :=
  match asked.bind LogFilter.parse? with
  | some filter => filter
  | none => LogFilter.usual (if o.verbose then 4 else 3)

/-- The settings of a run. -/
def settingsOf (o : Options) (disk : Disk) (home : String) (start : Path) : Except Error Config :=
  match o.config with
  | some path =>
    Config.ofBytes ((disk.resolve? start (expandTilde home path)).bind disk.read?)
  | none => Config.load disk (((disk.resolve? start home)).getD [])

/-- What the log says before the daemon starts. -/
def greeting (c : Config) : List Event :=
  [.starting c.serverName, .historySettings c.backend c.maxLines.toNat c.maxAgeSecs.toNat]

/-- What the log says after the main loop, while the daemon stops. -/
def farewell (d : Daemon) : List Event :=
  .summary d.scheduler.size d.store.totalLines d.store.targetCount :: d.shutdown.log

/-- Turns of the main loop, `tickMs` apart from each other. -/
def turns (tickMs : Nat) : (count : Nat) → Daemon → Instant → Daemon × List Event
  | 0, d, _ => (d, [])
  | count + 1, d, now =>
    let turn := d.tick now
    let later := (Clock.advance? now tickMs).getD now
    let (d, log) := turns tickMs count turn.state later
    (d, turn.log ++ log)

/-- The main loop and the end.  A number of turns of 0 is without end. -/
def mainLoop (c : Config) (o : Options) (d : Daemon) (env : Environment) : List Event :=
  let inTime := 0 < o.ticks ∧ o.ticks ≤ env.patience
  let (d, log) := turns c.tickMs.toNat (if inTime then o.ticks else env.patience) d env.start
  log ++ (if inTime then [] else [.interrupted]) ++ farewell d

/-- The lines of the log that a filter shows. -/
def logLines (filter : LogFilter) (log : List Event) : List String :=
  (log.filter filter.shows).flatMap fun e => e.line.splitOn "\n"

/-- How a run ends that an error has stopped. -/
def Exit.failure (out : List String) (e : Error) : Exit :=
  ⟨1, out, ("Error: " ++ e.message).splitOn "\n" |>.head?⟩

/-- A run of the daemon. -/
def runDaemon (env : Environment) (o : Options) : Exit :=
  let filter := filterOf o env.logFilter
  match settingsOf o env.disk env.home env.workingDirectory with
  | .error e => .failure [] e
  | .ok c =>
    match Daemon.start c env.hash env.start with
    | (.error e, log) => .failure (logLines filter (greeting c ++ log)) e
    | (.ok d, log) => ⟨0, logLines filter (greeting c ++ log ++ mainLoop c o d env), none⟩

/-- What a command line comes to. -/
def run (env : Environment) (arguments : List String) : Exit :=
  match Command.ofArguments arguments with
  | .run o => runDaemon env o
  | .help => ⟨0, helpText, none⟩
  | .version => ⟨0, [versionText], none⟩
  | .misuse => ⟨2, [], none⟩

end Backlog.Cli
