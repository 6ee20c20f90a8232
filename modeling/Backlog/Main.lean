import Backlog.Cli.Session
import Std.Time.DateTime.Timestamp

/-!
# The program

The daemon as it runs from a shell: arguments, environment, files, clocks and
standard output.  What is done with them is decided by `Backlog.Cli`.
-/

namespace Backlog.Cli

/-- What the wall clock shows. -/
def wallClock : IO Instant := do
  let nanos := (← Std.Time.Timestamp.now).toNanosecondsSinceUnixEpoch.toInt
  return (Instant.epoch.add? nanos).getD Instant.epoch

/-- The bytes of a file, nothing if it cannot be read, and no answer if there is no
    such file. -/
def contents? (path : String) : IO (Option (Option (List UInt8))) := do
  try
    return some (some (← IO.FS.readBinFile path).toList)
  catch
    | .noFileOrDirectory _ _ _ => return none
    | _ => return some none

/-- The settings of a run. -/
def readSettings (o : Options) (home : String) : IO (Except Error Config) := do
  match o.config with
  | some path => return Config.ofBytes (← contents? (expandTilde home path)).join
  | none =>
    match ← contents? ("/".intercalate (home :: Config.usualPath [])) with
    | some bytes => return Config.ofBytes bytes
    | none => return .ok {}

/-- Prints the events that a filter shows, each after the time of its printing.
    Levels end in one column. -/
def report (filter : LogFilter) (log : List Event) : IO Unit := do
  let output ← IO.getStdout
  for event in log.filter filter.shows do
    let time := String.ofList (← wallClock).fullText
    let gap := if event.level.name.length < 5 then "  " else " "
    output.putStrLn (time ++ gap ++ event.line)
  output.flush

/-- Waits until the monotonic clock shows `deadline`, in milliseconds. -/
partial def waitUntil (deadline : Nat) : IO Unit := do
  let now ← IO.monoMsNow
  if now < deadline then
    IO.sleep (UInt32.ofNat (min (deadline - now) 1000000000))
    waitUntil deadline

/-- Turns of the main loop, `tickMs` apart from each other, the first of which is
    due at `deadline`.  It ends after `last` turns, or never if `last` is 0. -/
partial def loop (filter : LogFilter) (tickMs last turn deadline : Nat) (d : Daemon) :
    IO Daemon := do
  waitUntil deadline
  let ticked := d.tick (← wallClock)
  report filter ticked.log
  if turn = last then return ticked.state
  loop filter tickMs last (turn + 1) (deadline + tickMs) ticked.state

/-- Says why the daemon does not run. -/
def fail (e : Error) : IO UInt32 := do
  (← IO.getStderr).putStrLn ("Error: " ++ e.message)
  return 1

/-- Runs the daemon. -/
def serve (o : Options) : IO UInt32 := do
  let home := (← IO.getEnv "HOME").getD "."
  let filter := filterOf o (← IO.getEnv "RUST_LOG")
  match ← readSettings o home with
  | .error e => fail e
  | .ok c =>
    report filter (greeting c)
    let key := UInt64.ofNat (← IO.rand 0 18446744073709551615)
    let (started, log) := Daemon.start c (keyedHash key) (← wallClock)
    report filter log
    match started with
    | .error e => fail e
    | .ok d =>
      let d ← loop filter c.tickMs.toNat o.ticks 1 (← IO.monoMsNow) d
      report filter (farewell d)
      return 0

end Backlog.Cli

/-- The program of the daemon. -/
def main (arguments : List String) : IO UInt32 := do
  match Backlog.Cli.Command.ofArguments arguments with
  | .run o => Backlog.Cli.serve o
  | .help =>
    (← IO.getStdout).putStrLn ("\n".intercalate Backlog.Cli.helpText)
    return 0
  | .version =>
    (← IO.getStdout).putStrLn Backlog.Cli.versionText
    return 0
  | .misuse =>
    (← IO.getStderr).putStrLn "Usage: chatrelayd [OPTIONS]"
    return 2
