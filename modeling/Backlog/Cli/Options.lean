/-!
# The command line

Which options the daemon takes, and what a command line asks for.  Options come in
a long and some in a short form; short ones may stand together.  A value may
follow its option, or be joined to it.  Each option may be given once.
-/

namespace Backlog.Cli

/-- What a run of the daemon is asked to do. -/
structure Options where
  /-- The file with the settings, if not the usual one. -/
  config : Option String := none
  /-- After how many turns of the main loop to stop; 0 is never. -/
  ticks : Nat := 0
  /-- Whether to log more. -/
  verbose : Bool := false
deriving DecidableEq, Repr

/-- What a command line asks for. -/
inductive Command where
  | run (options : Options)
  | help
  | version
  /-- The command line is wrong. -/
  | misuse
deriving DecidableEq, Repr

/-- The options that take a value. -/
inductive Valued where
  | config
  | ticks
deriving DecidableEq, Repr

/-- The options read so far. -/
structure Draft where
  config : Option String := none
  ticks : Option Nat := none
  verbose : Bool := false

/-- The options with those missing that were not given. -/
def Draft.options (d : Draft) : Options :=
  ⟨d.config, d.ticks.getD 0, d.verbose⟩

/-- A number of 64 bits in decimal, before which a plus may stand. -/
def word? (s : String) : Option Nat :=
  let digits := match s.toList with
    | '+' :: rest => rest
    | rest => rest
  if digits.isEmpty || !digits.all Char.isDigit then none
  else
    let n := digits.foldl (fun n c => 10 * n + (c.toNat - 48)) 0
    if n ≤ 18446744073709551615 then some n else none

/-- Sets an option to a value, if it is not set yet and the value is one. -/
def Draft.set? (d : Draft) (value : String) : Valued → Option Draft
  | .config => if d.config.isSome then none else some { d with config := some value }
  | .ticks =>
    if d.ticks.isSome then none else (word? value).map fun n => { d with ticks := some n }

/-- What an argument comes to. -/
inductive Step where
  /-- The argument is read. -/
  | done (d : Draft)
  /-- The next argument is the value of an option. -/
  | awaits (d : Draft) (option : Valued)
  /-- The rest of the command line does not count. -/
  | stop (c : Command)

/-- What setting an option comes to. -/
def Step.ofSet (d : Draft) (option : Valued) (value : String) : Step :=
  match d.set? value option with
  | some d => .done d
  | none => .stop .misuse

/-- What a flag comes to, which may be given once. -/
def Step.ofVerbose (d : Draft) : Step :=
  if d.verbose then .stop .misuse else .done { d with verbose := true }

/-- Reads a long option, which stands after two hyphens and may have a value after
    an equals sign. -/
def readLong (d : Draft) (text : List Char) : Step :=
  let name := String.ofList (text.takeWhile (· ≠ '='))
  match text.dropWhile (· ≠ '='), name with
  | [], "config" => .awaits d .config
  | [], "ticks" => .awaits d .ticks
  | [], "verbose" => .ofVerbose d
  | [], "help" => .stop .help
  | [], "version" => .stop .version
  | _ :: value, "config" => .ofSet d .config (String.ofList value)
  | _ :: value, "ticks" => .ofSet d .ticks (String.ofList value)
  | _, _ => .stop .misuse

/-- Reads the short options that stand together after a hyphen. -/
def readShort (d : Draft) : List Char → Step
  | [] => .done d
  | 'c' :: rest =>
    match rest with
    | [] => .awaits d .config
    | '=' :: value => .ofSet d .config (String.ofList value)
    | value => .ofSet d .config (String.ofList value)
  | 'v' :: rest => if d.verbose then .stop .misuse else readShort { d with verbose := true } rest
  | 'h' :: _ => .stop .help
  | 'V' :: _ => .stop .version
  | _ => .stop .misuse

/-- Reads arguments, the first of which may be the value of an option. -/
def readArguments (d : Draft) : Option Valued → List String → Command
  | none, [] => .run d.options
  | some _, [] => .misuse
  | awaited, argument :: rest =>
    match argument.toList with
    | ['-', '-'] => if awaited.isSome || !rest.isEmpty then .misuse else .run d.options
    | '-' :: c :: text =>
      if awaited.isSome then .misuse
      else
        match if c = '-' then readLong d text else readShort d (c :: text) with
        | .done d => readArguments d none rest
        | .awaits d option => readArguments d (some option) rest
        | .stop command => command
    | _ =>
      match awaited with
      | none => .misuse
      | some option =>
        match d.set? argument option with
        | some d => readArguments d none rest
        | none => .misuse

/-- What a command line asks for. -/
def Command.ofArguments (arguments : List String) : Command :=
  readArguments {} none arguments

/-- What the daemon says of its version. -/
def versionText : String := "chatrelayd 0.2.0"

/-- What the daemon says of its options. -/
def helpText : List String :=
  ["💬 ChatRelay: scheduler and chat history daemon",
    "",
    "Usage: chatrelayd [OPTIONS]",
    "",
    "Options:",
    "  -c, --config <CONFIG>  Config file (default: ~/.chatrelay/config.toml)",
    "      --ticks <TICKS>    Stop after this many loop iterations (0 = run until Ctrl-C) [default: 0]",
    "  -v, --verbose          Verbose logging",
    "  -h, --help             Print help",
    "  -V, --version          Print version"]

/-- A path with the home directory for a tilde in front. -/
def expandTilde (home path : String) : String :=
  match path.toList with
  | ['~'] => home
  | '~' :: '/' :: rest => home ++ String.ofList ('/' :: rest)
  | _ => path

end Backlog.Cli
