import Backlog.Log
import Backlog.Text.Blank

/-!
# Log filters

A log filter is a list of directives, each with a level and perhaps a source: it
shows the events of sources that begin so, up to the level.  Of the directives
that apply to an event the one with the longest source counts, and of equal ones
the last.  A directive may also ask for a span or for fields; no event here stands
in a span, and the only field of an event is its message.
-/

namespace Backlog.Cli

open Backlog.Text

/-- One directive of a log filter. -/
structure Directive where
  target : Option String := none
  span : Option String := none
  /-- Names of fields, and whether a value is asked of them. -/
  fields : List (String × Bool) := []
  /-- The level as a number: 0 shows nothing, and 5 all. -/
  verbosity : Nat := 5
deriving DecidableEq, Repr

/-! ## Reading -/

/-- A level by number or by name. -/
def verbosity? (s : List Char) : Option Nat :=
  let digits := match s with
    | '+' :: rest => rest
    | rest => rest
  let number := digits.foldl (fun n c => 10 * n + (c.toNat - 48)) 0
  if !digits.isEmpty && digits.all Char.isDigit && number ≤ 5 then some number
  else
    match String.ofList (s.map Char.toLower) with
    | "" => some 1
    | "off" => some 0
    | "error" => some 1
    | "warn" => some 2
    | "info" => some 3
    | "debug" => some 4
    | "trace" => some 5
    | _ => none

/-- A level after an equals sign, which may be missing. -/
def givenVerbosity? (s : List Char) : Option Nat :=
  if s.isEmpty then some 5 else verbosity? s

/-- Where the reading of a directive stands: at its start, or in a part of it that
    began at a place of the text. -/
inductive Part where
  | start
  | levelOrTarget (place : Nat)
  | span (place : Nat)
  | field (place : Nat)
  | fields
  | afterSpan
  | level (place : Nat)
deriving DecidableEq, Repr

/-- The characters from one place of a text to another. -/
def slice (s : List Char) (first last : Nat) : List Char :=
  (s.take last).drop first

/-- A field of a directive: its name, and whether it has a value. -/
def field? (s : List Char) : Option (String × Bool) :=
  if s.isEmpty then none
  else some (String.ofList (s.takeWhile (· ≠ '=')), s.contains '=')

/-- Whether a directive may begin with a character. -/
def mayBegin (c : Char) : Bool :=
  c.isAlphanum || c == '-' || c == ':' || c == '_' || 0x80 ≤ c.toNat

/-- Reads one character, which stands at a place of the text.  The text counts its
    places with the blanks in front, the reading without them. -/
def Directive.step? (text : List Char) (d : Directive) (place : Nat) (c : Char) :
    Part → Option (Directive × Part)
  | .start =>
    if c = '[' then some (d, .span (place + 1))
    else if mayBegin c then some (d, .levelOrTarget place) else none
  | .levelOrTarget first =>
    let target := some (String.ofList (slice text first place))
    if c = '=' then some ({ d with target }, .level (place + 1))
    else if c = '[' then some ({ d with target }, .span (place + 1))
    else some (d, .levelOrTarget first)
  | .afterSpan => if c = '=' then some (d, .level (place + 1)) else none
  | .span first =>
    let name := slice text first place
    if c = ']' then some ({ d with span := some (String.ofList name) }, .afterSpan)
    else if c = '\x7b' then
      some ({ d with span := if name.isEmpty then none else some (String.ofList name) },
        .field (place + 1))
    else some (d, .span first)
  | .field first =>
    if c = '\x7d' then
      (field? (slice text first place)).map fun f => ({ d with fields := d.fields ++ [f] }, .fields)
    else some (d, .field first)
  | .fields => if c = ']' then some (d, .afterSpan) else none
  | .level first => some (d, .level first)

/-- Reads characters from a place on. -/
def Directive.steps? (text : List Char) : Directive → Part → Nat → List Char →
    Option (Directive × Part)
  | d, part, _, [] => some (d, part)
  | d, part, place, c :: rest => do
    let (d, part) ← d.step? text place c part
    steps? text d part (place + 1) rest

/-- The directive of a text.  A text that is neither a level nor has one is a
    source, of which all is shown. -/
def Directive.parse? (text : List Char) : Option Directive := do
  let trimmed := ((text.dropWhile isBlank).reverse.dropWhile isBlank).reverse
  let (d, part) ← Directive.steps? text {} .start 0 trimmed
  match part with
  | .levelOrTarget first =>
    let rest := text.drop first
    match verbosity? rest with
    | some verbosity => some { d with verbosity }
    | none => some { d with target := some (String.ofList rest) }
  | .level first => (givenVerbosity? (text.drop first)).map fun verbosity => { d with verbosity }
  | .afterSpan => some d
  | _ => none

/-- A log filter. -/
abbrev LogFilter : Type := List Directive

/-- The log filter of a text: directives with commas between them, all of which
    have to be right. -/
def LogFilter.parse? (text : String) : Option LogFilter :=
  ((text.splitOn ",").filter (· ≠ "")).mapM fun s => Directive.parse? s.toList

/-- The filter that shows the daemon's events up to a level. -/
def LogFilter.usual (verbosity : Nat) : LogFilter :=
  ["chatrelayd", "chatrelay_scheduler", "chatrelay_history"].map
    fun source => { target := some source, verbosity }

/-! ## Filtering -/

/-- Whether a directive applies to an event. -/
def Directive.appliesTo (d : Directive) (e : Event) : Bool :=
  d.target.all (fun t => t.toList.isPrefixOf e.source.toList) && d.span.isNone &&
    d.fields.all (fun f => f = ("message", false))

/-- How narrow a directive is. -/
def Directive.narrowness (d : Directive) : Nat × Nat :=
  ((d.target.map (·.utf8ByteSize + 1)).getD 0, d.fields.length)

/-- The narrower of two directives, or the second one of equals. -/
def Directive.narrower (a b : Directive) : Directive :=
  let (targetA, fieldsA) := a.narrowness
  let (targetB, fieldsB) := b.narrowness
  if targetB < targetA ∨ (targetA = targetB ∧ fieldsB < fieldsA) then a else b

/-- Whether the filter shows an event. -/
def LogFilter.shows (f : LogFilter) (e : Event) : Bool :=
  match f.filter (·.appliesTo e) with
  | [] => false
  | d :: rest => e.level.verbosity ≤ (rest.foldl Directive.narrower d).verbosity

end Backlog.Cli
