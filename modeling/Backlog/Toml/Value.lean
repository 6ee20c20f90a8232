import Backlog.Time.Calendar

/-!
# TOML values and tables

The values of a TOML document, and how keys find their place in its tables.  A
table remembers how it came about, because that decides who may add to it: a
table in braces is complete, one that a header defines takes no dotted keys from
elsewhere, and one that is only implied by a longer path may still get its own
header.
-/

namespace Backlog.Toml

/-- How a table came about. -/
inductive Origin where
  /-- Written in braces: nobody adds to it. -/
  | closed
  /-- Defined by its own header, or the root. -/
  | header
  /-- Implied by the header of a table in it. -/
  | implied
  /-- Implied by a dotted key. -/
  | dotted
deriving DecidableEq, Repr

/-- A floating point number as it is written. -/
inductive FloatValue where
  /-- `digits * 10 ^ exponent`, or its negative. -/
  | decimal (negative : Bool) (digits : Nat) (exponent : Int)
  | infinite (negative : Bool)
  | notANumber
deriving DecidableEq, Repr

/-- A time of day with nanoseconds. -/
structure TimeOfDay where
  hour : Nat
  minute : Nat
  second : Nat
  nanos : Nat
deriving DecidableEq, Repr

/-- A date, a time, or both, and then perhaps with an offset from UTC in
    minutes. -/
structure Moment where
  date : Option Date
  time : Option TimeOfDay
  offset : Option Int
deriving DecidableEq, Repr

/-- A value. -/
inductive Value where
  | string (s : String)
  | integer (n : Int)
  | float (x : FloatValue)
  | boolean (b : Bool)
  | moment (m : Moment)
  | array (items : List Value)
  | table (origin : Origin) (entries : List (String × Value))
  /-- The tables under one header in double brackets. -/
  | tables (elements : List (List (String × Value)))

/-- The keys of a table with their values, in order. -/
abbrev Entries : Type := List (String × Value)

namespace Entries

/-- The value of a key. -/
def get? (entries : Entries) (key : String) : Option Value :=
  (entries.find? (·.1 = key)).map (·.2)

/-- Gives a key that is there another value. -/
def set (entries : Entries) (key : String) (value : Value) : Entries :=
  entries.map fun e => if e.1 = key then (key, value) else e

/-- Adds a key. -/
def push (entries : Entries) (key : String) (value : Value) : Entries :=
  entries ++ [(key, value)]

end Entries

/-! ## Paths -/

/-- What kind of path leads through tables. -/
inductive Route where
  | byHeader
  | byDottedKey
deriving DecidableEq, Repr

/-- The tables that a path makes where there is none. -/
def Route.makes : Route → Origin
  | byHeader => .implied
  | byDottedKey => .dotted

/-- The tables that a path may lead through. -/
def Route.mayEnter : Route → Origin → Bool
  | byHeader, origin => origin ≠ .closed
  | byDottedKey, origin => origin = .implied ∨ origin = .dotted

/-- Changes the table at the end of a path, making the tables on the way where
    there are none.  In an array of tables the path leads through the last one. -/
def Entries.changeAt? (route : Route) (change : Origin → Entries → Option Entries) :
    List String → Origin → Entries → Option Entries
  | [], origin, entries => change origin entries
  | key :: path, _, entries =>
    match entries.get? key with
    | none => do
      let inner ← changeAt? route change path route.makes []
      some (entries.push key (.table route.makes inner))
    | some (.table origin inner) =>
      if route.mayEnter origin then do
        let inner ← changeAt? route change path origin inner
        some (entries.set key (.table origin inner))
      else none
    | some (.tables elements) => do
      let last ← elements.getLast?
      let last ← changeAt? route change path .header last
      some (entries.set key (.tables (elements.dropLast ++ [last])))
    | some _ => none

/-- Adds a key with its value to the table where dotted keys lead to.  That table
    must be one that dotted keys have made, and the key must be new. -/
def Entries.addKey? (path : List String) (key : String) (value : Value) :
    Origin → Entries → Option Entries :=
  Entries.changeAt? .byDottedKey
    (fun origin entries =>
      if decide (origin = .dotted) == path.isEmpty then none
      else if (entries.get? key).isSome then none
      else some (entries.push key value))
    path

/-- Defines the table of a header.  It may be implied already, and not more. -/
def Entries.openTable? (path : List String) (key : String) : Origin → Entries → Option Entries :=
  Entries.changeAt? .byHeader
    (fun _ entries =>
      match entries.get? key with
      | none => some (entries.push key (.table .header []))
      | some (.table .implied inner) => some (entries.set key (.table .header inner))
      | some _ => none)
    path

/-- Adds a table to the array of tables of a header in double brackets. -/
def Entries.openElement? (path : List String) (key : String) : Origin → Entries → Option Entries :=
  Entries.changeAt? .byHeader
    (fun _ entries =>
      match entries.get? key with
      | none => some (entries.push key (.tables [[]]))
      | some (.tables elements) => some (entries.set key (.tables (elements ++ [[]])))
      | some _ => none)
    path

end Backlog.Toml
