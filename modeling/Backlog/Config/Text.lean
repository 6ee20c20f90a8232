import Backlog.Config.Settings
import Backlog.Toml.Document
import Backlog.Toml.Writer

/-!
# Settings as text

Settings are written as a TOML document with a section for the scheduler and one
for the history.  On reading, what is missing gets its usual value and what is
unknown is ignored, but a value of the wrong type is refused.  A section may also
be an array of its values in order.
-/

namespace Backlog.Config

open Backlog.Toml

/-! ## Values -/

/-- A text. -/
def text? : Value → Option String
  | .string s => some s
  | _ => none

/-- A number without sign. -/
def unsigned? : Value → Option UInt64
  | .integer n => if 0 ≤ n then some (UInt64.ofNat n.toNat) else none
  | _ => none

/-- A number with sign. -/
def signed? : Value → Option Int64
  | .integer n => some (Int64.ofInt n)
  | _ => none

/-! ## Sections -/

/-- The fields of a section: by name, or in order. -/
inductive Section where
  | named (entries : Entries)
  | ordered (items : List Value)

/-- The section that a value stands for.  Other values than tables and arrays are
    no sections, but a date or time passes for one without fields. -/
def Section.ofValue? : Value → Option Section
  | .table _ entries => some (.named entries)
  | .array items => some (.ordered items)
  | .tables elements => some (.ordered (elements.map (.table .header)))
  | .moment _ => some (.named [])
  | _ => none

/-- The section of a name.  A section that is missing has no fields. -/
def Section.get? (root : Entries) (name : String) : Option Section :=
  match root.get? name with
  | none => some (.named [])
  | some value => ofValue? value

/-- The value of a field, which is the one at `place` where fields have no name. -/
def Section.value? (s : Section) (name : String) (place : Nat) : Option Value :=
  match s with
  | named entries => entries.get? name
  | ordered items => items[place]?

/-- A field of a section, or its usual value where it is missing. -/
def Section.field {α : Type} (s : Section) (name : String) (place : Nat)
    (read : Value → Option α) (usual : α) : Option α :=
  match s.value? name place with
  | none => some usual
  | some value => read value

/-! ## Documents -/

/-- The settings in the root table of a document. -/
def ofEntries? (root : Entries) : Option Config := do
  let usual : Config := {}
  let top := Section.named root
  let serverName ← top.field "server_name" 0 text? usual.serverName
  let scheduler ← Section.get? root "scheduler"
  let tickMs ← scheduler.field "tick_ms" 0 unsigned? usual.tickMs
  let history ← Section.get? root "history"
  let backend ← history.field "backend" 0 text? usual.backend
  let maxLines ← history.field "max_lines" 1 unsigned? usual.maxLines
  let maxAgeSecs ← history.field "max_age_secs" 2 unsigned? usual.maxAgeSecs
  let retentionEveryMs ← history.field "retention_every_ms" 3 signed? usual.retentionEveryMs
  let hashBuckets ← history.field "hash_buckets" 4 unsigned? usual.hashBuckets
  some { serverName, tickMs, backend, maxLines, maxAgeSecs, retentionEveryMs, hashBuckets }

/-- The settings of a document, if it is one and the daemon can run with them. -/
def parse (content : String) : Except Error Config :=
  match (Toml.parse? content).bind ofEntries? with
  | none => .error (.config .unparsable)
  | some c => c.validate

/-- A line of a document with a key and its value. -/
def writeLine (key : String) (value : List Char) : List Char :=
  key.toList ++ [' ', '=', ' '] ++ value ++ ['\n']

/-- The header of a section, with a blank line before it. -/
def writeHeader (name : String) : List Char :=
  ['\n', '['] ++ name.toList ++ [']', '\n']

/-- A number without sign as a TOML value, which has to fit a 64-bit word with
    sign. -/
def writeUnsigned? (n : UInt64) : Option (List Char) :=
  if n.toNat ≤ 9223372036854775807 then some (writeInteger n.toNat) else none

/-- The document of the settings, if all numbers fit. -/
def document? (c : Config) : Option (List Char) := do
  let tickMs ← writeUnsigned? c.tickMs
  let maxLines ← writeUnsigned? c.maxLines
  let maxAgeSecs ← writeUnsigned? c.maxAgeSecs
  let hashBuckets ← writeUnsigned? c.hashBuckets
  some (writeLine "server_name" (writeString c.serverName.toList) ++
    writeHeader "scheduler" ++
    writeLine "tick_ms" tickMs ++
    writeHeader "history" ++
    writeLine "backend" (writeString c.backend.toList) ++
    writeLine "max_lines" maxLines ++
    writeLine "max_age_secs" maxAgeSecs ++
    writeLine "retention_every_ms" (writeInteger c.retentionEveryMs.toInt) ++
    writeLine "hash_buckets" hashBuckets)

/-- The document of the settings. -/
def render (c : Config) : Except Error String :=
  match c.document? with
  | none => .error (.config .unserializable)
  | some s => .ok (String.ofList s)

end Backlog.Config
