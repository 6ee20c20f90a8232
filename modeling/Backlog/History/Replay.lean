import Backlog.History.Line

/-!
# Replay

What a recipient is sent when lines are replayed to it.  A recipient that
understands batches gets them framed:

```text
:server BATCH +id chathistory target
@batch=id;time=... line                  (one per stored line)
:server BATCH -id
```
-/

namespace Backlog

/-- What a recipient understands. -/
structure Recipient where
  serverTime : Bool
  batch : Bool
deriving DecidableEq, Repr

/-- One line that is sent, with its tags if it has any. -/
structure Sent where
  tags : Option TagSet
  text : String
deriving DecidableEq

/-- The line on the wire. -/
def Sent.wire (s : Sent) : String :=
  ((s.tags.map TagSet.wireHead).getD "") ++ s.text

namespace Replay

/-- The name of the tag by which lines belong to a batch. -/
def batchTag : String := "batch"

/-- A stored line as it is. -/
def plain (line : Line) : Sent :=
  ⟨some line.tags, line.text⟩

/-- A stored line as a part of a batch. -/
def framed (id : String) (line : Line) : Sent :=
  ⟨some (line.tags.prepend ⟨batchTag, some id⟩), line.text⟩

/-- The line that opens a batch. -/
def opening (server id target : String) : Sent :=
  ⟨none, ":" ++ server ++ " BATCH +" ++ id ++ " chathistory " ++ target⟩

/-- The line that closes a batch. -/
def closing (server id : String) : Sent :=
  ⟨none, ":" ++ server ++ " BATCH -" ++ id⟩

/-- What a recipient is sent for `lines` of a target.  The batch has the name `id`,
    if there is a batch. -/
def send (server id target : String) (recipient : Recipient) (lines : List Line) : List Sent :=
  if recipient.batch then
    opening server id target :: lines.map (framed id) ++ [closing server id]
  else lines.map plain

end Replay

/-! ## Names of batches -/

namespace BatchId

/-- How long the name of a batch is. -/
def length : Nat := 22

/-- The characters that names of batches are made of. -/
def alphabet : List Char :=
  "ABCDEFGHIJKLMNOPQRSTUVWXYZabcdefghijklmnopqrstuvwxyz0123456789".toList

/-- `n` characters drawn at random. -/
def draw (gen : StdGen) : Nat → List Char × StdGen
  | 0 => ([], gen)
  | n + 1 =>
    let (k, gen) := randNat gen 0 (alphabet.length - 1)
    let (rest, gen) := draw gen n
    (alphabet.getD k 'A' :: rest, gen)

/-- The name of a batch, drawn at random. -/
def generate (gen : StdGen) : String × StdGen :=
  let (letters, gen) := draw gen length
  (String.ofList letters, gen)

end BatchId

end Backlog
