import Backlog.Schedule.Task
import Backlog.Text.Quoted
import Backlog.Time.Fields

/-!
# Descriptions of tasks

A task as one line of text, for whoever looks for a mistake.
-/

namespace Backlog

/-- What remains, in words. -/
def Remaining.describe : Remaining → String
  | pendingRemoval => "PendingRemoval"
  | forever => "Forever"
  | times n => s!"Times({n})"

/-- An owner that a task may have. -/
def OwnerId.describeOption : Option OwnerId → String
  | none => "None"
  | some id => s!"Some(OwnerId({id.number}))"

/-- A task with its fields, but for the callback and the payload. -/
def Task.describe {κ π : Type} (t : Task κ π) : String :=
  let id := toString t.id.number
  let name := Text.quoted t.name
  let interval := toString t.intervalMs.toNat
  let remaining := t.remaining.describe
  let fired := String.ofList t.lastFiredAt.fullText
  let owner := OwnerId.describeOption t.owner
  "ScheduledTask \x7b id: TaskId(" ++ id ++ "), name: " ++ name ++ ", interval_ms: " ++ interval ++
    ", remaining: " ++ remaining ++ ", last_fired_at: " ++ fired ++ ", owner: " ++ owner ++
    ", fire_count: " ++ toString t.fireCount ++ ", .. \x7d"

end Backlog
