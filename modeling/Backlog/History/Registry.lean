import Backlog.Error
import Backlog.History.Store

/-!
# The registry of backends

The history backends at hand, by name.  A backend goes by one name, and no two
backends by the same.  A backend is handed out by taking it.
-/

namespace Backlog

/-- A backend `β` under its name. -/
structure Backend (β : Type) where
  name : String
  store : β

/-- Backends in the order of their registration. -/
structure Registry (β : Type) where
  backends : List (Backend β)

namespace Registry

variable {β : Type}

/-- A registry without backends. -/
def empty : Registry β := ⟨[]⟩

/-- The backend of a name. -/
def get? (r : Registry β) (name : String) : Option (Backend β) :=
  r.backends.find? (·.name = name)

/-- The names of all backends. -/
def names (r : Registry β) : List String :=
  r.backends.map (·.name)

/-- Registers a backend, whose name must be free. -/
def register (r : Registry β) (backend : Backend β) :
    Outcome (Registry β) (Except Error Unit) :=
  match r.get? backend.name with
  | some _ => ⟨r, .error (.invalidArgument (.duplicateBackend backend.name)), []⟩
  | none => ⟨⟨r.backends ++ [backend]⟩, .ok (), [.backendRegistered backend.name]⟩

/-- Takes the backend of a name out of the registry. -/
def take (r : Registry β) (name : String) : Outcome (Registry β) (Except Error (Backend β)) :=
  match r.get? name with
  | none => ⟨r, .error (.notFound (.backend name)), []⟩
  | some backend => ⟨⟨r.backends.eraseP (·.name = name)⟩, .ok backend, []⟩

end Registry

end Backlog
