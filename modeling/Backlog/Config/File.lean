import Backlog.Config.Text
import Backlog.Disk

/-!
# Settings in a file

Loads settings from a file and saves them to one.  The bytes of a file must be
UTF-8.  Without a file of its own the daemon runs with the usual settings.
-/

namespace Backlog.Config

/-- The settings in the bytes of a file, which are missing if the file cannot be
    read. -/
def ofBytes (bytes : Option (List UInt8)) : Except Error Config :=
  match bytes.bind fun b => String.fromUTF8? ⟨b.toArray⟩ with
  | none => .error (.config .unreadable)
  | some content => parse content

/-- Loads the settings from a file. -/
def loadFrom (disk : Disk) (path : Path) : Except Error Config :=
  ofBytes (disk.read? path)

/-- The file in which the settings are looked for, under somebody's home. -/
def usualPath (home : Path) : Path :=
  home ++ [".chatrelay", "config.toml"]

/-- Loads the settings from their usual file, or the usual settings without it. -/
def load (disk : Disk) (home : Path) : Except Error Config :=
  if disk.isThere (usualPath home) then loadFrom disk (usualPath home) else .ok {}

/-- Saves the settings to a file, making the directories above it.  The disk is
    given back as it is then: a failure may leave directories behind, but writes
    no file. -/
def saveTo (c : Config) (disk : Disk) (path : Path) : Disk × Except Error Unit :=
  match disk.makeDirectory? path.dropLast with
  | none => (disk, .error (.io "Not a directory"))
  | some disk =>
    match c.render with
    | .error e => (disk, .error e)
    | .ok content =>
      match disk.write? path content.toUTF8.toList with
      | none => (disk, .error (.io "Is a directory"))
      | some disk => (disk, .ok ())

end Backlog.Config
