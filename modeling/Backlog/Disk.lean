/-!
# Files

A file system as far as the settings need one: files with their bytes under paths,
and directories that are there because something is in them or because they were
made.  A path that a file stands in the way of cannot be made a directory.
-/

namespace Backlog

/-- A path from the root, as its names in order. -/
abbrev Path : Type := List String

/-- Files and directories. -/
structure Disk where
  files : List (Path × List UInt8)
  directories : List Path
deriving DecidableEq

namespace Disk

/-- A disk without files. -/
def empty : Disk := ⟨[], []⟩

/-- The bytes of a file. -/
def read? (d : Disk) (path : Path) : Option (List UInt8) :=
  (d.files.find? (·.1 = path)).map (·.2)

/-- Whether something stands under a path. -/
def isThere (d : Disk) (path : Path) : Bool :=
  d.files.any (fun f => path.isPrefixOf f.1) || d.directories.any (fun p => path.isPrefixOf p)

/-- Whether a path is that of a directory. -/
def isDirectory (d : Disk) (path : Path) : Bool :=
  path.isEmpty || (d.isThere path && !d.files.any (·.1 = path))

/-- The path that a text names: names with slashes between them, from the root if
    it begins with a slash and else from `start`.  Whatever a slash follows has to
    be a directory; a point stands for it and two points for the one above it. -/
def resolve? (d : Disk) (start : Path) (text : String) : Option Path :=
  (text.splitOn "/").foldlM (fun path name =>
    if !d.isDirectory path then none
    else if name = "" ∨ name = "." then some path
    else if name = ".." then some path.dropLast
    else some (path ++ [name]))
    (if text.startsWith "/" then [] else start)

/-- Makes a directory and those above it.  A file in the way prevents that. -/
def makeDirectory? (d : Disk) (path : Path) : Option Disk :=
  if d.files.any fun f => f.1.isPrefixOf path then none
  else some { d with directories := d.directories ++ [path] }

/-- Writes a file in a directory that is there.  What it held before is gone.  A
    directory cannot be written. -/
def write? (d : Disk) (path : Path) (bytes : List UInt8) : Option Disk :=
  if d.isDirectory path then none
  else some { d with files := (path, bytes) :: d.files.filter (·.1 ≠ path) }

/-! ## Laws -/

theorem read?_of_write? {d e : Disk} {path : Path} {bytes : List UInt8}
    (h : d.write? path bytes = some e) : e.read? path = some bytes := by
  unfold write? at h
  split at h
  · cases h
  · cases h; simp [read?]

end Disk

end Backlog
