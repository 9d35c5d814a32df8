import CallMigration.PathName

/-!
# A disk as a value

A disk maps places to files, directories and links. A place is the list of names
from the root down; links are entries of their own and are followed by
`Disk.resolve`. Some steps of writing may be made to fail, so that what is left
behind by a failed run can be stated.
-/

namespace CallMigration

/-- A place on a disk: the names that lead to it from the root. -/
abbrev Place := List String

/-- What stands at a place. -/
inductive Entry where
  | file (contents : ByteArray) (mode : Nat)
  | directory (mode : Nat)
  | link (target : PathName)
deriving Inhabited

/-- The steps in which a file is put in place. -/
inductive WriteStep where
  /-- The new contents are written beside the file. -/
  | create
  /-- The new file gets the permissions of the old one. -/
  | permissions
  /-- The new file takes the place of the old one. -/
  | rename
deriving DecidableEq, Repr

/-- Why an operation on a disk fails. -/
inductive DiskError where
  | notFound
  | notDirectory
  | isDirectory
  | alreadyExists
  | tooManyLinks
  | denied
  /-- The contents of a file are no text. -/
  | notText
deriving DecidableEq, Repr

namespace DiskError

/-- The text of an error. -/
def message : DiskError → String
  | notFound => "No such file or directory (os error 2)"
  | notDirectory => "Not a directory (os error 20)"
  | isDirectory => "Is a directory (os error 21)"
  | alreadyExists => "File exists (os error 17)"
  | tooManyLinks => "Too many levels of symbolic links (os error 40)"
  | denied => "Permission denied (os error 13)"
  | notText => "stream did not contain valid UTF-8"

end DiskError

/-- A disk, with the directory in which relative paths start. -/
structure Disk where
  entries : List (Place × Entry)
  workingDirectory : Place
  /-- Steps that fail, by the place that is written. -/
  faults : List (Place × WriteStep)

namespace Disk

/-- The permissions of a new file, and of a new directory. -/
def newFileMode : Nat := 0o644

def newDirectoryMode : Nat := 0o755

/-- The permissions of a file that is written beside another one. -/
def scratchMode : Nat := 0o600

/-- What stands at a place. The root is a directory. -/
def entry? (d : Disk) (place : Place) : Option Entry :=
  if place = [] then some (.directory newDirectoryMode) else d.entries.lookup place

/-- Whether a directory stands at a place. -/
def isDirectory (d : Disk) (place : Place) : Bool :=
  match d.entry? place with
  | some (.directory _) => true
  | _ => false

/-- Put an entry at a place, instead of one that is there. -/
def setEntry (place : Place) (e : Entry) : List (Place × Entry) → List (Place × Entry)
  | [] => [(place, e)]
  | (p, old) :: rest =>
      if p = place then (place, e) :: rest else (p, old) :: setEntry place e rest

/-- The disk with an entry at a place. -/
def set (d : Disk) (place : Place) (e : Entry) : Disk :=
  { d with entries := setEntry place e d.entries }

/-- The absolute path name of a place. -/
def pathName (place : Place) : PathName := ⟨"/" ++ "/".intercalate place⟩

end Disk

end CallMigration
