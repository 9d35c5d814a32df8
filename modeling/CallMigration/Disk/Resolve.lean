import CallMigration.Disk.Basic

/-!
# From path names to places

A path name is followed piece by piece from the root or the working directory.
Links are followed, at most forty of them.
-/

namespace CallMigration.Disk

/-- How many links are followed on the way to a place. -/
def maxLinks : Nat := 40

/-- The pieces of a path name. A slash at the end asks for a directory, like `.`. -/
def pieces (path : PathName) : List String :=
  let names := (Text.split '/' path.text).filter (· ≠ "")
  if Text.endsWith "/" path.text then names ++ ["."] else names

/-- How far a walk came: to a place, or to a link with pieces still to follow. -/
inductive Walk where
  | arrived (place : Place)
  | atLink (directory : Place) (target : PathName) (rest : List String)

/-- Follow pieces from a place up to the first link. Nothing needs to stand where the
last piece leads. -/
def walk (d : Disk) : Place → List String → Except DiskError Walk
  | here, [] => .ok (.arrived here)
  | here, piece :: rest =>
      if !d.isDirectory here then .error .notDirectory
      else if piece = "." then walk d here rest
      else if piece = ".." then walk d here.dropLast rest
      else
        match d.entry? (here ++ [piece]) with
        | some (.link target) => .ok (.atLink here target rest)
        | some _ => walk d (here ++ [piece]) rest
        | none => if rest.isEmpty then .ok (.arrived (here ++ [piece])) else .error .notFound

/-- Where a path name starts. -/
def startOf (directory : Place) (path : PathName) : Place :=
  if Text.startsWith "/" path.text then [] else directory

/-- Follow pieces and links; the first argument counts the walks that are left. -/
def follow (d : Disk) : Nat → Place → List String → Except DiskError Place
  | 0, _, _ => .error .tooManyLinks
  | walks + 1, here, ps =>
      match d.walk here ps with
      | .error e => .error e
      | .ok (.arrived place) => .ok place
      | .ok (.atLink directory target rest) =>
          if target.text = "" then .error .notFound
          else follow d walks (startOf directory target) (pieces target ++ rest)

/-- The place to which a path name leads, all links followed. Its directory is there,
but the place itself may be free. -/
def locate (d : Disk) (path : PathName) : Except DiskError Place :=
  if path.text = "" then .error .notFound
  else d.follow (maxLinks + 1) (startOf d.workingDirectory path) (pieces path)

/-- The place that a path name stands for, all links followed. -/
def resolve (d : Disk) (path : PathName) : Except DiskError Place := do
  let place ← d.locate path
  if (d.entry? place).isSome then .ok place else .error .notFound

/-- The absolute path name without links of what a path name stands for. -/
def canonicalize (d : Disk) (path : PathName) : Except DiskError PathName :=
  (d.resolve path).map pathName

/-- What a path name stands for, links followed. -/
def entryAt? (d : Disk) (path : PathName) : Option Entry :=
  match d.resolve path with
  | .ok place => d.entry? place
  | .error _ => none

/-- Whether a path name stands for anything. -/
def isPresent (d : Disk) (path : PathName) : Bool := (d.entryAt? path).isSome

/-- Whether a path name stands for a file. -/
def isFile (d : Disk) (path : PathName) : Bool :=
  match d.entryAt? path with
  | some (.file ..) => true
  | _ => false

/-- The place of the directory entry that a path name names; a link at the end is
not followed. -/
def entryPlace (d : Disk) (path : PathName) : Except DiskError Place :=
  match path.fileName? with
  | none => d.resolve path
  | some name => do
      let parent := path.parent?.getD ⟨""⟩
      let directory ← d.resolve (if parent.text = "" then ⟨"."⟩ else parent)
      if d.isDirectory directory then .ok (directory ++ [name]) else .error .notDirectory

/-! ## Reading -/

/-- The bytes of a file. -/
def readBytes (d : Disk) (path : PathName) : Except DiskError ByteArray := do
  let place ← d.resolve path
  match d.entry? place with
  | some (.file contents _) => .ok contents
  | some (.directory _) => .error .isDirectory
  | _ => .error .notFound

/-- The text of a file. -/
def readText (d : Disk) (path : PathName) : Except DiskError String := do
  let contents ← d.readBytes path
  match String.fromUTF8? contents with
  | some text => .ok text
  | none => .error .notText

/-- The permissions of what a path name stands for. -/
def mode? (d : Disk) (path : PathName) : Option Nat :=
  match d.entryAt? path with
  | some (.file _ mode) => some mode
  | some (.directory mode) => some mode
  | _ => none

/-! ## Writing -/

/-- Whether a step of writing a place fails. -/
def fails (d : Disk) (place : Place) (step : WriteStep) : Bool :=
  d.faults.contains (place, step)

/-- Put a new file at a path name in one step: the contents are written beside it, take
over the permissions, and then take its place. A link at the end of the path is
replaced. A step that fails leaves the disk as it was. -/
def replaceFile (d : Disk) (path : PathName) (contents : ByteArray) : Except DiskError Disk := do
  let place ← d.entryPlace path
  if d.fails place .create || d.fails place .permissions || d.fails place .rename then
    .error .denied
  else .ok (d.set place (.file contents ((d.mode? path).getD scratchMode)))

end CallMigration.Disk
