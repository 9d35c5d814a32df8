import CallMigration.Cli.Run
import CallMigration.Syntax.Outline

/-!
# The program

The outer layer: it takes a picture of the disk, runs the command on the picture,
prints what the command prints, and writes the files that the command changed. Files
are written in place, so their permissions stay; a file that took the place of a link
is written instead of it.
-/

namespace CallMigration.Main

/-- The place of an absolute path. -/
def placeOf (path : String) : Place := (Text.split '/' path).filter (· ≠ "")

/-- Whether a picture shows a place already. -/
def isPictured (d : Disk) (place : Place) : Bool := (d.entry? place).isSome

/-- The picture with directories above a place. -/
def withParents (d : Disk) (place : Place) : Disk :=
  (List.range place.length).foldl (fun d n =>
    if isPictured d (place.take n) then d
    else d.set (place.take n) (.directory Disk.newDirectoryMode)) d

/-- Picture what stands at a place without links above it, and, when `deep`, what is
below it. Links and directories that a run does not enter are not entered here either.
A link is pictured with the absolute path it leads to, and with what stands there; what
does not exist is left out. -/
partial def picture (deep : Bool) (d : Disk) (place : Place) : IO Disk := do
  let file := System.mkFilePath [(Disk.pathName place).text]
  try
    match (← file.symlinkMetadata).type with
    | .symlink =>
        if isPictured d place then return d
        let target := (← IO.FS.realPath file).toString
        let d := withParents (d.set place (.link ⟨target⟩)) (placeOf target)
        picture false d (placeOf target)
    | .dir =>
        let mut d := if isPictured d place then d
          else d.set place (.directory Disk.newDirectoryMode)
        if deep then
          for entry in ← file.readDir do
            unless Cli.isSkipped entry.fileName && (← entry.path.isDir) do
              d ← picture true d (place ++ [entry.fileName])
        return d
    | .file =>
        if isPictured d place then return d
        return d.set place (.file (← IO.FS.readBinFile file) Disk.newFileMode)
    | .other => return d
  catch _ => return d

/-- Picture every step on the way of an absolute path name, and what is below its end. -/
def pictureWay (d : Disk) (path : PathName) : IO Disk := do
  let mut d := d
  let mut here : Place := []
  for piece in Disk.pieces path do
    if piece = ".." then here := here.dropLast
    else if piece ≠ "." then
      d ← picture false d (here ++ [piece])
      here := match d.entry? (here ++ [piece]) with
        | some (.link target) => placeOf target.text
        | _ => here ++ [piece]
  picture true d here

/-- The picture that a run starts from: the working directory and the named paths. -/
def pictureFor (arguments : List String) : IO Disk := do
  let directory := (← IO.currentDir).toString
  let named := match Cli.Command.parse arguments with
    | .ok command => command.namedPaths
    | .error _ => []
  let start : Disk := ⟨[], placeOf directory, []⟩
  (⟨directory⟩ :: named.map (PathName.join ⟨directory⟩)).foldlM pictureWay start

/-- Write the files whose contents differ between two pictures. -/
def writeChanges (before after : Disk) : IO Unit :=
  for (place, entry) in after.entries do
    match entry, before.entry? place with
    | .file contents _, some (.file old _) =>
        if contents.data ≠ old.data then
          IO.FS.writeBinFile (Disk.pathName place).text contents
    | .file contents _, some (.link _) =>
        IO.FS.removeFile (Disk.pathName place).text
        IO.FS.writeBinFile (Disk.pathName place).text contents
    | _, _ => pure ()

/-- Run the arguments on the disk. -/
def run (arguments : List String) : IO UInt32 := do
  let disk ← pictureFor arguments
  let ending := Cli.run disk (Outline.grammar disk) arguments
  IO.print ending.output
  IO.eprint ending.errors
  writeChanges disk ending.disk
  return ending.code.toUInt32

end CallMigration.Main

/-- The program. -/
def main (arguments : List String) : IO UInt32 := CallMigration.Main.run arguments
