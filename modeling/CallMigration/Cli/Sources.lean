import CallMigration.Disk.Visit
import CallMigration.Source

/-!
# The sources of a run

A path that is a file stands for itself. A directory stands for the files with a
supported extension that are visited from it; links, `node_modules` and hidden
directories below it are not entered. The sources are sorted and each is listed once.
-/

namespace CallMigration.Cli

/-- Why the sources of a run are not known. -/
inductive SourceError where
  /-- The path stands for nothing. -/
  | missing (path : PathName)
  | visit (e : VisitError)
deriving DecidableEq, Repr

namespace SourceError

/-- The text of an error. -/
def message : SourceError → String
  | missing path => s!"No such file or directory: {path.text}"
  | visit e => e.message

/-- The text of what is behind an error. -/
def cause? : SourceError → Option String
  | missing _ => none
  | visit e => some e.cause.message

end SourceError

/-- Whether a directory of this name is passed over. -/
def isSkipped (name : String) : Bool :=
  name == "node_modules" || Text.startsWith "." name

/-- Whether an entry is visited: what a path stands for, whatever is no directory, and
directories that are not passed over. -/
def isVisited (v : Visit) : Bool :=
  if v.depth == 0 || !v.isDirectory then true else !isSkipped v.name

/-- Whether a visit found a source. -/
def isSource (v : Visit) : Bool :=
  v.isFile && (Dialect.ofPath? v.path).isSome

/-- The sources that one path stands for. -/
def sourcesOf (d : Disk) (path : PathName) : Except SourceError (List PathName) :=
  if d.isFile path then .ok [path]
  else if !d.isPresent path then .error (.missing path)
  else
    match (d.visits isVisited path).mapM id with
    | .error e => .error (.visit e)
    | .ok found => .ok ((found.filter isSource).map (·.path))

/-- Put a path in front of a list, unless the list starts with the same path: then the
new one takes the place of the old. -/
def consDistinct (p : PathName) : List PathName → List PathName
  | [] => [p]
  | q :: rest => if p.same q then p :: rest else p :: q :: rest

/-- The list without neighbours that are the same path; the first of them stays. -/
def dropRepeated (ps : List PathName) : List PathName := ps.foldr consDistinct []

/-- The sources of a run: those of the given paths, or of the working directory. The
error is the first that is met. -/
def collect (d : Disk) (paths : List PathName) : Except SourceError (List PathName) := do
  let paths := if paths.isEmpty then [⟨"."⟩] else paths
  let found ← paths.mapM (sourcesOf d)
  .ok (dropRepeated (found.flatten.mergeSort fun p q => p.compare q != .gt))

end CallMigration.Cli
