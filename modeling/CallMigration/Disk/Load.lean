import CallMigration.Config.Decode
import CallMigration.Disk.Resolve

/-!
# Programs and settings from a disk
-/

namespace CallMigration

namespace Program

/-- Read one source. -/
def readSource (d : Disk) (path : PathName) : Except ParseError (PathName × String) :=
  match d.readText path with
  | .ok text => .ok (path, text)
  | .error e => .error (.unreadable path e.message)

/-- Read all files, then parse them. The first that cannot be read or parsed is the
error of the whole. -/
def load (d : Disk) (grammar : Grammar) (options : Options) (paths : List PathName) :
    Except ParseError Program := do
  let sources ← paths.mapM (readSource d)
  ofSources grammar 0 options sources

end Program

namespace Config

/-- The name under which a configuration is looked for. -/
def defaultFile : PathName := ⟨"ts-rewrite.toml"⟩

/-- Read the configuration at a path. -/
def loadFile (d : Disk) (path : PathName) : Except ConfigError Settings :=
  match d.readText path with
  | .ok text => load (some path) text
  | .error e => .error (.unreadable path e.message)

/-- The settings of a run: those of the given file, else those of the default file in
`directory`, else the standard ones. -/
def discover (d : Disk) (given : Option PathName) (directory : PathName) :
    Except ConfigError Settings :=
  match given with
  | some path => loadFile d path
  | none =>
      let candidate := directory.join defaultFile
      if d.isFile candidate then loadFile d candidate else .ok Settings.standard

end Config

end CallMigration
