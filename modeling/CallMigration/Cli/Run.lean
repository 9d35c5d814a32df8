import CallMigration.Cli.Arguments
import CallMigration.Cli.Report
import CallMigration.Disk.Load

/-!
# Runs

A run reads the settings and the sources, revises everything in memory, and only then
checks and writes its targets. It ends with an exit code, what it printed, and the
disk it leaves.
-/

namespace CallMigration.Cli

/-- How a run ends. -/
structure Ending where
  disk : Disk
  code : Nat
  output : String
  errors : String

namespace Ending

/-- A run that fails after printing `output`. -/
def failed (d : Disk) (output : String) (f : Failure) : Ending := ⟨d, 1, output, f.report⟩

end Ending

/-- What a run starts from. -/
structure Preparation where
  settings : Settings
  sources : List PathName

/-- The absolute path of the working directory. -/
def workingPath (d : Disk) : PathName := Disk.pathName d.workingDirectory

/-- Find the settings, then the sources. -/
def prepare (d : Disk) (paths : List PathName) (config : Option PathName) :
    Except Failure Preparation :=
  match Config.discover d config (workingPath d) with
  | .error e => .error (.config e)
  | .ok settings =>
      match collect d paths with
      | .error e => .error (.sources e)
      | .ok sources => .ok ⟨settings, sources⟩

/-- Revise the sources in memory. -/
def revise (d : Disk) (grammar : Grammar) (p : Preparation) : Except Failure (List Revision) :=
  match Program.load d grammar p.settings.options p.sources with
  | .error e => .error (.parse e)
  | .ok program =>
      match Revision.ofProgram (p.settings.transform program) program with
      | .error e => .error (.revision e)
      | .ok revisions => .ok revisions

/-- The write of a revision to its real path inside the workspace. -/
def target (d : Disk) (w : Workspace) (r : Revision) : Except WorkspaceError FileWrite :=
  match w.validate d ((workingPath d).join r.path) with
  | .error e => .error e
  | .ok real => .ok (.ofTexts real r.source r.revised)

/-- Check all targets, then write them. -/
def commit (d : Disk) (root : PathName) (rs : List Revision) :
    Disk × Except Failure (List WriteResult) :=
  if rs.isEmpty then (d, .ok [])
  else
    match Workspace.ofRoot d root with
    | .error e => (d, .error (.workspace e))
    | .ok w =>
        match rs.mapM (target d w) with
        | .error e => (d, .error (.workspace e))
        | .ok writes =>
            match FileWrite.applyBatch d writes with
            | (d, .error e) => (d, .error (.write e))
            | (d, .ok results) => (d, .ok results)

/-- What is printed before anything is written. -/
def announce (sources : Nat) (dryRun diff : Bool) (rs : List Revision) : String :=
  s!"Processing {sources} file(s)\n" ++
    (if dryRun then "  [DRY RUN - showing what would be rewritten]\n" else "") ++
    String.join (rs.map fun r =>
      reportRevision (if dryRun then "would rewrite" else "rewriting") r ++
        (if diff then reportDiff r else ""))

/-- Revise files in place. -/
def runApply (d : Disk) (grammar : Grammar) (paths : List PathName) (config root : Option PathName)
    (dryRun diff : Bool) : Ending :=
  match prepare d paths config with
  | .error f => .failed d "" f
  | .ok p =>
      let scanned := p.sources.length
      match revise d grammar p with
      | .error f => .failed d s!"Processing {scanned} file(s)\n" f
      | .ok rs =>
          let output := announce scanned dryRun diff rs
          if dryRun then ⟨d, 0, output ++ summary scanned rs none, ""⟩
          else
            match commit d (root.getD (workingPath d)) rs with
            | (d, .error f) => .failed d output f
            | (d, .ok results) =>
                ⟨d, 0, output ++ String.join (results.map reportAlready) ++
                  summary scanned rs (some results), ""⟩

/-- Report the files that would change. -/
def runCheck (d : Disk) (grammar : Grammar) (paths : List PathName) (config : Option PathName)
    (json : Bool) : Ending :=
  match prepare d paths config with
  | .error f => .failed d "" f
  | .ok p =>
      match revise d grammar p with
      | .error f => .failed d "" f
      | .ok rs =>
          let output := if json then revisionRecords rs else reportCheck p.sources.length rs
          ⟨d, if rs.isEmpty then 0 else 1, output, ""⟩

/-- Carry out a command. -/
def Command.run (d : Disk) (grammar : Grammar) : Command → Ending
  | .apply paths config root dryRun diff => runApply d grammar paths config root dryRun diff
  | .check paths config json => runCheck d grammar paths config json

/-- The name and version of the program. -/
def versionText : String := "ts-rewrite 0.1.0\n"

/-- Run a list of arguments on a disk. Arguments that make no sense end with code 2. -/
def run (d : Disk) (grammar : Grammar) (arguments : List String) : Ending :=
  match Command.parse arguments with
  | .error .usage => ⟨d, 2, "", ""⟩
  | .error .version => ⟨d, 0, versionText, ""⟩
  | .ok command => command.run d grammar

end CallMigration.Cli
