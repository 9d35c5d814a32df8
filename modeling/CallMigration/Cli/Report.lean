import CallMigration.Cli.Sources
import CallMigration.Commit
import CallMigration.Config.Decode
import CallMigration.Text.LineDiff
import CallMigration.Workspace

/-!
# What a run prints
-/

namespace CallMigration.Cli

/-- Why a run fails. -/
inductive Failure where
  | config (e : ConfigError)
  | sources (e : SourceError)
  | parse (e : ParseError)
  | revision (e : RevisionError)
  | workspace (e : WorkspaceError)
  | write (e : WriteError)
deriving DecidableEq, Repr

namespace Failure

/-- The text of a failure. -/
def message : Failure → String
  | config e => e.message
  | sources e => e.message
  | parse e => e.message
  | revision e => e.message
  | workspace e => e.message
  | write e => e.message

/-- The text of what is behind a failure. -/
def cause? : Failure → Option String
  | config e => e.cause?
  | sources e => e.cause?
  | parse (.unreadable _ reason) => some reason
  | parse _ => none
  | revision e => e.cause?
  | workspace e => e.cause?
  | write e => e.cause?

/-- Whether the printed text ends with the message. What is wrong with a document is
told by its reader and not here. -/
def isCut : Failure → Bool
  | config (.malformed _) => true
  | _ => false

/-- What is printed about a failure: its text, then what is behind it, indented. -/
def report (f : Failure) : String :=
  if f.isCut then "Error: " ++ f.message
  else
    "Error: " ++ f.message ++ "\n" ++
      match f.cause? with
      | none => ""
      | some cause => "\nCaused by:\n    " ++ "\n    ".intercalate (Text.split '\n' cause) ++ "\n"

end Failure

/-- The revision of one file, with its replacements. -/
def reportRevision (verb : String) (r : Revision) : String :=
  s!"✓ {r.path.text}: {verb} {r.edits.length} call(s)\n" ++
    String.join (r.edits.map fun e => s!"  {e.location.render}  {e.before} → {e.after}\n")

/-- Every line of a file before and after. -/
def reportDiff (r : Revision) : String :=
  s!"\n--- {r.path.text} (original)\n+++ {r.path.text} (rewritten)\n" ++
    LineDiff.render r.source r.revised

/-- A replacement as a record, at its indentation. -/
def editRecord (e : AppliedEdit) : String :=
  "      \x7b\n" ++ s!"        \"line\": {e.location.line},\n" ++
    s!"        \"column\": {e.location.column},\n" ++
    "        \"before\": " ++ Text.literal e.before ++ ",\n" ++
    "        \"after\": " ++ Text.literal e.after ++ "\n      \x7d"

/-- A list in brackets, its items on lines of their own. -/
def bracketed (indent : String) (items : List String) : String :=
  if items.isEmpty then "[]" else "[\n" ++ ",\n".intercalate items ++ "\n" ++ indent ++ "]"

/-- A revision as a record. -/
def revisionRecord (r : Revision) : String :=
  "  \x7b\n    \"path\": " ++ Text.literal r.path.text ++ ",\n    \"edits\": " ++
    bracketed "    " (r.edits.map editRecord) ++ "\n  \x7d"

/-- All revisions as records. -/
def revisionRecords (rs : List Revision) : String :=
  bracketed "" (rs.map revisionRecord) ++ "\n"

/-- What is printed after a check. -/
def reportCheck (scanned : Nat) (rs : List Revision) : String :=
  String.join (rs.map (reportRevision "would rewrite")) ++
    (if rs.isEmpty then s!"✓ {scanned} file(s) up to date\n"
     else s!"\n✗ {rs.length} file(s) need rewriting\n")

/-- What is printed about a write that was not needed. -/
def reportAlready : WriteResult → String
  | .applied .. => ""
  | .alreadyApplied file => s!"⊙ {file.text}: already rewritten\n"

/-- Whether a write was made. -/
def isApplied : WriteResult → Bool
  | .applied .. => true
  | .alreadyApplied _ => false

/-- The last lines of a run; the results are left out when nothing was to be written. -/
def summary (scanned : Nat) (rs : List Revision) (results : Option (List WriteResult)) : String :=
  let calls := (rs.map fun r => r.edits.length).foldl (· + ·) 0
  s!"\nSummary:\n  {scanned} file(s) scanned\n  {calls} call(s) in {rs.length} file(s)\n" ++
    match results with
    | none => ""
    | some results =>
        let written := results.countP isApplied
        s!"  {written} written\n  {results.length - written} already rewritten\n"

end CallMigration.Cli
