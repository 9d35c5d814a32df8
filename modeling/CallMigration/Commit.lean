import CallMigration.Disk.Resolve
import CallMigration.Text.Expectation

/-!
# Guarded writes

A write replaces a whole file, provided that the file still holds what it held when
it was read. A batch checks every file before it writes the first.
-/

namespace CallMigration

/-- The replacement of a file, with what the file is expected to hold. -/
structure FileWrite where
  file : PathName
  expected : Expectation
  contents : String
deriving DecidableEq, Repr

/-- What became of a write. -/
inductive WriteResult where
  | applied (file : PathName) (bytes : Nat)
  /-- The file held the new contents already. -/
  | alreadyApplied (file : PathName)
deriving DecidableEq, Repr

/-- Why a write is not made. -/
inductive WriteError where
  /-- The file holds something else. -/
  | changed (file : PathName)
  | failed (file : PathName) (cause : DiskError)
deriving DecidableEq, Repr

namespace WriteError

/-- The text of an error. -/
def message : WriteError → String
  | changed file => s!"{file.text} changed on disk since it was loaded"
  | failed file cause => s!"File I/O error on {file.text}: {cause.message}"

/-- The text of what is behind an error. -/
def cause? : WriteError → Option String
  | changed _ => none
  | failed _ cause => some cause.message

end WriteError

namespace FileWrite

/-- Replace `source`, which was read from `file`, by `contents`. -/
def ofTexts (file : PathName) (source contents : String) : FileWrite :=
  ⟨file, Expectation.ofText source, contents⟩

/-- Whether the file holds the new contents already; an error when it holds neither
them nor what is expected. -/
def verify (d : Disk) (w : FileWrite) : Except WriteError Bool :=
  match d.readText w.file with
  | .error e => .error (.failed w.file e)
  | .ok current =>
      if current == w.contents then .ok true
      else if w.expected.isMet current then .ok false
      else .error (.changed w.file)

/-- Write without looking. The time stamp that the new file is given afterwards is no part
of a disk, so that it cannot be set is not among the errors. -/
def write (d : Disk) (w : FileWrite) : Except WriteError Disk :=
  match d.replaceFile w.file w.contents.toUTF8 with
  | .ok d => .ok d
  | .error e => .error (.failed w.file e)

/-- What is reported of a write that was made. -/
def appliedResult (w : FileWrite) : WriteResult := .applied w.file w.contents.utf8ByteSize

/-- Verify and write one file. -/
def apply (d : Disk) (w : FileWrite) : Disk × Except WriteError WriteResult :=
  match w.verify d with
  | .error e => (d, .error e)
  | .ok true => (d, .ok (.alreadyApplied w.file))
  | .ok false =>
      match w.write d with
      | .error e => (d, .error e)
      | .ok d => (d, .ok w.appliedResult)

/-- Write the files that do not hold their new contents already, up to the first that
fails. -/
def writeAll (d : Disk) : List (FileWrite × Bool) → Disk × Except WriteError (List WriteResult)
  | [] => (d, .ok [])
  | (w, true) :: rest =>
      let (d, results) := writeAll d rest
      (d, results.map (.alreadyApplied w.file :: ·))
  | (w, false) :: rest =>
      match w.write d with
      | .error e => (d, .error e)
      | .ok d =>
          let (d, results) := writeAll d rest
          (d, results.map (w.appliedResult :: ·))

/-- Verify every file, then write them. A file that fails the verification leaves all
files as they were. -/
def applyBatch (d : Disk) (ws : List FileWrite) : Disk × Except WriteError (List WriteResult) :=
  match ws.mapM (verify d) with
  | .error e => (d, .error e)
  | .ok already => writeAll d (ws.zip already)

end FileWrite

end CallMigration
