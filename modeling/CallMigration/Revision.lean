import CallMigration.Checker.Outcome
import CallMigration.Printing.Print
import CallMigration.Program
import CallMigration.Text.Overlay

/-!
# Revising files

A transform is offered the constructs of a file, parents before children and in
source order. A construct that it replaces is not entered, so replacements never
nest. The first node that fails ends the run.
-/

namespace CallMigration

/-- A decision per node: replace it, keep it and go on inside, or fail. -/
abbrev Transform := Node → Except TypeQueryError (Option Fragment)

/-- Why a file cannot be revised. -/
inductive RevisionError where
  | typeQuery (path : PathName) (location : Location) (cause : TypeQueryError)
  | render (path : PathName) (location : Location) (cause : RenderError)
  | overlay (path : PathName) (location : Location) (cause : OverlayError)
  /-- Files of declarations are never revised. -/
  | declarationFile (path : PathName)
deriving DecidableEq, Repr

namespace RevisionError

/-- The text of the wrapped error, if there is one. -/
def cause? : RevisionError → Option String
  | typeQuery _ _ e => some e.message
  | render _ _ e => some e.message
  | overlay _ _ e => some e.message
  | declarationFile _ => none

/-- The text of an error. -/
def message : RevisionError → String
  | typeQuery path l e => s!"type query failed at {path.text}:{l.render}: {e.message}"
  | render path l e => s!"cannot render replacement at {path.text}:{l.render}: {e.message}"
  | overlay path l e => s!"conflicting edit at {path.text}:{l.render}: {e.message}"
  | declarationFile path => s!"refusing to rewrite declaration file {path.text}"

end RevisionError

/-- One replacement, as it is reported. -/
structure AppliedEdit where
  location : Location
  before : String
  after : String
deriving DecidableEq, Repr, Inhabited

/-- A file's text before and after, with the replacements in source order. -/
structure Revision where
  path : PathName
  source : String
  revised : String
  edits : List AppliedEdit
deriving DecidableEq, Repr, Inhabited

namespace Revision

/-- Whether the text is another one. -/
def isChanged (r : Revision) : Bool := r.source != r.revised

/-! ## Decisions -/

/-- What is registered so far. -/
structure Draft where
  overlay : Overlay
  edits : List AppliedEdit

/-- Register one replacement. -/
def Draft.replace (d : Draft) (n : Node) (f : Fragment) : Except RevisionError Draft :=
  match f.print n with
  | .error e => .error (.render n.file.path n.location e)
  | .ok text =>
      match d.overlay.overwrite ⟨n.span, text⟩ with
      | .error e => .error (.overlay n.file.path n.location e)
      | .ok overlay => .ok ⟨overlay, d.edits ++ [⟨n.location, n.text, text⟩]⟩

/-- Carry out the decision about one node. -/
def Draft.settle (transform : Transform) (d : Draft) (n : Node) : Except RevisionError Draft :=
  match transform n with
  | .error e => .error (.typeQuery n.file.path n.location e)
  | .ok none => .ok d
  | .ok (some f) => d.replace n f

/-- The nodes to offer because `n` was: its constructs, when it is kept. -/
def entered (transform : Transform) (n : Node) : List Node :=
  match transform n with
  | .ok none => n.constructs
  | _ => []

theorem sizeIn_entered_lt (transform : Transform) (n : Node) :
    Tree.sizeIn ((entered transform n).map (·.tree)) < n.tree.size := by
  unfold entered
  split
  · exact n.sizeIn_constructs_lt
  · exact n.tree.size_pos

/-! ## Runs -/

/-- What was offered, and what came of it. -/
structure Run (α : Type) where
  offered : List Node
  result : Except RevisionError α

/-- Offer the nodes of a stack, the topmost first, up to the first that fails. The
constructs of a kept node go on top of the stack, in source order. -/
def walk (transform : Transform) : List Node → Draft → Run Draft
  | [], d => ⟨[], .ok d⟩
  | n :: stack, d =>
      match d.settle transform n with
      | .error e => ⟨[n], .error e⟩
      | .ok d =>
          let run := walk transform (entered transform n ++ stack) d
          ⟨n :: run.offered, run.result⟩
termination_by stack => Tree.sizeIn (stack.map (·.tree))
decreasing_by
  have hlt := sizeIn_entered_lt transform n
  rw [List.map_append, Tree.sizeIn_append, List.map_cons, Tree.sizeIn]
  exact Nat.add_lt_add_right hlt _

/-- Run a transform over one file. -/
def runFile (transform : Transform) (file : SourceFile) : Run Revision :=
  if file.isDeclaration then ⟨[], .error (.declarationFile file.path)⟩
  else
    let run := walk transform [file.root] ⟨Overlay.ofText file.text, []⟩
    ⟨run.offered, match run.result with
      | .ok d => .ok ⟨file.path, file.text, d.overlay.finalize, d.edits⟩
      | .error e => .error e⟩

/-- Run a transform over files in order, declaration files left out. Only changed
files are kept. -/
def runFiles (transform : Transform) : List SourceFile → Run (List Revision)
  | [] => ⟨[], .ok []⟩
  | file :: rest =>
      if file.isDeclaration then runFiles transform rest
      else
        let first := runFile transform file
        match first.result with
        | .error e => ⟨first.offered, .error e⟩
        | .ok revision =>
            let others := runFiles transform rest
            ⟨first.offered ++ others.offered, match others.result with
              | .error e => .error e
              | .ok revisions =>
                  .ok (if revision.isChanged then revision :: revisions else revisions)⟩

/-- The revision of one file. -/
def ofFile (transform : Transform) (file : SourceFile) : Except RevisionError Revision :=
  (runFile transform file).result

/-- The revisions of the changed files of a program. -/
def ofProgram (transform : Transform) (program : Program) : Except RevisionError (List Revision) :=
  (runFiles transform program.files).result

end Revision

end CallMigration
