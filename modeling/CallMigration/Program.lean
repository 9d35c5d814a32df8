import CallMigration.Syntax.Node

/-!
# Programs

A program is the files of one run, parsed, with the options they are checked
under. No two of its files have the same path. Relative module specifiers are
resolved among the files of the program, by path alone.
-/

namespace CallMigration

/-- What type facts depend on besides the files. -/
structure Options where
  /-- Whether `null` and `undefined` are tracked in unions. -/
  strict : Bool
  /-- Names of values that need no declaration. -/
  ambientGlobals : List String
deriving DecidableEq, Repr, Inhabited

namespace Options

/-- Strict, without further globals. -/
def standard : Options := ⟨true, []⟩

end Options

/-- The files of a run. -/
structure Program where
  files : List SourceFile
  options : Options
deriving Repr, Inhabited

namespace Program

/-- Add a source to the files before it, unless its path is there already. -/
def addSource (grammar : Grammar) (load : Nat) (files : List SourceFile)
    (source : PathName × String) : Except ParseError (List SourceFile) :=
  if files.any (·.path.same source.1) then .ok files
  else
    match SourceFile.parse grammar load source.1 source.2 with
    | .ok file => .ok (files ++ [file])
    | .error e => .error e

/-- Parse sources in order. A repeated path keeps its first text, and the first
source that cannot be parsed is the error of the whole. -/
def ofSources (grammar : Grammar) (load : Nat) (options : Options)
    (sources : List (PathName × String)) : Except ParseError Program :=
  match sources.foldlM (addSource grammar load) [] with
  | .ok files => .ok ⟨files, options⟩
  | .error e => .error e

/-- Whether a file belongs to the program. -/
def contains (p : Program) (file : SourceFile) : Bool :=
  p.files.any (·.same file)

/-- The files other than `file`, in order. -/
def otherFiles (p : Program) (file : SourceFile) : List SourceFile :=
  p.files.filter (!·.same file)

/-- The position of a file in the program, if it belongs to it. -/
def indexOf? (p : Program) (file : SourceFile) : Option Nat :=
  p.files.findIdx? (·.same file)

/-! ## Module resolution -/

/-- The path names tried for a target, in order: the target itself, then with each
source extension, then as a directory with an index file. An ending `.js` or
`.jsx` is replaced. -/
def moduleCandidates (target : String) : List PathName :=
  let stem := (Text.dropEnding? ".js" target).getD ((Text.dropEnding? ".jsx" target).getD target)
  [⟨target⟩, ⟨stem ++ ".ts"⟩, ⟨stem ++ ".tsx"⟩, ⟨stem ++ ".d.ts"⟩,
    ⟨stem ++ "/index.ts"⟩, ⟨stem ++ "/index.tsx"⟩, ⟨stem ++ "/index.d.ts"⟩]

/-- The lexical target of a specifier: its path from the importer's directory. -/
def moduleTarget (importer : PathName) (specifier : String) : String :=
  let base := importer.parent?.getD ⟨""⟩
  (PathName.ofComponents (base.join ⟨specifier⟩).normalize).text

/-- The file a relative specifier stands for. Other specifiers stand for none. -/
def resolveModule (p : Program) (importer : SourceFile) (specifier : String) :
    Option SourceFile :=
  if Text.startsWith "./" specifier || Text.startsWith "../" specifier then
    (moduleCandidates (moduleTarget importer.path specifier)).findSome? fun candidate =>
      p.files.find? fun file => file.path.normalize == candidate.components
  else none

end Program

end CallMigration
