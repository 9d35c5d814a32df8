import CallMigration.PathName
import CallMigration.Syntax.Tree

/-!
# Source files

A source file is a text with its path, its dialect and its syntax tree. How a
text is parsed is given from outside as a `Grammar`; a file whose tree holds a
syntax error is refused.
-/

namespace CallMigration

/-- The flavour of the language a file is written in. -/
inductive Dialect where
  | typeScript
  /-- TypeScript with embedded markup. -/
  | tsx
deriving DecidableEq, Repr, Inhabited

namespace Dialect

/-- The dialect that a file extension stands for. -/
def ofPath? (path : PathName) : Option Dialect :=
  match path.extension? with
  | some "ts" | some "mts" | some "cts" | some "js" | some "mjs" | some "cjs" =>
      some .typeScript
  | some "tsx" | some "jsx" => some .tsx
  | _ => none

end Dialect

/-- The parser of the language: the tree of a text in a dialect. -/
abbrev Grammar := Dialect → String → Tree

/-- The parser given by texts whose trees are known. Any other text is one error. -/
def Grammar.ofKnown (known : List (Dialect × String × Tree)) : Grammar := fun dialect text =>
  match known.find? fun k => k.1 == dialect && k.2.1 == text with
  | some k => k.2.2
  | none => .node ⟨"ERROR", true, false, ⟨0, text.utf8ByteSize⟩, []⟩ []

/-- Whether a file name is that of a declaration file: `.d.ts`, `.d.mts`, `.d.cts`,
or `base.d.ext.ts` with a non-empty base and one extension. -/
def isDeclarationName (name : String) : Bool :=
  Text.endsWith ".d.ts" name || Text.endsWith ".d.mts" name || Text.endsWith ".d.cts" name ||
    match (Text.dropEnding? ".ts" name).bind fun stem =>
        Text.splitAround? ".d.".toList stem.toList with
    | some (base, extension) =>
        !base.isEmpty && !extension.isEmpty && !extension.contains '.'
    | none => false

/-- Whether a path names a file of declarations only. -/
def PathName.isDeclaration (path : PathName) : Bool :=
  match path.fileName? with
  | some name => isDeclarationName name
  | none => false

/-- Why a file cannot be loaded. -/
inductive ParseError where
  | unsupportedExtension (path : PathName)
  /-- The first error of the tree and how many there are. -/
  | syntaxError (path : PathName) (location : Location) (span : Span) (count : Nat)
  /-- The file could not be read. -/
  | unreadable (path : PathName) (reason : String)
deriving DecidableEq, Repr

namespace ParseError

/-- The text of an error. -/
def message : ParseError → String
  | unsupportedExtension path => s!"unsupported source file extension: {path.text}"
  | syntaxError path l s n =>
      s!"syntax error in {path.text}:{l.line}:{l.column} " ++
        s!"(byte {s.start}..{s.stop}, {n} ERROR nodes)"
  | unreadable path reason => s!"I/O error reading {path.text}: {reason}"

end ParseError

/-- A parsed file. -/
structure SourceFile where
  /-- Which load the file belongs to. Files of two loads differ even when they
  hold the same text under the same path. -/
  load : Nat
  path : PathName
  text : String
  dialect : Dialect
  tree : Tree
deriving Repr, Inhabited

namespace SourceFile

/-- Whether the file holds declarations only. -/
def isDeclaration (f : SourceFile) : Bool := f.path.isDeclaration

/-- Whether the file has its own top-level scope. -/
def isModule (f : SourceFile) : Bool := f.tree.isModule

/-- Whether two files are the same file of the same load. -/
def same (f g : SourceFile) : Bool :=
  f.load == g.load && f.path.same g.path

/-- The first syntax error of a tree, as an error of the file. -/
def syntaxFault? (path : PathName) (text : String) (tree : Tree) : Option ParseError :=
  if tree.hasFault then
    match tree.faults with
    | [] => none
    | first :: rest =>
        some (.syntaxError path (Location.ofOffset text first.start) first (rest.length + 1))
  else none

/-- Parse a text as the contents of `path`. -/
def parse (grammar : Grammar) (load : Nat) (path : PathName) (text : String) :
    Except ParseError SourceFile :=
  match Dialect.ofPath? path with
  | none => .error (.unsupportedExtension path)
  | some dialect =>
      let tree := grammar dialect text
      match syntaxFault? path text tree with
      | some fault => .error fault
      | none => .ok { load, path, text, dialect, tree }

end SourceFile

end CallMigration
