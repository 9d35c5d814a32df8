import CallMigration.Program
import CallMigration.Scope.Binding

/-!
# From a name to its declaration

A name is looked up in the scopes that enclose its use, innermost first, and then
in the global declarations of the other files: the top level of every script and
the `declare global` blocks of every module. Named imports of relative modules
are followed, through at most eight modules. Order of declaration and shadowing
by time are not taken into account.
-/

namespace CallMigration.Scope

/-- How many modules an imported name is followed through. -/
def maxImportHops : Nat := 8

/-! ## Exports -/

/-- `export { local as name }` without a source: the local name. -/
def exportedLocal? (stmt : Node) (name : String) : Option String :=
  if (stmt.field? "source").isSome then none
  else do
    let clause ← stmt.constructs.find? (·.kind == "export_clause")
    clause.constructs.findSome? fun specifier => do
      let localName ← specifier.field? "name"
      let exported := (specifier.field? "alias").getD localName
      if exported.text == name then some localName.text else none

/-- The export statements of a file. -/
def exportStatements (file : SourceFile) : List Node :=
  file.root.constructs.filter (·.kind == "export_statement")

/-- The value a module exports under a name. -/
def exportedValue? (file : SourceFile) (name : String) : Option Binding :=
  (exportStatements file).findSome? fun stmt =>
    match stmt.field? "declaration" with
    | some decl => statementBinding? decl name
    | none => (exportedLocal? stmt name).bind (declarationsIn? file.root)

/-- The type a module exports under a name: a declaration that is itself exported,
else the local name of an export clause, looked up by `lookup`. -/
def exportedType? (lookup : Node → String → Option Node) (file : SourceFile) (name : String) :
    Option Node :=
  match (exportStatements file).findSome? (typeStatement? · name) with
  | some found => some found
  | none => ((exportStatements file).findSome? (exportedLocal? · name)).bind (lookup file.root)

/-! ## Imports -/

/-- The module a string node specifies. -/
def specifiedModule? (program : Program) (source : Node) : Option SourceFile :=
  (stringValue? source).bind (program.resolveModule source.file)

/-- Follow an imported binding through at most the given number of modules. What
cannot be followed is untyped. -/
def followImport (program : Program) : (hops : Nat) → Binding → Binding
  | 0, .imported _ _ => .untyped
  | hops + 1, .imported source name =>
      match (specifiedModule? program source).bind (exportedValue? · name) with
      | some next => followImport program hops next
      | none => .untyped
  | _, binding => binding

/-- The type declaration of a name among the statements of a container: one made
there, else one imported there, through at most the given number of modules. -/
def typeIn? (program : Program) : (hops : Nat) → (container : Node) → (name : String) → Option Node
  | 0, container, name => container.constructs.findSome? (typeStatement? · name)
  | hops + 1, container, name =>
      match container.constructs.findSome? (typeStatement? · name) with
      | some found => some found
      | none =>
          container.constructs.findSome? fun stmt =>
            if stmt.kind ≠ "import_statement" then none
            else do
              let (source, imported) ← namedImport? stmt name
              let file ← specifiedModule? program source
              exportedType? (fun inner name => typeIn? program hops inner name) file imported

/-! ## Global declarations -/

/-- The body of `declare global { … }`. -/
def globalBlock? (stmt : Node) : Option Node :=
  if stmt.kind == "ambient_declaration" && stmt.hasToken "global" then
    stmt.constructs.find? (·.kind == "statement_block")
  else none

/-- The containers of a file whose declarations are visible everywhere. -/
def globalContainersOf (file : SourceFile) : List Node :=
  if file.isModule then file.root.constructs.filterMap globalBlock? else [file.root]

/-- The containers of global declarations, those of `file` left out. -/
def globalContainers (program : Program) (file : SourceFile) : List Node :=
  (program.otherFiles file).flatMap globalContainersOf

/-! ## Resolution -/

/-- The binding of a value name at a use, before imports are followed. -/
def bindingOf? (program : Program) (use : Node) (name : String) : Option Binding :=
  match use.ancestors.findSome? (valueInScope? · name) with
  | some binding => some binding
  | none => (globalContainers program use.file).findSome? (declarationsIn? · name)

/-- What a value name stands for at a use. -/
def resolveValue? (program : Program) (use : Node) (name : String) : Option Binding :=
  (bindingOf? program use name).map (followImport program maxImportHops)

/-- The alias, interface or class that a type name stands for at a use. -/
def resolveType? (program : Program) (use : Node) (name : String) : Option Node :=
  let enclosing := use.selfAndAncestors.filter (isStatementContainer ·.kind)
  match enclosing.findSome? (typeIn? program maxImportHops · name) with
  | some found => some found
  | none => (globalContainers program use.file).findSome? (typeIn? program maxImportHops · name)

end CallMigration.Scope
