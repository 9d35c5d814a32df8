import CallMigration.Syntax.Node
import CallMigration.Text.Quoted

/-!
# Diagnostic forms

One-line descriptions of files and nodes.
-/

namespace CallMigration

/-- The name of a dialect in a description. -/
def Dialect.describe : Dialect → String
  | typeScript => "TypeScript"
  | tsx => "Tsx"

/-- The description of a file. -/
def SourceFile.describe (f : SourceFile) : String :=
  "SourceFile \x7b path: " ++ Text.diagnostic f.path.text ++ ", dialect: " ++ f.dialect.describe ++
    s!", len: {f.text.utf8ByteSize}, is_declaration: {f.isDeclaration} \x7d"

/-- The description of a node. -/
def Node.describe (n : Node) : String :=
  "SyntaxNode \x7b kind: " ++ Text.diagnostic n.kind ++
    s!", span: {n.span.start}..{n.span.stop}, file: " ++ Text.diagnostic n.file.path.text ++ " \x7d"

end CallMigration
