import CallMigration.Syntax.Node

/-!
# What declarations bind

Which value or type a statement, pattern, parameter list or import introduces
under a name. Everything here looks down from a node; the way from a use of a
name to its declaration is in `CallMigration.Scope.Resolve`.
-/

namespace CallMigration

/-- What a value name stands for. -/
inductive Binding where
  /-- A variable declarator with a plain name. -/
  | declarator (node : Node)
  /-- A parameter with a plain name, or the bare parameter of `x => …`. -/
  | parameter (node : Node) (optional : Bool)
  /-- A name inside the destructuring pattern of a declarator, parameter or loop. -/
  | destructured (owner pattern : Node)
  /-- The loop variable of `for (const x of xs)`. -/
  | loopVariable (statement : Node)
  /-- A function declaration, signature or named function expression. -/
  | function (node : Node)
  /-- A class; the value is its constructor. -/
  | classValue (node : Node)
  /-- The name `name` of the module that the string node `source` specifies. -/
  | imported (source : Node) (name : String)
  /-- Declared, without a type that is tracked. -/
  | untyped
deriving Repr, Inhabited

namespace Scope

/-- The contents of a string literal node. -/
def stringValue? (n : Node) : Option String :=
  let text := n.text
  if n.kind ≠ "string" ∨ text.utf8ByteSize < 2 then none
  else some (Text.slice text 1 (text.utf8ByteSize - 1))

/-- Whether the child under a field has the given text. -/
def fieldTextIs (n : Node) (field text : String) : Bool :=
  match n.field? field with
  | some child => child.text == text
  | none => false

/-! ## Patterns -/

/-- Whether a binding pattern introduces `name`. A default binds its left side only. -/
def patternBinds (name : String) (pattern : Node) : Bool :=
  pattern.fold fun n below =>
    let follow (b : Option (Node.Branch Bool)) : Bool := (b.map fun b => b.answer ()).getD false
    match n.kind with
    | "identifier" | "shorthand_property_identifier_pattern" => n.text == name
    | "object_pattern" | "array_pattern" | "rest_pattern" =>
        (Node.Branch.constructs below).any fun b => b.answer ()
    | "assignment_pattern" | "object_assignment_pattern" => follow (Node.Branch.field? below "left")
    | "pair_pattern" => follow (Node.Branch.field? below "value")
    | _ => false

/-! ## Imports -/

/-- The child of an import statement that lists what it binds. -/
def importClause? (stmt : Node) : Option Node :=
  stmt.constructs.find? (·.kind == "import_clause")

/-- `import { imported as name } from "source"`: the string node of the source, and
the name the exporting module uses. -/
def namedImport? (stmt : Node) (name : String) : Option (Node × String) := do
  let source ← stmt.field? "source"
  let clause ← importClause? stmt
  let named ← clause.constructs.find? (·.kind == "named_imports")
  named.constructs.findSome? fun specifier => do
    let imported ← specifier.field? "name"
    let bound := (specifier.field? "alias").getD imported
    if bound.text == name && imported.kind == "identifier" then some (source, imported.text)
    else none

/-- What an import statement binds. Default and namespace imports are untyped. -/
def importBinding? (stmt : Node) (name : String) : Option Binding :=
  match namedImport? stmt name with
  | some (source, imported) => some (.imported source imported)
  | none => do
      let clause ← importClause? stmt
      let binds := clause.constructs.any fun item =>
        match item.kind with
        | "identifier" => item.text == name
        | "namespace_import" =>
            match item.firstConstruct? with
            | some ident => ident.text == name
            | none => false
        | _ => false
      if binds then some .untyped else none

/-! ## Statements -/

/-- What the declarators of a declaration bind. -/
def declarationBinding? (decl : Node) (name : String) : Option Binding :=
  decl.constructs.findSome? fun item => do
    if item.kind ≠ "variable_declarator" then none
    else
      let pattern ← item.field? "name"
      if pattern.kind == "identifier" then
        if pattern.text == name then some (.declarator item) else none
      else if patternBinds name pattern then some (.destructured item pattern)
      else none

/-- What a statement binds. With `inAmbient` the node stands directly in an ambient
declaration, where a block lends its statements. -/
def statementBindingIn (name : String) (stmt : Node) : (inAmbient : Bool) → Option Binding :=
  stmt.fold fun n below inAmbient =>
    let named (b : Binding) : Option Binding := if fieldTextIs n "name" name then some b else none
    match n.kind with
    | "statement_block" =>
        if inAmbient then (Node.Branch.constructs below).findSome? fun b => b.answer () false
        else none
    | "lexical_declaration" | "variable_declaration" => declarationBinding? n name
    | "export_statement" =>
        (Node.Branch.field? below "declaration").bind fun b => b.answer () false
    | "ambient_declaration" =>
        (Node.Branch.constructs below).findSome? fun b => b.answer () true
    | "function_declaration" | "generator_function_declaration" | "function_signature" =>
        named (.function n)
    | "class_declaration" | "abstract_class_declaration" => named (.classValue n)
    | "enum_declaration" => named .untyped
    | "import_statement" => importBinding? n name
    | _ => none

/-- What a statement binds. -/
def statementBinding? (stmt : Node) (name : String) : Option Binding :=
  statementBindingIn name stmt false

/-- What the statements of a container bind; the first one counts. -/
def declarationsIn? (container : Node) (name : String) : Option Binding :=
  container.constructs.findSome? (statementBinding? · name)

/-- The type declaration a statement makes, with `inAmbient` as above. -/
def typeStatementIn (name : String) (stmt : Node) : (inAmbient : Bool) → Option Node :=
  stmt.fold fun n below inAmbient =>
    match n.kind with
    | "statement_block" =>
        if inAmbient then (Node.Branch.constructs below).findSome? fun b => b.answer () false
        else none
    | "type_alias_declaration" | "interface_declaration" | "class_declaration"
    | "abstract_class_declaration" => if fieldTextIs n "name" name then some n else none
    | "export_statement" =>
        (Node.Branch.field? below "declaration").bind fun b => b.answer () false
    | "ambient_declaration" =>
        (Node.Branch.constructs below).findSome? fun b => b.answer () true
    | _ => none

/-- The alias, interface or class of a name that a statement declares. -/
def typeStatement? (stmt : Node) (name : String) : Option Node :=
  typeStatementIn name stmt false

/-! ## Scopes -/

/-- Whether the children of a node are statements of one scope. -/
def isStatementContainer (kind : String) : Bool :=
  match kind with
  | "program" | "statement_block" | "switch_case" | "switch_default" | "class_static_block" => true
  | _ => false

/-- What a parameter binds. -/
def parameterBinding? (parameter : Node) (name : String) : Option Binding := do
  if parameter.kind ≠ "required_parameter" ∧ parameter.kind ≠ "optional_parameter" then none
  else
    let pattern ← parameter.field? "pattern"
    if pattern.kind == "identifier" && pattern.text == name then
      some (.parameter parameter (parameter.kind == "optional_parameter"))
    else if patternBinds name pattern then some (.destructured parameter pattern)
    else none

/-- What a function binds inside itself: its parameters, then the own name of a
function expression. -/
def functionScope? (scope : Node) (name : String) : Option Binding :=
  let bare := do
    let parameter ← scope.field? "parameter"
    if parameter.text == name then some (Binding.parameter parameter false) else none
  let listed := do
    let parameters ← scope.field? "parameters"
    parameters.constructs.findSome? (parameterBinding? · name)
  let own :=
    match scope.kind with
    | "function_expression" | "function" | "generator_function" =>
        if fieldTextIs scope "name" name then some (Binding.function scope) else none
    | _ => none
  bare <|> listed <|> own

/-- What the head of a `for … in` or `for … of` loop binds. -/
def loopScope? (scope : Node) (name : String) : Option Binding := do
  let _ ← scope.field? "kind"
  let left ← scope.field? "left"
  if !patternBinds name left then none
  else if fieldTextIs scope "operator" "of" then
    match left.kind with
    | "identifier" => some (.loopVariable scope)
    | "object_pattern" | "array_pattern" => some (.destructured scope left)
    | _ => some .untyped
  else some .untyped

/-- What a node binds for the nodes inside it. -/
def valueInScope? (scope : Node) (name : String) : Option Binding :=
  match scope.kind with
  | "program" | "statement_block" | "switch_case" | "switch_default" | "class_static_block" =>
      declarationsIn? scope name
  | "function_declaration" | "function_expression" | "function" | "generator_function"
  | "generator_function_declaration" | "method_definition" | "arrow_function" =>
      functionScope? scope name
  | "for_statement" => (scope.field? "initializer").bind (declarationBinding? · name)
  | "for_in_statement" => loopScope? scope name
  | "catch_clause" => do
      let parameter ← scope.field? "parameter"
      if patternBinds name parameter then some .untyped else none
  | "class" | "class_declaration" =>
      if fieldTextIs scope "name" name then some (.classValue scope) else none
  | _ => none

end Scope

end CallMigration
