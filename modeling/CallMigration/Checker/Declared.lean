import CallMigration.Checker.Access
import CallMigration.Checker.Question
import CallMigration.Scope.Resolve

/-!
# Denoted types

The type that a type expression, an ascription, a function's return or a declared
name stands for.
-/

namespace CallMigration.Checker

open StaticType

/-- The place of a node of the program. -/
def shapeId? (program : Program) (n : Node) : Option ShapeId :=
  (program.indexOf? n.file).map fun file => ⟨file, n.span, n.kind⟩

/-- The shape declared by a node, with the bindings in effect there. A node of another
program declares nothing that is seen. -/
def shapeOf (program : Program) (n : Node) (label : String) (env : TypeEnv) : StaticType :=
  match shapeId? program n with
  | some id => .shape id label env.bindings
  | none => .unseen

/-- The type of an ascription `: T`. -/
def ascribedType (ask : Answers) (ascription : Node) (env : TypeEnv) (depth : Nat) :
    Outcome StaticType :=
  Outcome.onSome ascription.firstConstruct? .unseen fun t => ask.denoted t env depth

/-! ## Functions -/

/-- The type of one `return` statement. -/
def returnedType (ask : Answers) (depth : Nat) (stmt : Node) : Outcome StaticType :=
  Outcome.onSome stmt.firstConstruct? .undefined fun value => ask.expression value depth

/-- What a function's body returns. A body that is an expression returns it; a block
returns the union of its `return` statements, wrapped in a promise when the
function is asynchronous. Generators are not seen through. -/
def inferredReturnType (ask : Answers) (function : Node) (depth : Nat) : Outcome StaticType :=
  let depth := depth + inferenceCost
  Outcome.onSome (function.field? "body") .unseen fun body =>
    if body.kind ≠ "statement_block" then ask.expression body depth
    else if function.hasToken "*" then .ok .unseen
    else do
      let returned ← Outcome.mapAll (returnedType ask depth) (returnStatements body)
      let t := if returned.isEmpty then .primitive "void" else join returned
      pure (if function.hasToken "async" then .reference "Promise" [t] else t)

/-- What a function returns: its ascription, else what its body returns. -/
def returnType (ask : Answers) (function : Node) (env : TypeEnv) (depth : Nat) :
    Outcome StaticType :=
  match function.field? "return_type" with
  | none => inferredReturnType ask function depth
  | some ascription =>
      match ascription.kind with
      | "type_annotation" => ascribedType ask ascription env (depth + 1)
      | "type_predicate_annotation" | "type_predicate" => .ok (.primitive "boolean")
      | "asserts_annotation" | "asserts" => .ok (.primitive "void")
      | _ => ask.denoted ascription env (depth + 1)

/-! ## Declared names -/

/-- Bind the parameters of a declaration to the supplied arguments, then to their
defaults, each of which may use the parameters before it. -/
def bindParameters (ask : Answers) (depth : Nat) :
    List Node → List StaticType → TypeEnv → Outcome TypeEnv
  | [], _, env => .ok env
  | param :: rest, supplied, env =>
      match param.kind == "type_parameter", param.field? "name", supplied with
      | true, some name, argument :: more =>
          bindParameters ask depth rest more (env.bind name.text argument)
      | true, some name, [] => do
          let bound ← Outcome.onSome ((param.field? "value").bind Node.firstConstruct?) .unseen
            fun default => ask.denoted default env (depth + 1)
          bindParameters ask depth rest [] (env.bind name.text bound)
      | _, _, _ => bindParameters ask depth rest supplied env

/-- The name of a declaration; empty when it has none. -/
def declaredName (decl : Node) : String :=
  ((decl.field? "name").map Node.text).getD ""

/-- The type an alias, interface or class stands for with the given arguments. -/
def declaredType (program : Program) (ask : Answers) (decl : Node) (arguments : List StaticType)
    (env : TypeEnv) (depth : Nat) : Outcome StaticType := do
  let name := declaredName decl
  let parameters := ((decl.field? "type_parameters").map Node.constructs).getD []
  let inner ← bindParameters ask depth parameters arguments (env.enter name)
  if decl.kind == "type_alias_declaration" then
    Outcome.onSome (decl.field? "value") .unseen fun value => ask.denoted value inner (depth + 1)
  else pure (shapeOf program decl (if name == "" then "class" else name) inner)

/-- The type a named reference stands for: the built-in generic types, then a
declaration in scope. A name without a declaration, or one that is being expanded,
stays a reference. -/
def referenceType (program : Program) (ask : Answers) (site : Node) (name : String)
    (arguments : List StaticType) (env : TypeEnv) (depth : Nat) : Outcome StaticType :=
  match name with
  | "Array" | "ReadonlyArray" => .ok (.array (arguments.headD .unseen))
  | "NonNullable" => .ok (arguments.headD .unseen).withoutNullish
  | _ =>
      if env.expanding.contains name then .ok (.reference name arguments)
      else
        match Scope.resolveType? program site name with
        | some decl => declaredType program ask decl arguments env depth
        | none => .ok (.reference name arguments)

/-- The types of a list of type arguments. -/
def argumentTypes (ask : Answers) (arguments : Option Node) (env : TypeEnv) (depth : Nat) :
    Outcome (List StaticType) :=
  Outcome.mapAll (fun arg => ask.denoted arg env (depth + 1))
    ((arguments.map Node.constructs).getD [])

/-- The instance type of the class that a constructor expression names. -/
def instanceType (program : Program) (ask : Answers) (constructor : Node)
    (typeArguments : Option Node) (depth : Nat) : Outcome StaticType :=
  let named :=
    match constructor.kind with
    | "identifier" =>
        match Scope.resolveValue? program constructor constructor.text with
        | some (.classValue node) => some node
        | _ => none
    | "class" => some constructor
    | _ => none
  Outcome.onSome named .unseen fun node => do
    let arguments ← argumentTypes ask typeArguments .empty depth
    declaredType program ask node arguments .empty depth

/-! ## Type expressions -/

/-- The type of one element of a tuple type. -/
def tupleElement (ask : Answers) (env : TypeEnv) (depth : Nat) (element : Node) :
    Outcome StaticType :=
  match element.kind with
  | "optional_type" => do
      let inner ← Outcome.onSome element.firstConstruct? .unseen fun t =>
        ask.denoted t env (depth + 1)
      pure inner.orUndefined
  | "rest_type" => .ok .unseen
  | _ => ask.denoted element env (depth + 1)

/-- The type that a type expression denotes. -/
def denotedRule (program : Program) (ask : Answers) (n : Node) (env : TypeEnv) (depth : Nat) :
    Outcome StaticType :=
  if depth > maxDepth then .ok .unseen
  else
    match n.kind with
    | "union_type" => do
        let ms ← Outcome.mapAll (fun m => ask.denoted m env (depth + 1)) n.constructs
        pure (join ms)
    | "parenthesized_type" | "readonly_type" =>
        Outcome.onSome n.firstConstruct? .unseen fun t => ask.denoted t env (depth + 1)
    | "null" => .ok .null
    | "undefined" => .ok .undefined
    | "literal_type" =>
        match n.firstConstruct?.map Node.kind with
        | some "null" => .ok .null
        | some "undefined" => .ok .undefined
        | _ => .ok (.literal n.text)
    | "predefined_type" => .ok (.primitive n.text)
    | "array_type" => do
        let element ← Outcome.onSome n.firstConstruct? .unseen fun t =>
          ask.denoted t env (depth + 1)
        pure (.array element)
    | "tuple_type" => do
        let elements ← Outcome.mapAll (tupleElement ask env depth) n.constructs
        pure (.tuple elements)
    | "object_type" => .ok (shapeOf program n "\x7b ... \x7d" env)
    | "function_type" => do
        let returns ← returnType ask n env depth
        pure (.function returns)
    | "type_query" =>
        Outcome.onSome n.firstConstruct? .unseen fun e => ask.expression e (depth + 1)
    | "generic_type" =>
        Outcome.onSome (n.field? "name") .unseen fun name => do
          let arguments ← argumentTypes ask (n.field? "type_arguments") env depth
          referenceType program ask n name.text arguments env depth
    | "type_identifier" =>
        match n.text with
        | "undefined" => .ok .undefined
        | "null" => .ok .null
        | name =>
            match env.lookup? name with
            | some bound => .ok bound
            | none => referenceType program ask n name [] env depth
    | "nested_type_identifier" => .ok (.reference n.text [])
    | _ => .ok .unseen

end CallMigration.Checker
