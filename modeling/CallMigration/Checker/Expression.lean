import CallMigration.Checker.Pattern

/-!
# Expressions

The type of an expression: literals, names by their declarations, `this`, accesses,
calls and the operators through which absent values flow.
-/

namespace CallMigration.Checker

open StaticType

/-- Values of the running environment that need no declaration. -/
def standardGlobals : List String :=
  ["AbortController", "Array", "ArrayBuffer", "BigInt", "Blob", "Boolean", "Buffer", "CustomEvent",
    "DataView", "Date", "Element", "Error", "Event", "EventTarget", "File", "FormData", "Function",
    "HTMLElement", "Headers", "Infinity", "Intl", "JSON", "Map", "Math", "NaN", "Number", "Object",
    "Promise", "Proxy", "RangeError", "Reflect", "RegExp", "Request", "Response", "Set", "String",
    "Symbol", "SyntaxError", "TextDecoder", "TextEncoder", "TypeError", "URL", "URLSearchParams",
    "Uint8Array", "WeakMap", "WeakRef", "WeakSet", "WebSocket", "Worker", "__dirname",
    "__filename", "alert", "arguments", "atob", "btoa", "cancelAnimationFrame", "clearInterval",
    "clearTimeout", "console", "crypto", "decodeURIComponent", "document", "encodeURIComponent",
    "exports", "fetch", "global", "globalThis", "history", "isFinite", "isNaN", "localStorage",
    "location", "module", "navigator", "parseFloat", "parseInt", "performance", "process",
    "queueMicrotask", "requestAnimationFrame", "require", "self", "sessionStorage", "setInterval",
    "setTimeout", "structuredClone", "window"]

/-- Whether a name needs no declaration in the program. -/
def isAmbientGlobal (program : Program) (name : String) : Bool :=
  standardGlobals.contains name || program.options.ambientGlobals.contains name

/-- The type of the expression under a field. -/
def fieldType (ask : Answers) (n : Node) (field : String) (depth : Nat) : Outcome StaticType :=
  Outcome.onSome (n.field? field) .unseen fun child => ask.expression child (depth + 1)

/-! ## Names -/

/-- The type of a callback parameter without ascription, from the array method that
the callback is passed to. -/
def contextualType (ask : Answers) (parameter : Node) (depth : Nat) : Outcome StaticType :=
  match callbackReceiver? parameter with
  | some (receiver, 0) => do
      let iterated ← ask.expression receiver (depth + 1)
      pure (elementType none iterated)
  | some (_, 1) => .ok (.primitive "number")
  | _ => .ok .unseen

/-- The type of a parameter: its ascription, else its default, else its context. -/
def parameterType (ask : Answers) (parameter : Node) (optional : Bool) (depth : Nat) :
    Outcome StaticType :=
  if parameter.kind == "identifier" then contextualType ask parameter depth
  else do
    let declared ←
      match parameter.field? "type", parameter.field? "value" with
      | some ascription, _ => ascribedType ask ascription .empty (depth + 1)
      | none, some value => ask.expression value (depth + 1)
      | none, none => contextualType ask parameter depth
    pure (if optional && (parameter.field? "value").isNone then declared.orUndefined else declared)

/-- The type of the value that a declarator, parameter or loop binds, before any
destructuring. -/
def ownerType (ask : Answers) (owner : Node) (depth : Nat) : Outcome StaticType :=
  match owner.kind with
  | "variable_declarator" =>
      match owner.field? "type", owner.field? "value" with
      | some ascription, _ => ascribedType ask ascription .empty (depth + 1)
      | none, some value => ask.expression value (depth + 1)
      | none, none => .ok .unseen
  | "required_parameter" => parameterType ask owner false depth
  | "optional_parameter" => parameterType ask owner true depth
  | "for_in_statement" => do
      let iterated ← fieldType ask owner "right" depth
      pure (elementType none iterated)
  | _ => .ok .unseen

/-- The type of a bound name. -/
def bindingType (ask : Answers) (binding : Binding) (name : String) (depth : Nat) :
    Outcome StaticType :=
  match binding with
  | .declarator node => ownerType ask node depth
  | .parameter node optional => parameterType ask node optional depth
  | .destructured owner pattern => do
      let source ← ownerType ask owner depth
      let found ← ask.pattern pattern source name (depth + 1)
      pure (found.getD .unseen)
  | .loopVariable statement => ownerType ask statement depth
  | .function node => do
      let returns ← returnType ask node .empty depth
      pure (.function returns)
  | .classValue _ | .imported _ _ | .untyped => .ok .unseen

/-- The type of a name. -/
def identifierType (program : Program) (ask : Answers) (n : Node) (depth : Nat) :
    Outcome StaticType :=
  match Scope.resolveValue? program n n.text with
  | some binding => bindingType ask binding n.text (depth + 1)
  | none =>
      if isAmbientGlobal program n.text then .ok .unseen
      else .error (.unresolvedSymbol n.text n.file.path n.location)

/-- The type of `this` inside the given nodes, innermost first: the instance inside a
class body, unseen elsewhere. -/
def thisType (program : Program) (ask : Answers) (depth : Nat) : List Node → Outcome StaticType
  | [] => .ok .unseen
  | scope :: outer =>
      match scope.kind with
      | "method_definition" | "public_field_definition" =>
          if scope.hasToken "static" then .ok .unseen
          else thisType program ask depth outer
      | "class_body" =>
          Outcome.onSome scope.parent? .unseen fun node =>
            declaredType program ask node [] .empty depth
      | "function_declaration" | "function_expression" | "function" | "generator_function"
      | "generator_function_declaration" | "object" | "program" => .ok .unseen
      | _ => thisType program ask depth outer

/-! ## Expressions -/

/-- The type of an array literal. -/
def arrayLiteralType (ask : Answers) (n : Node) (depth : Nat) : Outcome StaticType :=
  let elements := n.constructs
  if elements.isEmpty || elements.any (·.kind == "spread_element") then .ok (.array .unseen)
  else do
    let ts ← Outcome.mapAll (fun e => ask.expression e (depth + 1)) elements
    pure (.array (join ts))

/-- The type of `a ?? b` and `a || b`. -/
def fallbackType (ask : Answers) (n : Node) (depth : Nat) : Outcome StaticType := do
  let left ← Outcome.onSome (n.field? "left") .unseen fun left => do
    let t ← ask.expression left (depth + 1)
    pure t.withoutNullish
  let right ← fieldType ask n "right" depth
  pure (join [left, right])

/-- The type of `object[index]`: a string index reads a property, a number the
element at that position, anything else some element. -/
def subscriptType (ask : Answers) (n : Node) (depth : Nat) : Outcome StaticType := do
  let object ← fieldType ask n "object" depth
  let index := n.field? "index"
  let t ←
    match index.bind Scope.stringValue? with
    | some key => propertyType ask object key (depth + 1)
    | none =>
        let position := (index.filter (·.kind == "number")).bind fun i => readPosition? i.text
        .ok (elementType position object)
  pure (continueChain n t)

/-- The type of an expression. -/
def expressionRule (program : Program) (ask : Answers) (n : Node) (depth : Nat) :
    Outcome StaticType :=
  let first := n.firstConstruct?
  if depth > maxDepth then .ok .unseen
  else
    match n.kind with
    | "null" => .ok .null
    | "undefined" => .ok .undefined
    | "identifier" | "shorthand_property_identifier" =>
        if n.text == "undefined" then .ok .undefined else identifierType program ask n depth
    | "this" => thisType program ask depth n.ancestors
    | "string" | "template_string" => .ok (.primitive "string")
    | "number" => .ok (.primitive "number")
    | "true" | "false" => .ok (.primitive "boolean")
    | "regex" => .ok (.reference "RegExp" [])
    | "array" => arrayLiteralType ask n depth
    | "object" => .ok (shapeOf program n "\x7b ... \x7d" .empty)
    | "arrow_function" | "function_expression" | "function" => do
        let returns ← returnType ask n .empty depth
        pure (.function returns)
    | "parenthesized_expression" | "satisfies_expression" =>
        Outcome.onSome first .unseen fun inner => ask.expression inner (depth + 1)
    | "non_null_expression" =>
        Outcome.onSome first .unseen fun inner => do
          let t ← ask.expression inner (depth + 1)
          pure t.withoutNullish
    | "await_expression" =>
        Outcome.onSome first .unseen fun inner => do
          let t ← ask.expression inner (depth + 1)
          pure (awaited t)
    | "as_expression" =>
        match n.constructs with
        | [_, target] => ask.denoted target .empty (depth + 1)
        | [inner] => ask.expression inner (depth + 1)
        | _ => .ok .unseen
    | "assignment_expression" => fieldType ask n "right" depth
    | "ternary_expression" => do
        let branches := (n.field? "consequence").toList ++ (n.field? "alternative").toList
        let ts ← Outcome.mapAll (fun b => ask.expression b (depth + 1)) branches
        pure (join ts)
    | "binary_expression" =>
        match operatorText? n with
        | some "??" | some "||" => fallbackType ask n depth
        | _ => .ok .unseen
    | "unary_expression" =>
        match operatorText? n with
        | some "typeof" => .ok (.primitive "string")
        | some "!" | some "delete" => .ok (.primitive "boolean")
        | some "void" => .ok .undefined
        | some "-" | some "+" | some "~" => .ok (.primitive "number")
        | _ => .ok .unseen
    | "member_expression" => do
        let object ← fieldType ask n "object" depth
        let t ← Outcome.onSome (n.field? "property") .unseen fun property =>
          propertyType ask object property.text (depth + 1)
        pure (continueChain n t)
    | "subscript_expression" => subscriptType ask n depth
    | "call_expression" => do
        let callee := (n.field? "function").filter (·.kind != "import")
        let t ← Outcome.onSome callee .unseen fun callee => do
          let t ← ask.expression callee (depth + 1)
          pure (callResult t)
        pure (continueChain n t)
    | "new_expression" =>
        Outcome.onSome (n.field? "constructor") .unseen fun constructor =>
          instanceType program ask constructor (n.field? "type_arguments") (depth + 1)
    | _ => .ok .unseen

end CallMigration.Checker
