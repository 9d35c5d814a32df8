import CallMigration.Checker.TypeAt

/-!
# Calls among the rules

The rules of the checker call each other: some of them ask a question, which tests its
depth, and some hand their depth on to another rule untested. Here every such call is a
value, and a rule is run with all its calls left to whoever runs it. Running a call with
fuel spends one unit on each call that is open at the same time, so the fuel that is
enough bounds the nesting of calls. Going through a list is part of the rule that does it.
-/

namespace CallMigration.Checker

open StaticType

/-- A call of one of the checker's rules. -/
inductive Call : Type → Type
  | expression (n : Node) (depth : Nat) : Call StaticType
  | denoted (n : Node) (env : TypeEnv) (depth : Nat) : Call StaticType
  | member (t : StaticType) (name : String) (depth : Nat) : Call (Option StaticType)
  | pattern (n : Node) (source : StaticType) (name : String) (depth : Nat) :
      Call (Option StaticType)
  | ascribedType (ascription : Node) (env : TypeEnv) (depth : Nat) : Call StaticType
  | inferredReturnType (function : Node) (depth : Nat) : Call StaticType
  | returnType (function : Node) (env : TypeEnv) (depth : Nat) : Call StaticType
  | declaredType (decl : Node) (arguments : List StaticType) (env : TypeEnv) (depth : Nat) :
      Call StaticType
  | referenceType (site : Node) (name : String) (arguments : List StaticType) (env : TypeEnv)
      (depth : Nat) : Call StaticType
  | instanceType (constructor : Node) (typeArguments : Option Node) (depth : Nat) :
      Call StaticType
  | methodMember (method : Node) (env : TypeEnv) (depth : Nat) : Call StaticType
  | signatureMember (container : Node) (name : String) (env : TypeEnv) (depth : Nat) :
      Call (Option StaticType)
  | interfaceMember (decl : Node) (name : String) (env : TypeEnv) (depth : Nat) :
      Call (Option StaticType)
  | entryMember (name : String) (depth : Nat) (item : Node) : Call (Option StaticType)
  | objectMember (object : Node) (name : String) (depth : Nat) : Call (Option StaticType)
  | parameterProperty (constructor : Node) (name : String) (env : TypeEnv) (depth : Nat) :
      Call (Option StaticType)
  | fieldMember (item : Node) (env : TypeEnv) (depth : Nat) : Call StaticType
  | classItem (name : String) (env : TypeEnv) (depth : Nat) (item : Node) :
      Call (Option StaticType)
  | classMember (node : Node) (name : String) (env : TypeEnv) (depth : Nat) :
      Call (Option StaticType)
  | shapeMember (id : ShapeId) (bindings : List (String × StaticType)) (name : String)
      (depth : Nat) : Call (Option StaticType)
  | utilityMember (utility : String) (arguments : List StaticType) (name : String)
      (depth : Nat) : Call (Option StaticType)
  | memberOf (name : String) (depth : Nat) (t : StaticType) : Call (Option StaticType)
  | propertyType (t : StaticType) (name : String) (depth : Nat) : Call StaticType
  | withDefault (declared : StaticType) (default : Option Node) (depth : Nat) : Call StaticType
  | objectEntry (source : StaticType) (name : String) (depth : Nat) (item : Node) :
      Call (Option StaticType)
  | fieldType (n : Node) (field : String) (depth : Nat) : Call StaticType
  | contextualType (parameter : Node) (depth : Nat) : Call StaticType
  | parameterType (parameter : Node) (optional : Bool) (depth : Nat) : Call StaticType
  | ownerType (owner : Node) (depth : Nat) : Call StaticType
  | bindingType (binding : Binding) (name : String) (depth : Nat) : Call StaticType
  | identifierType (n : Node) (depth : Nat) : Call StaticType
  | thisType (depth : Nat) (scopes : List Node) : Call StaticType
  | arrayLiteralType (n : Node) (depth : Nat) : Call StaticType
  | fallbackType (n : Node) (depth : Nat) : Call StaticType
  | subscriptType (n : Node) (depth : Nat) : Call StaticType

namespace Call

/-! ## Loops of the rules -/

/-- The class whose instance `this` is inside the given nodes, innermost first. -/
def thisClass? : List Node → Option Node
  | [] => none
  | scope :: outer =>
      match scope.kind with
      | "method_definition" | "public_field_definition" =>
          if scope.hasToken "static" then none else thisClass? outer
      | "class_body" => scope.parent?
      | "function_declaration" | "function_expression" | "function" | "generator_function"
      | "generator_function_declaration" | "object" | "program" => none
      | _ => thisClass? outer

theorem thisType_eq (program : Program) (ask : Answers) (depth : Nat) (scopes : List Node) :
    Checker.thisType program ask depth scopes =
      Outcome.onSome (thisClass? scopes) .unseen fun node =>
        Checker.declaredType program ask node [] .empty depth := by
  induction scopes with
  | nil => rfl
  | cons scope outer ih =>
      have hmember : (if scope.hasToken "static" then .ok .unseen
          else Checker.thisType program ask depth outer) =
          Outcome.onSome (if scope.hasToken "static" then none else thisClass? outer) .unseen
            fun node => Checker.declaredType program ask node [] .empty depth := by
        split
        · rfl
        · exact ih
      unfold Checker.thisType thisClass?
      split <;> simp_all only
      all_goals rfl

/-- The member types that a question about each member of a union gives. -/
def everyMember (part : StaticType → Outcome (Option StaticType)) :
    List StaticType → Outcome (Option (List StaticType))
  | [] => pure (some [])
  | m :: ms =>
      if m.isNullish then everyMember part ms
      else do
        match ← part m with
        | none => pure none
        | some t =>
            match ← everyMember part ms with
            | none => pure none
            | some ts => pure (some (t :: ts))

theorem memberTypes_eq (program : Program) (ask : Answers) (name : String) (depth : Nat)
    (ms : List StaticType) :
    memberTypes program ask name depth ms =
      everyMember (Checker.memberOf program ask name depth) ms := by
  induction ms with
  | nil => rfl
  | cons m ms ih =>
      unfold memberTypes everyMember
      exact ih ▸ rfl

/-! ## Rules -/

/-- What a call comes to when the questions it leads to have the given answers. -/
def outcome (program : Program) (ask : Answers) : {α : Type} → Call α → Outcome α
  | _, .expression n depth => ask.expression n depth
  | _, .denoted n env depth => ask.denoted n env depth
  | _, .member t name depth => ask.member t name depth
  | _, .pattern n source name depth => ask.pattern n source name depth
  | _, .ascribedType n env depth => Checker.ascribedType ask n env depth
  | _, .inferredReturnType n depth => Checker.inferredReturnType ask n depth
  | _, .returnType n env depth => Checker.returnType ask n env depth
  | _, .declaredType n arguments env depth =>
      Checker.declaredType program ask n arguments env depth
  | _, .referenceType n name arguments env depth =>
      Checker.referenceType program ask n name arguments env depth
  | _, .instanceType n arguments depth => Checker.instanceType program ask n arguments depth
  | _, .methodMember n env depth => Checker.methodMember ask n env depth
  | _, .signatureMember n name env depth => Checker.signatureMember ask n name env depth
  | _, .interfaceMember n name env depth => Checker.interfaceMember ask n name env depth
  | _, .entryMember name depth item => Checker.entryMember ask name depth item
  | _, .objectMember n name depth => Checker.objectMember ask n name depth
  | _, .parameterProperty n name env depth => Checker.parameterProperty ask n name env depth
  | _, .fieldMember item env depth => Checker.fieldMember ask item env depth
  | _, .classItem name env depth item => Checker.classItem ask name env depth item
  | _, .classMember n name env depth => Checker.classMember program ask n name env depth
  | _, .shapeMember id bindings name depth =>
      Checker.shapeMember program ask id bindings name depth
  | _, .utilityMember utility arguments name depth =>
      Checker.utilityMember ask utility arguments name depth
  | _, .memberOf name depth t => Checker.memberOf program ask name depth t
  | _, .propertyType t name depth => Checker.propertyType ask t name depth
  | _, .withDefault t default depth => Checker.withDefault ask t default depth
  | _, .objectEntry source name depth item => Checker.objectEntry ask source name depth item
  | _, .fieldType n field depth => Checker.fieldType ask n field depth
  | _, .contextualType n depth => Checker.contextualType ask n depth
  | _, .parameterType n optional depth => Checker.parameterType ask n optional depth
  | _, .ownerType n depth => Checker.ownerType ask n depth
  | _, .bindingType binding name depth => Checker.bindingType ask binding name depth
  | _, .identifierType n depth => Checker.identifierType program ask n depth
  | _, .thisType depth scopes => Checker.thisType program ask depth scopes
  | _, .arrayLiteralType n depth => Checker.arrayLiteralType ask n depth
  | _, .fallbackType n depth => Checker.fallbackType ask n depth
  | _, .subscriptType n depth => Checker.subscriptType ask n depth

/-- Questions as calls. -/
def answers (call : ⦃β : Type⦄ → Call β → Outcome β) : Answers where
  expression n depth := call (.expression n depth)
  denoted n env depth := call (.denoted n env depth)
  member t name depth := call (.member t name depth)
  pattern n source name depth := call (.pattern n source name depth)

/-- One rule, which leaves the calls it makes to `call`. Where it only asks questions it
is the rule itself. -/
def body (program : Program) (call : ⦃β : Type⦄ → Call β → Outcome β) :
    {α : Type} → Call α → Outcome α
  | _, .expression n depth =>
      if depth > maxDepth then .ok .unseen
      else
        match n.kind with
        | "identifier" | "shorthand_property_identifier" =>
            if n.text == "undefined" then .ok .undefined else call (.identifierType n depth)
        | "this" => call (.thisType depth n.ancestors)
        | "array" => call (.arrayLiteralType n depth)
        | "arrow_function" | "function_expression" | "function" => do
            let returns ← call (.returnType n .empty depth)
            pure (.function returns)
        | "assignment_expression" => call (.fieldType n "right" depth)
        | "binary_expression" =>
            match operatorText? n with
            | some "??" | some "||" => call (.fallbackType n depth)
            | _ => .ok .unseen
        | "member_expression" => do
            let object ← call (.fieldType n "object" depth)
            let t ← Outcome.onSome (n.field? "property") .unseen fun property =>
              call (.propertyType object property.text (depth + 1))
            pure (continueChain n t)
        | "subscript_expression" => call (.subscriptType n depth)
        | "new_expression" =>
            Outcome.onSome (n.field? "constructor") .unseen fun constructor =>
              call (.instanceType constructor (n.field? "type_arguments") (depth + 1))
        | _ => expressionRule program (answers call) n depth
  | _, .denoted n env depth =>
      if depth > maxDepth then .ok .unseen
      else
        match n.kind with
        | "function_type" => do
            let returns ← call (.returnType n env depth)
            pure (.function returns)
        | "generic_type" =>
            Outcome.onSome (n.field? "name") .unseen fun name => do
              let arguments ← argumentTypes (answers call) (n.field? "type_arguments") env depth
              call (.referenceType n name.text arguments env depth)
        | "type_identifier" =>
            match n.text with
            | "undefined" => .ok .undefined
            | "null" => .ok .null
            | name =>
                match env.lookup? name with
                | some bound => .ok bound
                | none => call (.referenceType n name [] env depth)
        | _ => denotedRule program (answers call) n env depth
  | _, .member t name depth =>
      if depth > maxDepth then pure (some .unseen)
      else do
        match ← everyMember (fun m => call (.memberOf name depth m)) t.members with
        | none | some [] => pure none
        | some ts => pure (some (join ts))
  | _, .pattern n source name depth =>
      if depth > maxDepth then pure (some .unseen)
      else
        match n.kind with
        | "object_pattern" =>
            Outcome.onSome (n.constructs.find? (Scope.patternBinds name)) none fun item =>
              call (.objectEntry source name depth item)
        | "assignment_pattern" =>
            Outcome.onSome (n.field? "left") none fun left => do
              let t ← call (.withDefault source (n.field? "right") depth)
              call (.pattern left t name (depth + 1))
        | _ => patternRule (answers call) n source name depth
  | _, .ascribedType n env depth => Checker.ascribedType (answers call) n env depth
  | _, .inferredReturnType n depth => Checker.inferredReturnType (answers call) n depth
  | _, .returnType n env depth =>
      match n.field? "return_type" with
      | none => call (.inferredReturnType n depth)
      | some ascription =>
          match ascription.kind with
          | "type_annotation" => call (.ascribedType ascription env (depth + 1))
          | _ => Checker.returnType (answers call) n env depth
  | _, .declaredType n arguments env depth =>
      Checker.declaredType program (answers call) n arguments env depth
  | _, .referenceType n name arguments env depth =>
      match name with
      | "Array" | "ReadonlyArray" => .ok (.array (arguments.headD .unseen))
      | "NonNullable" => .ok (arguments.headD .unseen).withoutNullish
      | _ =>
          if env.expanding.contains name then .ok (.reference name arguments)
          else
            match Scope.resolveType? program n name with
            | some decl => call (.declaredType decl arguments env depth)
            | none => .ok (.reference name arguments)
  | _, .instanceType n typeArguments depth =>
      let named :=
        match n.kind with
        | "identifier" =>
            match Scope.resolveValue? program n n.text with
            | some (.classValue node) => some node
            | _ => none
        | "class" => some n
        | _ => none
      Outcome.onSome named .unseen fun node => do
        let arguments ← argumentTypes (answers call) typeArguments .empty depth
        call (.declaredType node arguments .empty depth)
  | _, .methodMember n env depth => do
      let returns ← call (.returnType n env (depth + 1))
      pure (if n.hasToken "get" then returns else optionalMember n (.function returns))
  | _, .signatureMember n name env depth =>
      let declared := n.constructs.findSome? fun item =>
        match item.kind with
        | "property_signature" =>
            if memberName? item = some name then
              some do
                let t ← Outcome.onSome (item.field? "type") (.primitive "any") fun ascription =>
                  call (.ascribedType ascription env (depth + 1))
                pure (optionalMember item t)
            else none
        | "method_signature" =>
            if memberName? item = some name then
              some do
                let returns ← call (.returnType item env (depth + 1))
                pure (optionalMember item (.function returns))
            else none
        | _ => none
      match declared with
      | some question => do
          let t ← question
          pure (some t)
      | none =>
          Outcome.onSome (indexAscription? n) none fun ascription => do
            let t ← call (.ascribedType ascription env (depth + 1))
            pure (some t)
  | _, .interfaceMember n name env depth => do
      let own ← Outcome.onSome (n.field? "body") none fun body =>
        call (.signatureMember body name env depth)
      match own with
      | some t => pure (some t)
      | none =>
          let clauses := n.constructs.filter (·.kind == "extends_type_clause")
          Outcome.firstSome (fun base => do
            let t ← call (.denoted base env (depth + 1))
            call (.member t name (depth + 1))) (clauses.flatMap Node.constructs)
  | _, .entryMember name depth item =>
      match item.kind with
      | "method_definition" =>
          if memberName? item = some name ∧ ¬ item.hasToken "set" then do
            let t ← call (.methodMember item .empty depth)
            pure (some t)
          else pure none
      | _ => Checker.entryMember (answers call) name depth item
  | _, .objectMember n name depth =>
      Outcome.firstSome (fun item => call (.entryMember name depth item)) n.constructs.reverse
  | _, .parameterProperty n name env depth =>
      let parameters := ((n.field? "parameters").map Node.constructs).getD []
      Outcome.onSome
        (parameters.find? fun p => isParameterProperty p && parameterNamed name p) none
        fun parameter => do
          let declared ← Outcome.onSome (parameter.field? "type") .unseen fun ascription =>
            call (.ascribedType ascription env (depth + 1))
          pure (some
            (if parameter.kind == "optional_parameter" then declared.orUndefined else declared))
  | _, .fieldMember item env depth => do
      let t ←
        match item.field? "type", item.field? "value" with
        | some ascription, _ => call (.ascribedType ascription env (depth + 1))
        | none, some value => call (.expression value (depth + 1))
        | none, none => .ok .unseen
      pure (optionalMember item t)
  | _, .classItem name env depth item =>
      let method : Outcome (Option StaticType) :=
        if memberName? item = some name ∧ ¬ item.hasToken "set" then do
          let t ← call (.methodMember item env depth)
          pure (some t)
        else pure none
      if item.hasToken "static" then pure none
      else
        match item.kind with
        | "public_field_definition" =>
            if memberName? item = some name then do
              let t ← call (.fieldMember item env depth)
              pure (some t)
            else pure none
        | "method_definition" =>
            if memberName? item = some "constructor" then
              call (.parameterProperty item name env depth)
            else method
        | "method_signature" | "abstract_method_signature" => method
        | _ => pure none
  | _, .classMember n name env depth =>
      Outcome.onSome (n.field? "body") none fun body => do
        match ← Outcome.firstSome (fun item => call (.classItem name env depth item))
            body.constructs with
        | some t => pure (some t)
        | none =>
            Outcome.onSome (extendsClause? n) none fun clause =>
              Outcome.onSome (clause.field? "value") none fun value => do
                let base ← call (.instanceType value (clause.field? "type_arguments") (depth + 1))
                call (.member base name (depth + 1))
  | _, .shapeMember id bindings name depth =>
      let declaration := program.files[id.file]?.bind fun file => file.nodeAt? id.span id.kind
      Outcome.onSome declaration none fun node =>
        let env : TypeEnv := ⟨bindings, []⟩
        match node.kind with
        | "object_type" => call (.signatureMember node name env depth)
        | "interface_declaration" => call (.interfaceMember node name env depth)
        | "object" => call (.objectMember node name depth)
        | _ => call (.classMember node name env depth)
  | _, .utilityMember utility arguments name depth =>
      Checker.utilityMember (answers call) utility arguments name depth
  | _, .memberOf name depth t =>
      match t with
      | .primitive "any" => pure (some (.primitive "any"))
      | .shape id _ bindings => call (.shapeMember id bindings name (depth + 1))
      | .reference utility arguments => call (.utilityMember utility arguments name (depth + 1))
      | _ => pure none
  | _, .propertyType t name depth => Checker.propertyType (answers call) t name depth
  | _, .withDefault t default depth => Checker.withDefault (answers call) t default depth
  | _, .objectEntry source name depth item =>
      match item.kind with
      | "shorthand_property_identifier_pattern" => do
          let t ← call (.propertyType source name (depth + 1))
          pure (some t)
      | "pair_pattern" => do
          let t ← Outcome.onSome ((item.field? "key").bind propertyName?) .unseen fun key =>
            call (.propertyType source key (depth + 1))
          Outcome.onSome (item.field? "value") none fun value =>
            call (.pattern value t name (depth + 1))
      | "object_assignment_pattern" =>
          Outcome.onSome (item.field? "left") none fun left => do
            let isShorthand := left.kind == "shorthand_property_identifier_pattern"
            let declared ←
              if isShorthand then call (.propertyType source left.text (depth + 1))
              else .ok .unseen
            let t ← call (.withDefault declared (item.field? "right") depth)
            if isShorthand then pure (some t) else call (.pattern left t name (depth + 1))
      | _ => pure (some .unseen)
  | _, .fieldType n field depth => Checker.fieldType (answers call) n field depth
  | _, .contextualType n depth => Checker.contextualType (answers call) n depth
  | _, .parameterType n optional depth =>
      if n.kind == "identifier" then call (.contextualType n depth)
      else do
        let declared ←
          match n.field? "type", n.field? "value" with
          | some ascription, _ => call (.ascribedType ascription .empty (depth + 1))
          | none, some value => call (.expression value (depth + 1))
          | none, none => call (.contextualType n depth)
        pure (if optional && (n.field? "value").isNone then declared.orUndefined else declared)
  | _, .ownerType n depth =>
      match n.kind with
      | "variable_declarator" =>
          match n.field? "type", n.field? "value" with
          | some ascription, _ => call (.ascribedType ascription .empty (depth + 1))
          | none, some value => call (.expression value (depth + 1))
          | none, none => .ok .unseen
      | "required_parameter" => call (.parameterType n false depth)
      | "optional_parameter" => call (.parameterType n true depth)
      | "for_in_statement" => do
          let iterated ← call (.fieldType n "right" depth)
          pure (elementType none iterated)
      | _ => .ok .unseen
  | _, .bindingType binding name depth =>
      match binding with
      | .declarator node => call (.ownerType node depth)
      | .parameter node optional => call (.parameterType node optional depth)
      | .destructured owner target => do
          let source ← call (.ownerType owner depth)
          let found ← call (.pattern target source name (depth + 1))
          pure (found.getD .unseen)
      | .loopVariable statement => call (.ownerType statement depth)
      | .function node => do
          let returns ← call (.returnType node .empty depth)
          pure (.function returns)
      | .classValue _ | .imported _ _ | .untyped => .ok .unseen
  | _, .identifierType n depth =>
      match Scope.resolveValue? program n n.text with
      | some binding => call (.bindingType binding n.text (depth + 1))
      | none =>
          if isAmbientGlobal program n.text then .ok .unseen
          else .error (.unresolvedSymbol n.text n.file.path n.location)
  | _, .thisType depth scopes =>
      Outcome.onSome (thisClass? scopes) .unseen fun node =>
        call (.declaredType node [] .empty depth)
  | _, .arrayLiteralType n depth => Checker.arrayLiteralType (answers call) n depth
  | _, .fallbackType n depth => do
      let left ← Outcome.onSome (n.field? "left") .unseen fun left => do
        let t ← call (.expression left (depth + 1))
        pure t.withoutNullish
      let right ← call (.fieldType n "right" depth)
      pure (join [left, right])
  | _, .subscriptType n depth => do
      let object ← call (.fieldType n "object" depth)
      let index := n.field? "index"
      let t ←
        match index.bind Scope.stringValue? with
        | some key => call (.propertyType object key (depth + 1))
        | none =>
            let position := (index.filter (·.kind == "number")).bind fun i => readPosition? i.text
            .ok (elementType position object)
      pure (continueChain n t)

/-- The outcome of a call when at most `fuel` calls may be open at the same time. -/
def run (program : Program) : (fuel : Nat) → ⦃α : Type⦄ → Call α → Outcome α
  | 0, _, _ => .exhausted
  | fuel + 1, _, c => c.body program (run program fuel)

end Call

end CallMigration.Checker
