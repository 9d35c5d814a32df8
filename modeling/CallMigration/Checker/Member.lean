import CallMigration.Checker.Declared

/-!
# Members

The type of a named member of a value. A shape's members are read from its
declaration, one at a time.
-/

namespace CallMigration.Checker

open StaticType

/-- The type of a method as a member. A getter reads as what it returns. -/
def methodMember (ask : Answers) (method : Node) (env : TypeEnv) (depth : Nat) :
    Outcome StaticType := do
  let returns ← returnType ask method env (depth + 1)
  pure (if method.hasToken "get" then returns else optionalMember method (.function returns))

/-! ## Object types and interfaces -/

/-- The member that one signature declares under a name, as a question to ask. -/
def signatureOf? (ask : Answers) (name : String) (env : TypeEnv) (depth : Nat) (item : Node) :
    Option (Outcome StaticType) :=
  match item.kind with
  | "property_signature" =>
      if memberName? item = some name then
        some do
          let t ← Outcome.onSome (item.field? "type") (.primitive "any") fun ascription =>
            ascribedType ask ascription env (depth + 1)
          pure (optionalMember item t)
      else none
  | "method_signature" =>
      if memberName? item = some name then
        some do
          let returns ← returnType ask item env (depth + 1)
          pure (optionalMember item (.function returns))
      else none
  | _ => none

/-- The ascription of the index signature that counts: the first one that has an
ascription. -/
def indexAscription? (container : Node) : Option Node :=
  container.constructs.findSome? fun item =>
    if item.kind == "index_signature" then item.field? "type" else none

/-- A member of an object type or interface body. A name that no signature declares
is read through the index signature. -/
def signatureMember (ask : Answers) (container : Node) (name : String) (env : TypeEnv)
    (depth : Nat) : Outcome (Option StaticType) :=
  match container.constructs.findSome? (signatureOf? ask name env depth) with
  | some question => do
      let t ← question
      pure (some t)
  | none =>
      Outcome.onSome (indexAscription? container) none fun ascription => do
        let t ← ascribedType ask ascription env (depth + 1)
        pure (some t)

/-- A member of an interface: its own, else the first base that has it. -/
def interfaceMember (ask : Answers) (decl : Node) (name : String) (env : TypeEnv) (depth : Nat) :
    Outcome (Option StaticType) := do
  let own ← Outcome.onSome (decl.field? "body") none fun body =>
    signatureMember ask body name env depth
  match own with
  | some t => pure (some t)
  | none =>
      let clauses := decl.constructs.filter (·.kind == "extends_type_clause")
      Outcome.firstSome (fun base => do
        let t ← ask.denoted base env (depth + 1)
        ask.member t name (depth + 1)) (clauses.flatMap Node.constructs)

/-! ## Object literals -/

/-- The member that one entry of an object literal gives. -/
def entryMember (ask : Answers) (name : String) (depth : Nat) (item : Node) :
    Outcome (Option StaticType) :=
  match item.kind with
  | "pair" =>
      if (item.field? "key").bind propertyName? = some name then do
        let t ← Outcome.onSome (item.field? "value") .unseen fun value =>
          ask.expression value (depth + 1)
        pure (some t)
      else pure none
  | "shorthand_property_identifier" =>
      if item.text = name then do
        let t ← ask.expression item (depth + 1)
        pure (some t)
      else pure none
  | "method_definition" =>
      if memberName? item = some name ∧ ¬ item.hasToken "set" then do
        let t ← methodMember ask item .empty depth
        pure (some t)
      else pure none
  | "spread_element" =>
      Outcome.onSome item.firstConstruct? none fun spread => do
        let t ← ask.expression spread (depth + 1)
        ask.member t name (depth + 1)
  | _ => pure none

/-- A member of an object literal. Later entries and spreads win. -/
def objectMember (ask : Answers) (object : Node) (name : String) (depth : Nat) :
    Outcome (Option StaticType) :=
  Outcome.firstSome (entryMember ask name depth) object.constructs.reverse

/-! ## Classes -/

/-- Whether a constructor parameter also declares a member. -/
def isParameterProperty (parameter : Node) : Bool :=
  parameter.constructs.any (·.kind == "accessibility_modifier") || parameter.hasToken "readonly"

/-- Whether a parameter has the plain name `name`. -/
def parameterNamed (name : String) (parameter : Node) : Bool :=
  match parameter.field? "pattern" with
  | some pattern => pattern.kind == "identifier" && pattern.text == name
  | none => false

/-- The member that a constructor's parameter list declares. -/
def parameterProperty (ask : Answers) (constructor : Node) (name : String) (env : TypeEnv)
    (depth : Nat) : Outcome (Option StaticType) :=
  let parameters := ((constructor.field? "parameters").map Node.constructs).getD []
  Outcome.onSome (parameters.find? fun p => isParameterProperty p && parameterNamed name p) none
    fun parameter => do
      let declared ← Outcome.onSome (parameter.field? "type") .unseen fun ascription =>
        ascribedType ask ascription env (depth + 1)
      pure (some (if parameter.kind == "optional_parameter" then declared.orUndefined else declared))

/-- The type of a field: its ascription, else its initial value. -/
def fieldMember (ask : Answers) (item : Node) (env : TypeEnv) (depth : Nat) :
    Outcome StaticType := do
  let t ←
    match item.field? "type", item.field? "value" with
    | some ascription, _ => ascribedType ask ascription env (depth + 1)
    | none, some value => ask.expression value (depth + 1)
    | none, none => .ok .unseen
  pure (optionalMember item t)

/-- The instance member that one item of a class body gives. Static items give none. -/
def classItem (ask : Answers) (name : String) (env : TypeEnv) (depth : Nat) (item : Node) :
    Outcome (Option StaticType) :=
  let method : Outcome (Option StaticType) :=
    if memberName? item = some name ∧ ¬ item.hasToken "set" then do
      let t ← methodMember ask item env depth
      pure (some t)
    else pure none
  if item.hasToken "static" then pure none
  else
    match item.kind with
    | "public_field_definition" =>
        if memberName? item = some name then do
          let t ← fieldMember ask item env depth
          pure (some t)
        else pure none
    | "method_definition" =>
        if memberName? item = some "constructor" then parameterProperty ask item name env depth
        else method
    | "method_signature" | "abstract_method_signature" => method
    | _ => pure none

/-- The `extends` clause of a class. -/
def extendsClause? (node : Node) : Option Node := do
  let heritage ← node.constructs.find? (·.kind == "class_heritage")
  heritage.constructs.find? (·.kind == "extends_clause")

/-- An instance member of a class: its own, else that of the class it extends. -/
def classMember (program : Program) (ask : Answers) (node : Node) (name : String) (env : TypeEnv)
    (depth : Nat) : Outcome (Option StaticType) :=
  Outcome.onSome (node.field? "body") none fun body => do
    match ← Outcome.firstSome (classItem ask name env depth) body.constructs with
    | some t => pure (some t)
    | none =>
        Outcome.onSome (extendsClause? node) none fun clause =>
          Outcome.onSome (clause.field? "value") none fun value => do
            let base ← instanceType program ask value (clause.field? "type_arguments") (depth + 1)
            ask.member base name (depth + 1)

/-! ## All members -/

/-- A member of the declaration behind a shape. -/
def shapeMember (program : Program) (ask : Answers) (id : ShapeId)
    (bindings : List (String × StaticType)) (name : String) (depth : Nat) :
    Outcome (Option StaticType) :=
  let declaration := program.files[id.file]?.bind fun file => file.nodeAt? id.span id.kind
  Outcome.onSome declaration none fun node =>
    let env : TypeEnv := ⟨bindings, []⟩
    match node.kind with
    | "object_type" => signatureMember ask node name env depth
    | "interface_declaration" => interfaceMember ask node name env depth
    | "object" => objectMember ask node name depth
    | _ => classMember program ask node name env depth

/-- A member of a mapped library type, read from its argument. -/
def utilityMember (ask : Answers) (utility : String) (arguments : List StaticType) (name : String)
    (depth : Nat) : Outcome (Option StaticType) :=
  match utility, arguments with
  | "Record", [_, value] => pure (some value)
  | "Partial", [inner] => do
      let t ← ask.member inner name depth
      pure (t.map StaticType.orUndefined)
  | "Required", [inner] => do
      let t ← ask.member inner name depth
      pure (t.map StaticType.withoutUndefined)
  | "Readonly", [inner] => ask.member inner name depth
  | _, _ => pure none

/-- The member that one member of a union declares. -/
def memberOf (program : Program) (ask : Answers) (name : String) (depth : Nat) :
    StaticType → Outcome (Option StaticType)
  | .primitive "any" => pure (some (.primitive "any"))
  | .shape id _ bindings => shapeMember program ask id bindings name (depth + 1)
  | .reference utility arguments => utilityMember ask utility arguments name (depth + 1)
  | _ => pure none

/-- The member types of the members of a union, absent values passed over; `none` as
soon as one of them does not declare the name. -/
def memberTypes (program : Program) (ask : Answers) (name : String) (depth : Nat) :
    List StaticType → Outcome (Option (List StaticType))
  | [] => pure (some [])
  | m :: ms =>
      if m.isNullish then memberTypes program ask name depth ms
      else do
        match ← memberOf program ask name depth m with
        | none => pure none
        | some t =>
            match ← memberTypes program ask name depth ms with
            | none => pure none
            | some ts => pure (some (t :: ts))

/-- The type of a named member of a value. -/
def memberRule (program : Program) (ask : Answers) (t : StaticType) (name : String)
    (depth : Nat) : Outcome (Option StaticType) :=
  if depth > maxDepth then pure (some .unseen)
  else do
    match ← memberTypes program ask name depth t.members with
    | none | some [] => pure none
    | some ts => pure (some (join ts))

/-- The type of a property; unseen when it is not declared. -/
def propertyType (ask : Answers) (t : StaticType) (name : String) (depth : Nat) :
    Outcome StaticType := do
  let found ← ask.member t name depth
  pure (found.getD .unseen)

end CallMigration.Checker
