import CallMigration.Checker.Member

/-!
# Destructuring patterns

The type that a pattern binds to a name: the type of the whole value, followed
along the way to the first place where the name occurs.
-/

namespace CallMigration.Checker

open StaticType

/-- A default value takes the place of `undefined`. -/
def withDefault (ask : Answers) (declared : StaticType) (default : Option Node) (depth : Nat) :
    Outcome StaticType :=
  Outcome.onSome default declared fun value => do
    let t ← ask.expression value (depth + 1)
    pure (join [declared.withoutUndefined, t])

/-- The type bound by the entry of an object pattern in which the name occurs. -/
def objectEntry (ask : Answers) (source : StaticType) (name : String) (depth : Nat) (item : Node) :
    Outcome (Option StaticType) :=
  match item.kind with
  | "shorthand_property_identifier_pattern" => do
      let t ← propertyType ask source name (depth + 1)
      pure (some t)
  | "pair_pattern" => do
      let t ← Outcome.onSome ((item.field? "key").bind propertyName?) .unseen fun key =>
        propertyType ask source key (depth + 1)
      Outcome.onSome (item.field? "value") none fun value => ask.pattern value t name (depth + 1)
  | "object_assignment_pattern" =>
      Outcome.onSome (item.field? "left") none fun left => do
        let isShorthand := left.kind == "shorthand_property_identifier_pattern"
        let declared ←
          if isShorthand then propertyType ask source left.text (depth + 1) else .ok .unseen
        let t ← withDefault ask declared (item.field? "right") depth
        if isShorthand then pure (some t) else ask.pattern left t name (depth + 1)
  | _ => pure (some .unseen)

/-- The type that a pattern binds to a name. -/
def patternRule (ask : Answers) (pattern : Node) (source : StaticType) (name : String)
    (depth : Nat) : Outcome (Option StaticType) :=
  if depth > maxDepth then pure (some .unseen)
  else
    match pattern.kind with
    | "identifier" => pure (if pattern.text == name then some source else none)
    | "object_pattern" =>
        Outcome.onSome (pattern.constructs.find? (Scope.patternBinds name)) none
          (objectEntry ask source name depth)
    | "array_pattern" =>
        Outcome.onSome
          ((arraySlots 0 pattern.children).find? fun slot => Scope.patternBinds name slot.2) none
          fun (position, item) =>
            if item.kind == "rest_pattern" then pure (some .unseen)
            else ask.pattern item (elementType (some position) source) name (depth + 1)
    | "assignment_pattern" =>
        Outcome.onSome (pattern.field? "left") none fun left => do
          let t ← withDefault ask source (pattern.field? "right") depth
          ask.pattern left t name (depth + 1)
    | _ => pure none

end CallMigration.Checker
