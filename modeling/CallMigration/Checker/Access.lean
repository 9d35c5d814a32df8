import CallMigration.Scope.Binding
import CallMigration.Types.StaticType

/-!
# Taking types and nodes apart

What calling, indexing or awaiting a value gives, and the small readings of nodes
that the checker's rules share. Nothing here asks a further question.
-/

namespace CallMigration.Checker

open StaticType

/-! ## Types -/

/-- The answer for every member of a type, in order: absent values are passed over,
and one member without an answer makes the whole unseen. -/
def collectMembers (part : StaticType → Option StaticType) :
    List StaticType → Option (List StaticType)
  | [] => some []
  | m :: ms =>
      if m.isNullish then collectMembers part ms
      else
        match part m, collectMembers part ms with
        | some t, some ts => some (t :: ts)
        | _, _ => none

/-- The union of what the members give; unseen when there is none. -/
def throughMembers (part : StaticType → Option StaticType) (t : StaticType) : StaticType :=
  match collectMembers part t.members with
  | none | some [] => unseen
  | some ts => join ts

/-- What calling a value gives. -/
def callResult (callee : StaticType) : StaticType :=
  throughMembers (fun
    | .function returns => some returns
    | .primitive "any" => some (.primitive "any")
    | _ => none) callee

/-- What one member gives when it is indexed, at a known position or anywhere. -/
def elementOf (position : Option Nat) : StaticType → Option StaticType
  | .array element => some element
  | .tuple items =>
      match position with
      | some i => some (items.getD i .undefined)
      | none => some (join items)
  | .reference "Record" [_, value] => some value
  | .primitive "any" => some (.primitive "any")
  | _ => none

/-- What indexing or iterating a value gives. -/
def elementType (position : Option Nat) (t : StaticType) : StaticType :=
  throughMembers (elementOf position) t

/-- What awaiting one member gives. -/
def awaitedMember : StaticType → StaticType
  | .reference "Promise" [t] => t
  | t => t

/-- What awaiting a value gives. -/
def awaited (t : StaticType) : StaticType :=
  join (t.members.map awaitedMember)

/-! ## Nodes -/

/-- The text of a node's operator. -/
def operatorText? (n : Node) : Option String :=
  (n.field? "operator").map (·.text)

/-- The type of an access; inside an optional chain it may be absent. -/
def continueChain (n : Node) (t : StaticType) : StaticType :=
  if n.isOptionalChain then t.orUndefined else t

/-- The type of a member; one written with `?` may be absent. -/
def optionalMember (item : Node) (t : StaticType) : StaticType :=
  if item.hasToken "?" then t.orUndefined else t

/-- The name of a property key. Computed keys have none. -/
def propertyName? (key : Node) : Option String :=
  match key.kind with
  | "property_identifier" | "private_property_identifier" | "identifier" | "number" => some key.text
  | "string" => Scope.stringValue? key
  | _ => none

/-- The name of a member. -/
def memberName? (item : Node) : Option String :=
  (item.field? "name").bind propertyName?

/-- Whether a node has its own `return` statements. -/
def isFunctionLike (kind : String) : Bool :=
  match kind with
  | "function_declaration" | "function_expression" | "function" | "arrow_function"
  | "generator_function" | "generator_function_declaration" | "method_definition" | "class"
  | "class_declaration" => true
  | _ => false

/-- The `return` statements below a node that belong to it: those directly below
first, then those of the remaining children, the last child first. -/
def returnStatements (n : Node) : List Node :=
  n.fold fun _ below =>
    let inside := Node.Branch.constructs below
    (inside.filter (·.node.kind == "return_statement")).map (·.node) ++
      ((inside.filter fun b =>
        b.node.kind != "return_statement" && !isFunctionLike b.node.kind).reverse.flatMap
          fun b => b.answer ())

/-- The elements of an array pattern with their positions. A hole takes a position
and has no element. -/
def arraySlots (position : Nat) : List Node → List (Nat × Node)
  | [] => []
  | n :: ns =>
      if !n.tree.label.named then
        arraySlots (if n.kind == "," then position + 1 else position) ns
      else if n.kind == "comment" then arraySlots position ns
      else (position, n) :: arraySlots position ns

/-- The number a run of decimal digits stands for, below 2^64. -/
def readPosition? (text : String) : Option Nat :=
  let digits := text.toList
  if digits.isEmpty || !digits.all Char.isDigit then none
  else
    let value := digits.foldl (fun n c => 10 * n + (c.toNat - '0'.toNat)) 0
    if value < UInt64.size then some value else none

/-- Array methods whose callback takes the element first and the index second. -/
def elementCallbacks : List String :=
  ["every", "filter", "find", "findIndex", "findLast", "findLastIndex", "flatMap", "forEach",
    "map", "some"]

/-- The function a parameter belongs to, and the parameter's position. -/
def parameterPlace? (parameter : Node) : Option (Node × Nat) := do
  let parent ← parameter.parent?
  if parameter.kind == "identifier" then some (parent, 0)
  else
    let position ← parent.constructs.findIdx? (·.same parameter)
    let callback ← parent.parent?
    some (callback, position)

/-- For a parameter of a callback that is the first argument of an array method: the
array expression and the parameter's position. -/
def callbackReceiver? (parameter : Node) : Option (Node × Nat) := do
  let (callback, position) ← parameterPlace? parameter
  match callback.kind with
  | "arrow_function" | "function_expression" | "function" => some ()
  | _ => none
  let arguments ← callback.parent?
  let first ← arguments.firstConstruct?
  if arguments.kind != "arguments" || !first.same callback then none
  else
    let call ← arguments.parent?
    let callee ← call.field? "function"
    if callee.kind != "member_expression" then none
    else
      let method ← callee.field? "property"
      if elementCallbacks.contains method.text then
        let object ← callee.field? "object"
        some (object, position)
      else none

end CallMigration.Checker
