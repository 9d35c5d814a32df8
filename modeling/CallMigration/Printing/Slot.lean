import CallMigration.Printing.Precedence

/-!
# Slots

What the place of an expression asks of it: a least level, an operator it must not
be mixed with, and whether an optional chain has to end there. An expression that
falls short is put in parentheses.
-/

namespace CallMigration

/-- The demands of a place. -/
structure Slot where
  /-- The weakest level that needs no parentheses. -/
  least : Precedence
  /-- The operator whose operand the place is. -/
  operator : Option String
  /-- Whether a chain placed here would take in what follows. -/
  endsChain : Bool
deriving DecidableEq, Repr, Inhabited

namespace Slot

/-- A place that asks for a level only. -/
def atLeast (least : Precedence) : Slot := ⟨least, none, false⟩

/-- A place for any expression but a comma. -/
def any : Slot := atLeast .assignment

/-- An operand of a binary operator. -/
def operand (least : Precedence) (operator : Option String) : Slot := ⟨least, operator, false⟩

/-- The object or callee of a parsed access. Unless the access itself is optional, a
chain placed there must end. -/
def accessObject (access : Node) : Slot :=
  ⟨.member, none, (access.field? "optional_chain").isNone⟩

/-- Whether `??` meets `||` or `&&`. -/
def mixesCoalesce (inner outer : Option String) : Bool :=
  match inner, outer with
  | some "??", some "||" | some "??", some "&&" | some "||", some "??" | some "&&", some "??" => true
  | _, _ => false

/-- Whether a fragment needs parentheses in a place. -/
def needsParens (slot : Slot) (f : Fragment) : Bool :=
  f.precedence < slot.least || mixesCoalesce f.operator? slot.operator ||
    (slot.endsChain && f.isOptionalChain)

/-- The operand of a parsed binary expression. -/
def ofBinary (parent : Node) (isLeft : Bool) : Slot :=
  let operator := (parent.field? "operator").map Node.text
  let level := (operator.map Precedence.ofOperator).getD .primary
  let least :=
    match operator, isLeft with
    | some "**", true => .update
    | some "**", false => level
    | _, true => level
    | _, false => level.next
  operand least operator

/-- The place of a node in its parent. -/
def ofSite (site : Node) : Slot :=
  match site.parent? with
  | none => any
  | some parent =>
      let isField (name : String) : Bool :=
        match parent.field? name with
        | some child => child.same site
        | none => false
      match parent.kind with
      | "member_expression" | "subscript_expression" =>
          if isField "object" then accessObject parent else any
      | "call_expression" => if isField "function" then accessObject parent else any
      | "new_expression" => if isField "constructor" then atLeast .primary else any
      | "non_null_expression" => ⟨.member, none, true⟩
      | "update_expression" => atLeast .leftHandSide
      | "unary_expression" | "await_expression" => atLeast .unary
      | "as_expression" | "satisfies_expression" => atLeast .relational
      | "binary_expression" => ofBinary parent (isField "left")
      | "ternary_expression" => if isField "condition" then atLeast .coalesce else any
      | _ => any

end Slot

end CallMigration
