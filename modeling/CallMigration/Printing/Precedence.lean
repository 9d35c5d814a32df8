import CallMigration.Printing.Fragment

/-!
# Binding strength

The levels of the expression grammar, from the comma to primary expressions, and
the level of each parsed node and each fragment.
-/

namespace CallMigration

/-- The levels of expressions, the weakest first. -/
inductive Precedence where
  | comma
  | assignment
  | conditional
  | coalesce
  | disjunction
  | conjunction
  | bitOr
  | bitXor
  | bitAnd
  | equality
  | relational
  | shift
  | additive
  | multiplicative
  | exponentiation
  | unary
  | update
  | leftHandSide
  | member
  | primary
deriving DecidableEq, Repr, Inhabited

namespace Precedence

/-- The position of a level, counted from the weakest. -/
def rank (p : Precedence) : Nat := p.ctorIdx

instance : LT Precedence := ⟨fun p q => p.rank < q.rank⟩

instance : LE Precedence := ⟨fun p q => p.rank ≤ q.rank⟩

instance (p q : Precedence) : Decidable (p < q) := inferInstanceAs (Decidable (p.rank < q.rank))

instance (p q : Precedence) : Decidable (p ≤ q) := inferInstanceAs (Decidable (p.rank ≤ q.rank))

/-- The next stronger level. -/
def next : Precedence → Precedence
  | comma => assignment
  | assignment => conditional
  | conditional => coalesce
  | coalesce => disjunction
  | disjunction => conjunction
  | conjunction => bitOr
  | bitOr => bitXor
  | bitXor => bitAnd
  | bitAnd => equality
  | equality => relational
  | relational => shift
  | shift => additive
  | additive => multiplicative
  | multiplicative => exponentiation
  | exponentiation => unary
  | unary => update
  | update => leftHandSide
  | leftHandSide => member
  | member => primary
  | primary => primary

/-- The level of a binary operator. -/
def ofOperator : String → Precedence
  | "??" => coalesce
  | "||" => disjunction
  | "&&" => conjunction
  | "|" => bitOr
  | "^" => bitXor
  | "&" => bitAnd
  | "==" | "!=" | "===" | "!==" => equality
  | "<" | ">" | "<=" | ">=" | "instanceof" | "in" => relational
  | "<<" | ">>" | ">>>" => shift
  | "+" | "-" => additive
  | "*" | "/" | "%" => multiplicative
  | "**" => exponentiation
  | _ => comma

/-- The level of a parsed expression. -/
def ofNode (n : Node) : Precedence :=
  match n.kind with
  | "sequence_expression" => comma
  | "assignment_expression" | "augmented_assignment_expression" | "arrow_function"
  | "yield_expression" | "spread_element" => assignment
  | "ternary_expression" => conditional
  | "binary_expression" => ((n.field? "operator").map fun op => ofOperator op.text).getD comma
  | "as_expression" | "satisfies_expression" => relational
  | "unary_expression" | "await_expression" => unary
  | "update_expression" => update
  | "new_expression" => if (n.field? "arguments").isNone then leftHandSide else member
  | "call_expression" | "member_expression" | "subscript_expression" | "non_null_expression" =>
      member
  | _ => primary

end Precedence

namespace LogicalOperator

/-- The level of a logical operator. -/
def precedence (op : LogicalOperator) : Precedence := .ofOperator op.token

end LogicalOperator

namespace Fragment

/-- The level of a fragment. A negative number is a unary expression. -/
def precedence : Fragment → Precedence
  | node n => .ofNode n
  | identifier _ => .primary
  | literal value => if value.isNegative then .unary else .primary
  | property .. => .member
  | call .. => .member
  | binary _ op _ => op.precedence

/-- The operator at the top of a fragment. -/
def operator? : Fragment → Option String
  | node n => if n.kind == "binary_expression" then (n.field? "operator").map Node.text else none
  | binary _ op _ => some op.token
  | _ => none

end Fragment

end CallMigration
