import CallMigration.Decimal.Shortest
import CallMigration.Syntax.Node
import CallMigration.Text.Quoted

/-!
# Fragments

A fragment is a new expression, built from nodes of a file that are kept as they
are, names, literals, property accesses, calls and the three logical operators.
-/

namespace CallMigration

/-- A literal value. -/
inductive Literal where
  | boolean (value : Bool)
  | integer (value : Int)
  | number (value : Binary64)
  | text (value : String)
deriving DecidableEq, Repr, Inhabited

/-- A logical operator. -/
inductive LogicalOperator where
  /-- `??` -/
  | coalesce
  /-- `||` -/
  | disjunction
  /-- `&&` -/
  | conjunction
deriving DecidableEq, Repr, Inhabited

namespace LogicalOperator

/-- The token of an operator. -/
def token : LogicalOperator → String
  | coalesce => "??"
  | disjunction => "||"
  | conjunction => "&&"

end LogicalOperator

/-- A new expression. -/
inductive Fragment where
  /-- A node of the file, as it stands there. -/
  | node (n : Node)
  | identifier (name : String)
  | literal (value : Literal)
  /-- `object.name`, or `object?.name`. -/
  | property (object : Fragment) (optional : Bool) (name : String)
  | call (callee : Fragment) (arguments : List Fragment)
  | binary (left : Fragment) (operator : LogicalOperator) (right : Fragment)
deriving Repr, Inhabited

/-- Why a fragment cannot be written. -/
inductive RenderError where
  | invalidIdentifier (name : String)
  /-- A node of another file. -/
  | foreignNode (expected found : PathName)
  /-- A number that no literal denotes. -/
  | nonFiniteNumber (value : Binary64)
deriving DecidableEq, Repr

namespace RenderError

/-- The text of an error. -/
def message : RenderError → String
  | invalidIdentifier name => s!"'{name}' is not a valid identifier"
  | foreignNode expected found =>
      s!"fragment embeds a node from {found.text}, but is rendered into {expected.text}"
  | nonFiniteNumber value => s!"number {value.render} has no literal form"

end RenderError

namespace Literal

/-- The written form of a literal. -/
def render : Literal → Except RenderError String
  | boolean value => .ok (if value then "true" else "false")
  | integer value => .ok (toString value)
  | number value => if value.isFinite then .ok value.render else .error (.nonFiniteNumber value)
  | text value => .ok (Text.literal value)

/-- Whether the written form starts with a minus sign. -/
def isNegative : Literal → Bool
  | integer value => value < 0
  | number value => value.isNegative
  | _ => false

end Literal

namespace Fragment

/-- Whether a fragment continues or starts an optional chain. -/
def isOptionalChain : Fragment → Bool
  | node n => n.isOptionalChain
  | property object optional _ => optional || object.isOptionalChain
  | call callee _ => callee.isOptionalChain
  | _ => false

/-- Whether a fragment is an integer, after which `.` would read as a decimal point:
digits and underscores only, or an integer literal. -/
def isInteger : Fragment → Bool
  | node n => n.kind == "number" && n.text.toList.all fun c => c.isDigit || c == '_'
  | literal (.integer _) => true
  | _ => false

end Fragment

end CallMigration
