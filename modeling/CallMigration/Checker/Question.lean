import CallMigration.Checker.Environment
import CallMigration.Checker.Outcome
import CallMigration.Syntax.Node

/-!
# Questions of the checker

The checker answers four kinds of question: the type of an expression, the type a
type expression denotes, the type of a named member, and the type a pattern binds
to a name. Each rule is a plain definition that takes the answers to further
questions as an argument. Every question carries its depth; beyond the limit the
answer is that nothing is seen.
-/

namespace CallMigration

/-- Answers to the four kinds of question. -/
structure Answers where
  /-- The type of an expression. -/
  expression : Node → (depth : Nat) → Outcome StaticType
  /-- The type that a type expression denotes. -/
  denoted : Node → TypeEnv → (depth : Nat) → Outcome StaticType
  /-- The type of a member, read from every member of a union; `none` when one of
  them does not declare it. -/
  member : StaticType → (name : String) → (depth : Nat) → Outcome (Option StaticType)
  /-- The type of a name in a pattern that receives a value of the given type;
  `none` when the pattern does not bind it. -/
  pattern : Node → StaticType → (name : String) → (depth : Nat) → Outcome (Option StaticType)

namespace Answers

/-- No question is answered. -/
def none : Answers where
  expression _ _ := .exhausted
  denoted _ _ _ := .exhausted
  member _ _ _ := .exhausted
  pattern _ _ _ _ := .exhausted

end Answers

namespace Checker

/-- The depth of the deepest question that is answered. -/
def maxDepth : Nat := 32

/-- The further depth of what a function body returns, since the body may call the
function itself. -/
def inferenceCost : Nat := 4

end Checker

end CallMigration
