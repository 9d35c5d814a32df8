import CallMigration.Checker.TypeAt
import CallMigration.Revision

/-!
# Migrations

A migration moves a call of a deprecated member onto one of its arguments, the
subject: `recv.deprecated(a, subject, b)` becomes `subject.replacement(a, b)`, and
`subject?.replacement(a, b) ?? fallback` when the subject may be absent.
-/

namespace CallMigration

/-- A deprecated member and the call that takes its place. -/
structure Migration where
  deprecated : String
  replacement : String
  /-- Which argument becomes the receiver. Stored as a machine word it would be no other: the
  next position wraps around only behind the greatest word, and a call without so many arguments
  is left alone either way. -/
  subjectArgument : Nat
  /-- The value of the call when the subject is absent. -/
  fallback : Literal
deriving DecidableEq, Repr, Inhabited

namespace Migration

/-- `deprecated_some` becomes `some` on the first argument. -/
def standard : Migration := ⟨"deprecated_some", "some", 0, .boolean false⟩

/-- The migration of a member name; the last one listed counts. -/
def find? (migrations : List Migration) (name : String) : Option Migration :=
  migrations.reverse.find? (·.deprecated == name)

/-- The migration that a node calls for: it is a call of a member that is migrated. -/
def forNode? (migrations : List Migration) (n : Node) : Option Migration :=
  if n.kind != "call_expression" then none
  else do
    let callee ← n.field? "function"
    if callee.kind != "member_expression" then none
    else
      let member ← callee.field? "property"
      find? migrations member.text

/-- The arguments of a call with an argument list. -/
def callArguments? (n : Node) : Option (List Node) :=
  ((n.field? "arguments").filter (·.kind == "arguments")).map Node.constructs

/-- The subject of a call and the other arguments, unless the call has too few
arguments or a spread stands before or at the subject. -/
def splitArguments? (m : Migration) (arguments : List Node) : Option (Node × List Node) :=
  if (arguments.take (m.subjectArgument + 1)).any (·.kind == "spread_element") then none
  else
    match arguments[m.subjectArgument]? with
    | some subject => some (subject, arguments.eraseIdx m.subjectArgument)
    | none => none

/-- The call that takes the place of a deprecated one. -/
def replacementCall (m : Migration) (subject : Node) (others : List Node) (nullable : Bool) :
    Fragment :=
  let call := Fragment.call (.property (.node subject) nullable m.replacement)
    (others.map Fragment.node)
  if nullable then .binary call .coalesce (.literal m.fallback) else call

/-- Replace the calls of deprecated members. -/
def transform (migrations : List Migration) (policy : NullabilityPolicy) (program : Program) :
    Transform := fun n =>
  match forNode? migrations n with
  | none => .ok none
  | some m =>
      match (callArguments? n).bind m.splitArguments? with
      | none => .ok none
      | some (subject, others) =>
          match program.isNullableAt policy subject with
          | .error e => .error e
          | .ok nullable => .ok (some (m.replacementCall subject others nullable))

end Migration

end CallMigration
