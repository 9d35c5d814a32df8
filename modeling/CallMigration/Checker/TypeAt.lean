import CallMigration.Checker.Expression

/-!
# Types at nodes

The rules tied together: each question is answered by its rule, which may ask
further questions as long as the allowance of nested ones lasts. Nested questions
have greater depths, and beyond the depth limit nothing is asked, so an allowance
slightly above the limit is never used up.
-/

namespace CallMigration

/-- The answers that at most `allowance` nested questions give. -/
def Answers.within (program : Program) : (allowance : Nat) → Answers
  | 0 => .none
  | allowance + 1 =>
      { expression := fun n depth =>
          Checker.expressionRule program (within program allowance) n depth
        denoted := fun n env depth =>
          Checker.denotedRule program (within program allowance) n env depth
        member := fun t name depth =>
          Checker.memberRule program (within program allowance) t name depth
        pattern := fun n t name depth =>
          Checker.patternRule (within program allowance) n t name depth }

namespace Program

/-- As many nested questions as there can be. -/
def allowance : Nat := Checker.maxDepth + 2

/-- The type of an expression under full tracking of absent values. -/
def trackedTypeAt (p : Program) (n : Node) : Except TypeQueryError StaticType :=
  match (Answers.within p allowance).expression n 0 with
  | .ok t => .ok t
  | .error e => .error e
  | .exhausted => .ok .unseen

/-- The type of the expression at a node of the program. -/
def typeAt (p : Program) (n : Node) : Except TypeQueryError StaticType :=
  if !p.contains n.file then .error (.foreignNode n.file.path n.location)
  else
    match p.trackedTypeAt n with
    | .ok t => .ok (if p.options.strict then t else t.eraseNullish)
    | .error e => .error e

/-- Whether the value at a node may be absent under a policy. -/
def isNullableAt (p : Program) (policy : NullabilityPolicy) (n : Node) :
    Except TypeQueryError Bool :=
  match p.typeAt n with
  | .ok t => .ok (policy.isNullable t)
  | .error e => .error e

end Program

end CallMigration
