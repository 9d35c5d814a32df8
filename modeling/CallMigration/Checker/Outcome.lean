import CallMigration.PathName
import CallMigration.Text.Slice

/-!
# Outcomes of a type question

A question is answered, fails because a name has no declaration, or is given up
because the allowance of nested questions is used up. The three are kept apart.
-/

namespace CallMigration

/-- Why a type question has no answer. -/
inductive TypeQueryError where
  /-- A value name without a declaration. -/
  | unresolvedSymbol (name : String) (path : PathName) (location : Location)
  /-- The node is not part of the program. -/
  | foreignNode (path : PathName) (location : Location)
deriving DecidableEq, Repr

namespace TypeQueryError

/-- The text of an error. -/
def message : TypeQueryError → String
  | unresolvedSymbol name path l => s!"cannot resolve symbol '{name}' at {path.text}:{l.render}"
  | foreignNode path l =>
      s!"node at {path.text}:{l.render} belongs to a file outside the checked program"

end TypeQueryError

/-- What comes of a question. -/
inductive Outcome (α : Type) where
  | ok (value : α)
  | error (e : TypeQueryError)
  /-- The allowance of nested questions is used up. -/
  | exhausted
deriving Repr, Inhabited

namespace Outcome

/-- Go on with an answer. -/
protected def bind {α β : Type} (o : Outcome α) (f : α → Outcome β) : Outcome β :=
  match o with
  | ok a => f a
  | error e => error e
  | exhausted => exhausted

instance : Monad Outcome where
  pure := ok
  bind := Outcome.bind

/-- The answers to a list of questions, up to the first that fails. -/
def mapAll {α β : Type} (f : α → Outcome β) : List α → Outcome (List β)
  | [] => ok []
  | a :: as => do
      let b ← f a
      let bs ← mapAll f as
      pure (b :: bs)

/-- The first answer that is not `none`; later questions are not asked. -/
def firstSome {α β : Type} (f : α → Outcome (Option β)) : List α → Outcome (Option β)
  | [] => ok none
  | a :: as => do
      match ← f a with
      | some b => pure (some b)
      | none => firstSome f as

/-- The answer to an optional question, or a value in its place. -/
def onSome {α β : Type} (o : Option α) (other : β) (f : α → Outcome β) : Outcome β :=
  match o with
  | some a => f a
  | none => ok other

end Outcome

end CallMigration
