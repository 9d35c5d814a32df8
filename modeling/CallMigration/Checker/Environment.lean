import CallMigration.Types.StaticType

/-!
# Type environments

The types bound to type parameters while a type is read, sorted by name, and the
names of the declarations that are being expanded.
-/

namespace CallMigration

/-- What type names mean on the way down. -/
structure TypeEnv where
  /-- Bound parameters, by increasing name. -/
  bindings : List (String × StaticType)
  /-- Declarations being expanded, outermost first; one of these stays a name. -/
  expanding : List String
deriving DecidableEq, Repr, Inhabited

namespace TypeEnv

def empty : TypeEnv := ⟨[], []⟩

/-- Put a binding at its place; an earlier one of the same name is replaced. -/
def insertBinding (name : String) (t : StaticType) :
    List (String × StaticType) → List (String × StaticType)
  | [] => [(name, t)]
  | (other, u) :: rest =>
      if name = other then (name, t) :: rest
      else if name < other then (name, t) :: (other, u) :: rest
      else (other, u) :: insertBinding name t rest

/-- Bind a type parameter. -/
def bind (env : TypeEnv) (name : String) (t : StaticType) : TypeEnv :=
  { env with bindings := insertBinding name t env.bindings }

/-- The type bound to a name. -/
def lookup? (env : TypeEnv) (name : String) : Option StaticType :=
  env.bindings.lookup name

/-- The environment inside a declaration: no bindings yet, one more name expanding. -/
def enter (env : TypeEnv) (name : String) : TypeEnv :=
  ⟨[], env.expanding ++ [name]⟩

end TypeEnv

end CallMigration
