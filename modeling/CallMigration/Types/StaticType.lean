import CallMigration.Text.Slice

/-!
# Static types

What the checker knows about the type of an expression. Object types are not
expanded: a shape names the declaration its members are read from, with the
types bound to the declaration's parameters.
-/

namespace CallMigration

/-- The place of the declaration behind a shape: the position of its file in the program,
its span and its kind. -/
structure ShapeId where
  file : Nat
  span : Span
  kind : String
deriving DecidableEq, Repr, Inhabited

/-- The type of an expression, as far as it is known. -/
inductive StaticType where
  | null
  | undefined
  /-- `string`, `number`, `any`, `never`, `void` and the like. -/
  | primitive (name : String)
  /-- A literal type such as `"a"` or `1`, as written. -/
  | literal (text : String)
  | array (element : StaticType)
  | tuple (elements : List StaticType)
  /-- An object type, interface, class instance or object literal. -/
  | shape (id : ShapeId) (label : String) (bindings : List (String × StaticType))
  /-- Something callable; only what it returns is known. -/
  | function (returns : StaticType)
  /-- A named type that is not expanded. -/
  | reference (name : String) (arguments : List StaticType)
  | union (members : List StaticType)
  /-- A type the checker does not see. -/
  | unseen
deriving Repr, Inhabited

namespace StaticType

/-! ## Equality -/

mutual

/-- Whether two types are equal. -/
def eq : StaticType → StaticType → Bool
  | null, null => true
  | undefined, undefined => true
  | primitive a, primitive b => a == b
  | literal a, literal b => a == b
  | array a, array b => eq a b
  | tuple a, tuple b => eqAll a b
  | shape i l a, shape j m b => i == j && l == m && eqBindings a b
  | function a, function b => eq a b
  | reference a as, reference b bs => a == b && eqAll as bs
  | union a, union b => eqAll a b
  | unseen, unseen => true
  | _, _ => false

/-- Whether two lists of types are equal. -/
def eqAll : List StaticType → List StaticType → Bool
  | [], [] => true
  | a :: as, b :: bs => eq a b && eqAll as bs
  | _, _ => false

/-- Whether two lists of bindings are equal. -/
def eqBindings : List (String × StaticType) → List (String × StaticType) → Bool
  | [], [] => true
  | (x, a) :: as, (y, b) :: bs => x == y && eq a b && eqBindings as bs
  | _, _ => false

end

mutual

theorem eq_iff : ∀ a b : StaticType, eq a b = true ↔ a = b
  | null, b => by cases b <;> simp [eq]
  | undefined, b => by cases b <;> simp [eq]
  | primitive _, b => by cases b <;> simp [eq]
  | literal _, b => by cases b <;> simp [eq]
  | array a, b => by cases b <;> simp [eq, eq_iff a]
  | tuple a, b => by cases b <;> simp [eq, eqAll_iff a]
  | shape i l a, b => by cases b <;> simp [eq, eqBindings_iff a, and_assoc]
  | function a, b => by cases b <;> simp [eq, eq_iff a]
  | reference _ a, b => by cases b <;> simp [eq, eqAll_iff a]
  | union a, b => by cases b <;> simp [eq, eqAll_iff a]
  | unseen, b => by cases b <;> simp [eq]

theorem eqAll_iff : ∀ a b : List StaticType, eqAll a b = true ↔ a = b
  | [], b => by cases b <;> simp [eqAll]
  | a :: as, b => by cases b <;> simp [eqAll, eq_iff a, eqAll_iff as]

theorem eqBindings_iff : ∀ a b : List (String × StaticType), eqBindings a b = true ↔ a = b
  | [], b => by cases b <;> simp [eqBindings]
  | (x, a) :: as, b => by
      cases b with
      | nil => simp [eqBindings]
      | cons p bs =>
          obtain ⟨y, b⟩ := p
          simp [eqBindings, eq_iff a, eqBindings_iff as]

end

instance : DecidableEq StaticType := fun a b =>
  decidable_of_iff (eq a b = true) (eq_iff a b)

/-! ## Unions -/

/-- The members of a union, or the type itself. -/
def members : StaticType → List StaticType
  | union ms => ms
  | t => [t]

/-- The list without repetitions; first occurrences stay. -/
def distinct : List StaticType → List StaticType
  | [] => []
  | t :: ts => t :: (distinct ts).filter (· ≠ t)

/-- The members of a normal union of the given types, before `any`, `unknown` and
`never` are taken into account. -/
def flatten (types : List StaticType) : List StaticType :=
  distinct (types.flatMap members)

/-- The type with the given members: one member stands for itself, none is `never`. -/
def ofMembers : List StaticType → StaticType
  | [] => primitive "never"
  | [t] => t
  | ts => union ts

/-- The normal union of types: nested unions are flattened, repetitions dropped,
`any` absorbs everything, else `unknown` does, and `never` is left out. -/
def join (types : List StaticType) : StaticType :=
  let flat := flatten types
  if primitive "any" ∈ flat then primitive "any"
  else if primitive "unknown" ∈ flat then primitive "unknown"
  else ofMembers (flat.filter (· ≠ primitive "never"))

def isUnion : StaticType → Bool
  | union _ => true
  | _ => false

def hasNull (t : StaticType) : Bool := t.members.contains null

def hasUndefined (t : StaticType) : Bool := t.members.contains undefined

/-- Whether the type is `null` or `undefined`. -/
def isNullish : StaticType → Bool
  | null => true
  | undefined => true
  | _ => false

/-- The type without `null` and `undefined`. -/
def withoutNullish : StaticType → StaticType
  | null => primitive "never"
  | undefined => primitive "never"
  | union ms => join (ms.filter (!·.isNullish))
  | t => t

/-- The type without `undefined`. -/
def withoutUndefined : StaticType → StaticType
  | undefined => primitive "never"
  | union ms => join (ms.filter (· ≠ undefined))
  | t => t

/-- The type when absent values are not tracked: they vanish from unions and
stay on their own. -/
def eraseNullish : StaticType → StaticType
  | union ms => (union ms).withoutNullish
  | t => t

/-- The type, or nothing. -/
def orUndefined (t : StaticType) : StaticType := join [t, undefined]

/-! ## Written form -/

mutual

/-- The written form of a type. -/
def render : StaticType → String
  | null => "null"
  | undefined => "undefined"
  | primitive name => name
  | literal text => text
  | array element =>
      if element.isUnion then "(" ++ render element ++ ")[]" else render element ++ "[]"
  | tuple elements => "[" ++ ", ".intercalate (renderAll elements) ++ "]"
  | shape _ label _ => label
  | function returns => "() => " ++ render returns
  | reference name [] => name
  | reference name arguments => name ++ "<" ++ ", ".intercalate (renderAll arguments) ++ ">"
  | union ms => " | ".intercalate (renderAll ms)
  | unseen => "\x7bopaque\x7d"

/-- The written forms of types. -/
def renderAll : List StaticType → List String
  | [] => []
  | t :: ts => render t :: renderAll ts

end

end StaticType

/-- Which members make a union nullable. -/
inductive NullabilityPolicy where
  | nullOnly
  | nullOrUndefined
deriving DecidableEq, Repr, Inhabited

namespace NullabilityPolicy

/-- Whether a member marks an absent value. -/
def isAbsent (policy : NullabilityPolicy) (t : StaticType) : Bool :=
  match policy with
  | nullOnly => t == .null
  | nullOrUndefined => t == .null || t == .undefined

/-- Whether a type is a union with a member for an absent value. `null` alone is
no union. -/
def isNullable (policy : NullabilityPolicy) (t : StaticType) : Bool :=
  t.isUnion && t.members.any policy.isAbsent

end NullabilityPolicy

end CallMigration
