import CallMigration.Text.Split

/-!
# Path names

A path name is a text; what it names depends on its components only. Repeated
slashes, `.` after the first component and a trailing slash do not count, so two
path names are the same when their components are.
-/

namespace CallMigration

/-- A path as it was written. -/
structure PathName where
  text : String
deriving DecidableEq, Repr, Inhabited

namespace PathName

/-- A component of a path. -/
inductive Component where
  /-- The leading `/`. -/
  | root
  /-- A leading `.`. -/
  | current
  /-- `..` -/
  | parent
  /-- A file or directory name. -/
  | name (text : String)
deriving DecidableEq, Repr

namespace Component

/-- The text of a component. -/
def text : Component → String
  | root => "/"
  | current => "."
  | parent => ".."
  | name s => s

/-- The rank of a component's form in the order of paths. -/
def rank : Component → Nat
  | root => 0
  | current => 1
  | parent => 2
  | name _ => 3

/-- The order of components: by form, names by their characters. -/
def compare (a b : Component) : Ordering :=
  match a, b with
  | name s, name t => Ord.compare s t
  | a, b => Ord.compare a.rank b.rank

end Component

/-- The component a piece between slashes stands for. -/
def pieceComponent? (piece : String) : Option Component :=
  if piece = "" ∨ piece = "." then none
  else if piece = ".." then some .parent
  else some (.name piece)

/-- The components of a path. -/
def components (p : PathName) : List Component :=
  match Text.split '/' p.text with
  | [] => []
  | first :: rest =>
      let lead :=
        if first = "." then [Component.current]
        else if first = "" ∧ rest ≠ [] then [.root]
        else (pieceComponent? first).toList
      lead ++ rest.filterMap pieceComponent?

/-- Whether two path names have the same components. -/
def same (p q : PathName) : Bool :=
  p.components == q.components

/-- Whether the path starts at the root. -/
def isAbsolute (p : PathName) : Bool :=
  p.components.head? == some .root

/-- Write components with slashes between them. -/
def ofComponents : List Component → PathName
  | .root :: rest => ⟨"/" ++ "/".intercalate (rest.map Component.text)⟩
  | cs => ⟨"/".intercalate (cs.map Component.text)⟩

/-- `q` read from the directory `p`. An absolute `q` stands for itself. -/
def join (p q : PathName) : PathName :=
  if Text.startsWith "/" q.text then q
  else if p.text = "" then q
  else if Text.endsWith "/" p.text then ⟨p.text ++ q.text⟩
  else ⟨p.text ++ "/" ++ q.text⟩

/-- The last component, if it is a name. -/
def fileName? (p : PathName) : Option String :=
  match p.components.getLast? with
  | some (.name s) => some s
  | _ => none

/-- What follows the last dot of the file name, unless that dot is its first
character. -/
def extension? (p : PathName) : Option String :=
  match p.fileName?.bind (Text.splitLast? '.') with
  | some (stem, extension) => if stem = "" then none else some extension
  | none => none

/-- The path without its last component. The root and the empty path have none. -/
def parent? (p : PathName) : Option PathName :=
  match p.components.getLast? with
  | none | some .root => none
  | some _ => some (ofComponents p.components.dropLast)

/-- What is left of `p` below `base`, when `base`'s components begin `p`'s. -/
def relativeTo? (p base : PathName) : Option (List Component) :=
  if base.components.isPrefixOf p.components then
    some (p.components.drop base.components.length)
  else none

/-- The order of paths: component by component. -/
def compare (p q : PathName) : Ordering :=
  go p.components q.components
where
  /-- Lexicographic order of component lists. -/
  go : List Component → List Component → Ordering
    | [], [] => .eq
    | [], _ :: _ => .lt
    | _ :: _, [] => .gt
    | a :: as, b :: bs => (a.compare b).then (go as bs)

/-! ## Lexical normal form -/

/-- Take one more component onto a reversed list of components. `..` removes
the last one, whatever it is, unless it is the root or there is none. -/
def pushNormal (reversed : List Component) : Component → List Component
  | .current => reversed
  | .parent =>
      match reversed with
      | [] => [.parent]
      | .root :: rest => .parent :: .root :: rest
      | _ :: rest => rest
  | c => c :: reversed

/-- Resolve `.` and `..` without looking at a disk. -/
def normalize (p : PathName) : List Component :=
  (p.components.foldl pushNormal []).reverse

end PathName

end CallMigration
