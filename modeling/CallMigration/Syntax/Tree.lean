import CallMigration.Text.Slice

/-!
# Concrete syntax trees

A tree keeps every token of its text. Named nodes are the constructs of the
grammar, unnamed ones are its punctuation and keywords, and comments are named
nodes. A node may be marked missing: the reader of the text put it in to go on.
-/

namespace CallMigration

/-- What a tree says about one node, its children apart. -/
structure Label where
  /-- The grammar's name for the construct or token. -/
  kind : String
  /-- Whether the node is a construct of the grammar. -/
  named : Bool
  /-- Whether the node stands for something absent from the text. -/
  missing : Bool
  span : Span
  /-- The names under which the parent finds this child. -/
  fields : List String
deriving DecidableEq, Repr, Inhabited

/-- A concrete syntax tree. -/
inductive Tree where
  | node (label : Label) (children : List Tree)
deriving Repr, Inhabited

namespace Tree

/-- The label of the topmost node. -/
def label : Tree → Label
  | node l _ => l

/-- The trees below the topmost node. -/
def children : Tree → List Tree
  | node _ cs => cs

/-- The kind of the topmost node. -/
def kind (t : Tree) : String := t.label.kind

/-- The bytes the tree covers. -/
def span (t : Tree) : Span := t.label.span

/-- Whether this node itself reports a syntax error. -/
def isFault (t : Tree) : Bool :=
  t.kind == "ERROR" || t.label.missing

/-- Whether the topmost node is a construct, comments left out. -/
def isConstruct (t : Tree) : Bool :=
  t.label.named && t.kind != "comment"

/-- Whether the parent finds the tree under `field`. -/
def hasField (field : String) (t : Tree) : Bool :=
  t.label.fields.contains field

mutual

/-- The number of nodes. -/
def size : Tree → Nat
  | node _ cs => sizeIn cs + 1

/-- The number of nodes of all the trees. -/
def sizeIn : List Tree → Nat
  | [] => 0
  | c :: cs => size c + sizeIn cs

end

theorem sizeIn_append (first rest : List Tree) :
    sizeIn (first ++ rest) = sizeIn first + sizeIn rest := by
  induction first with
  | nil => exact (Nat.zero_add _).symm
  | cons c cs ih => rw [List.cons_append, sizeIn, sizeIn, ih, Nat.add_assoc]

theorem size_pos (t : Tree) : 0 < t.size := by
  cases t with
  | node l cs => exact Nat.succ_pos _

mutual

/-- Whether a syntax error is anywhere in the tree. -/
def hasFault : Tree → Bool
  | t@(node _ cs) => t.isFault || anyFault cs

/-- Whether a syntax error is anywhere in one of the trees. -/
def anyFault : List Tree → Bool
  | [] => false
  | c :: cs => hasFault c || anyFault cs

end

mutual

/-- The spans of all syntax errors, parents before children and in source order.
Subtrees without an error are not entered. -/
def faults : Tree → List Span
  | t@(node l cs) =>
      (if t.isFault then [l.span] else []) ++ (if t.hasFault then faultsIn cs else [])

/-- The spans of all syntax errors in the trees. -/
def faultsIn : List Tree → List Span
  | [] => []
  | c :: cs => faults c ++ faultsIn cs

end

/-- Whether a statement at the top level makes the text a module. -/
def isModule (t : Tree) : Bool :=
  t.children.any fun c =>
    c.label.named && (c.kind == "import_statement" || c.kind == "export_statement")

end Tree

end CallMigration
