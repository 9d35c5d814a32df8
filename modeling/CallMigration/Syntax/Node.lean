import CallMigration.Source

/-!
# Nodes of a source file

A node is a subtree together with the way back to the top of its file. Two nodes
are the same when they are at the same place of the same file, whatever they
hold. `Node.fold` is the one recursion down the tree; what it computes at a node
may ask for the answers of its children.
-/

namespace CallMigration

/-- One step from a node to its parent: the parent's subtree, and which child
the node is. -/
structure Step where
  parent : Tree
  index : Nat
deriving Repr, Inhabited

/-- A place in a source file. -/
structure Node where
  file : SourceFile
  tree : Tree
  /-- The steps up, innermost first. -/
  above : List Step
deriving Repr, Inhabited

/-- The topmost node of a file. -/
def SourceFile.root (f : SourceFile) : Node := ⟨f, f.tree, []⟩

namespace Node

def kind (n : Node) : String := n.tree.kind

def span (n : Node) : Span := n.tree.span

/-- The text the node covers. -/
def text (n : Node) : String :=
  Text.slice n.file.text n.span.start n.span.stop

/-- Where the node starts. -/
def location (n : Node) : Location :=
  Location.ofOffset n.file.text n.span.start

/-- The child indices that lead to the node, innermost first. -/
def address (n : Node) : List Nat := n.above.map (·.index)

/-- Whether two nodes are at one place. -/
def same (n m : Node) : Bool :=
  n.file.same m.file && n.address == m.address

def parent? (n : Node) : Option Node :=
  match n.above with
  | [] => none
  | step :: rest => some ⟨n.file, step.parent, rest⟩

/-- The node itself and the nodes above it, innermost first. -/
def lineage (file : SourceFile) (tree : Tree) : List Step → List Node
  | [] => [⟨file, tree, []⟩]
  | step :: rest => ⟨file, tree, step :: rest⟩ :: lineage file step.parent rest

/-- The node and everything that encloses it, innermost first. -/
def selfAndAncestors (n : Node) : List Node := lineage n.file n.tree n.above

/-- Everything that encloses the node, innermost first. -/
def ancestors (n : Node) : List Node := n.selfAndAncestors.drop 1

/-- The child with the given tree and index. -/
def child (n : Node) (tree : Tree) (index : Nat) : Node :=
  ⟨n.file, tree, ⟨n.tree, index⟩ :: n.above⟩

/-- The children `trees` of `n`, the first of which has index `i`. -/
def childrenFrom (n : Node) : List Tree → Nat → List Node
  | [], _ => []
  | t :: ts, i => n.child t i :: n.childrenFrom ts (i + 1)

/-- All children, tokens and comments included. -/
def children (n : Node) : List Node := n.childrenFrom n.tree.children 0

/-- The children that are constructs, in source order, without comments. -/
def constructs (n : Node) : List Node :=
  n.children.filter (·.tree.isConstruct)

theorem sizeIn_childrenFrom_le (n : Node) (keep : Node → Bool) (ts : List Tree) (i : Nat) :
    Tree.sizeIn (((n.childrenFrom ts i).filter keep).map (·.tree)) ≤ Tree.sizeIn ts := by
  induction ts generalizing i with
  | nil => exact Nat.le_refl 0
  | cons t ts ih =>
      have hrest := ih (i + 1)
      rw [childrenFrom, List.filter_cons]
      split
      · exact Nat.add_le_add_left hrest t.size
      · exact Nat.le_trans hrest (Nat.le_add_left _ _)

/-- The trees of the constructs of a node have fewer nodes than its own. -/
theorem sizeIn_constructs_lt (n : Node) :
    Tree.sizeIn (n.constructs.map (·.tree)) < n.tree.size := by
  have hle := n.sizeIn_childrenFrom_le (·.tree.isConstruct) n.tree.children 0
  cases htree : n.tree with
  | node l cs =>
      rw [htree] at hle
      rw [constructs, children, htree]
      exact Nat.lt_succ_of_le hle

def firstConstruct? (n : Node) : Option Node := n.constructs.head?

/-- The child under a field name. -/
def field? (n : Node) (field : String) : Option Node :=
  n.children.find? (·.tree.hasField field)

/-- Whether a token such as `?` or `static` is a direct child. -/
def hasToken (n : Node) (token : String) : Bool :=
  n.tree.children.any fun t => !t.label.named && t.kind == token

/-! ## Recursion down the tree -/

/-- A child and the answer computed for it, on demand. -/
structure Branch (α : Type) where
  node : Node
  answer : Unit → α

namespace Branch

/-- The branches of constructs. -/
def constructs {α : Type} (bs : List (Branch α)) : List (Branch α) :=
  bs.filter (·.node.tree.isConstruct)

/-- The branch under a field name. -/
def field? {α : Type} (bs : List (Branch α)) (field : String) : Option (Branch α) :=
  bs.find? (·.node.tree.hasField field)

end Branch

mutual

/-- The answer at the node made of `file`, `tree` and `above`. -/
def foldTree {α : Type} (step : Node → List (Branch α) → α) (file : SourceFile) :
    Tree → List Step → α
  | .node l cs, above => step ⟨file, .node l cs, above⟩ (foldList step file (.node l cs) above cs 0)

/-- The branches of the children `ts` of `parent`, the first of which has index `i`. -/
def foldList {α : Type} (step : Node → List (Branch α) → α) (file : SourceFile)
    (parent : Tree) (above : List Step) : List Tree → Nat → List (Branch α)
  | [], _ => []
  | t :: ts, i =>
      ⟨⟨file, t, ⟨parent, i⟩ :: above⟩, fun _ => foldTree step file t (⟨parent, i⟩ :: above)⟩ ::
        foldList step file parent above ts (i + 1)

end

/-- Compute an answer from a node and the answers of its children. -/
def fold {α : Type} (step : Node → List (Branch α) → α) (n : Node) : α :=
  foldTree step n.file n.tree n.above

/-- All constructs of the subtree, parents before children and in source order.
The node itself comes first, whatever it is. -/
def preorder (n : Node) : List Node :=
  n.fold fun m below => m :: (Branch.constructs below).flatMap fun b => b.answer ()

/-! ## Optional chains -/

/-- Whether the expression is part of an optional chain: some link from here down
through objects, callees and operands of `!` is written with an `optional_chain`
field. Parentheses end a chain. -/
def isOptionalChain (n : Node) : Bool :=
  n.fold fun m below =>
    let follow (b : Option (Branch Bool)) : Bool := (b.map fun b => b.answer ()).getD false
    match m.kind with
    | "member_expression" | "subscript_expression" =>
        (Branch.field? below "optional_chain").isSome || follow (Branch.field? below "object")
    | "call_expression" =>
        (Branch.field? below "optional_chain").isSome || follow (Branch.field? below "function")
    | "non_null_expression" => follow (Branch.constructs below).head?
    | _ => false

/-! ## Looking a node up by its span -/

/-- Whether a child may hold the whole of a span: it reaches the end of the span,
and goes beyond its start unless it is empty itself. -/
def reaches (target : Span) (t : Tree) : Bool :=
  target.stop ≤ t.span.stop &&
    (if t.span.start = t.span.stop then target.start ≤ t.span.stop
     else target.start < t.span.stop)

/-- The smallest node that covers a span, tokens included. -/
def smallestCovering (n : Node) (target : Span) : Node :=
  n.fold fun m below =>
    match below.find? (fun b => reaches target b.node.tree) with
    | some b => if b.node.span.start ≤ target.start then b.answer () else m
    | none => m

end Node

/-- The innermost node with exactly this span and kind. -/
def SourceFile.nodeAt? (f : SourceFile) (span : Span) (kind : String) : Option Node :=
  (f.root.smallestCovering span).selfAndAncestors.find? fun n =>
    n.kind == kind && n.span == span

end CallMigration
