import CallMigration.Proofs.Syntax.Node
import CallMigration.Proofs.Text.Slice

/-!
# What a parser promises

A tree is well formed over a text when its spans fit into the text, lie inside the
span of their parent, and follow one another among siblings. It is layered when
constructs stand below constructs only: tokens and comments hold none. A node is
reached when the way down to it leads through constructs.
-/

namespace CallMigration

namespace Tree

/-- A property of every node of a tree. -/
inductive Everywhere (p : Tree → Prop) : Tree → Prop
  | node {l : Label} {cs : List Tree} (here : p (.node l cs))
      (below : ∀ c ∈ cs, c.Everywhere p) : Everywhere p (.node l cs)

namespace Everywhere

variable {p : Tree → Prop} {t : Tree}

theorem here (hall : t.Everywhere p) : p t := by
  cases hall with
  | node here => exact here

theorem child (hall : t.Everywhere p) {c : Tree} (hc : c ∈ t.children) : c.Everywhere p := by
  cases hall with
  | node _ below => exact below c hc

theorem node_iff {l : Label} {cs : List Tree} :
    (Tree.node l cs).Everywhere p ↔ p (.node l cs) ∧ ∀ c ∈ cs, c.Everywhere p :=
  ⟨fun hall => ⟨hall.here, fun _ => hall.child⟩, fun ⟨here, below⟩ => .node here below⟩

end Everywhere

mutual

/-- Check a property at every node. -/
def decideEverywhere (p : Tree → Prop) [DecidablePred p] : (t : Tree) → Decidable (t.Everywhere p)
  | node l cs =>
      have := decideEverywhereIn p cs
      decidable_of_iff (p (node l cs) ∧ ∀ c ∈ cs, c.Everywhere p) Everywhere.node_iff.symm

/-- Check a property at every node of the trees. -/
def decideEverywhereIn (p : Tree → Prop) [DecidablePred p] :
    (cs : List Tree) → Decidable (∀ c ∈ cs, c.Everywhere p)
  | [] => .isTrue (List.forall_mem_nil _)
  | c :: cs =>
      have := decideEverywhere p c
      have := decideEverywhereIn p cs
      decidable_of_iff (c.Everywhere p ∧ ∀ c ∈ cs, c.Everywhere p) List.forall_mem_cons.symm

end

instance (p : Tree → Prop) [DecidablePred p] (t : Tree) : Decidable (t.Everywhere p) :=
  decideEverywhere p t

/-! ## Spans -/

/-- The span of a node fits into the text and holds those of its children, which are in
order and disjoint. Empty spans may touch their neighbours. -/
structure Nests (text : String) (t : Tree) : Prop where
  fits : t.span.Fits text
  inside : ∀ c ∈ t.children, t.span.start ≤ c.span.start ∧ c.span.stop ≤ t.span.stop
  apart : t.children.Pairwise fun a b => a.span.stop ≤ b.span.start

instance (text : String) : DecidablePred (Nests text) := fun t =>
  decidable_of_iff (t.span.Fits text ∧
      (∀ c ∈ t.children, t.span.start ≤ c.span.start ∧ c.span.stop ≤ t.span.stop) ∧
      t.children.Pairwise fun a b => a.span.stop ≤ b.span.start)
    ⟨fun h => ⟨h.1, h.2.1, h.2.2⟩, fun h => ⟨h.fits, h.inside, h.apart⟩⟩

/-- The spans of a tree nest at every node. -/
def WellFormed (text : String) (t : Tree) : Prop := t.Everywhere (Nests text)

instance (text : String) (t : Tree) : Decidable (t.WellFormed text) :=
  inferInstanceAs (Decidable (t.Everywhere (Nests text)))

namespace WellFormed

variable {text : String} {t : Tree}

theorem nests (hwf : t.WellFormed text) : t.Nests text := Everywhere.here hwf

theorem child (hwf : t.WellFormed text) {c : Tree} (hc : c ∈ t.children) : c.WellFormed text :=
  Everywhere.child hwf hc

end WellFormed

/-! ## Layers -/

/-- Every parent of a construct is a construct. -/
def Layered (t : Tree) : Prop :=
  t.Everywhere fun t => ∀ c ∈ t.children, c.isConstruct = true → t.isConstruct = true

instance (t : Tree) : Decidable t.Layered :=
  inferInstanceAs (Decidable (t.Everywhere _))

namespace Layered

variable {t : Tree}

theorem child (hlayered : t.Layered) {c : Tree} (hc : c ∈ t.children) : c.Layered :=
  Everywhere.child hlayered hc

theorem isConstruct_of_child (hlayered : t.Layered) {c : Tree} (hc : c ∈ t.children)
    (hconstruct : c.isConstruct = true) : t.isConstruct = true :=
  Everywhere.here hlayered c hc hconstruct

end Layered

end Tree

namespace Node

theorem selfAndAncestors_eq (n : Node) : n.selfAndAncestors = n :: n.ancestors := by
  obtain ⟨file, tree, above⟩ := n
  cases above <;> rfl

theorem ancestors_child (n : Node) (t : Tree) (i : Nat) :
    (n.child t i).ancestors = n.selfAndAncestors := rfl

/-- Whether the node is found from the top through constructs alone. The top itself
may be anything. -/
def isReached (n : Node) : Bool :=
  n.selfAndAncestors.dropLast.all (·.tree.isConstruct)

theorem isReached_child (n : Node) (t : Tree) (i : Nat) :
    (n.child t i).isReached = (t.isConstruct && n.isReached) := by
  have hlineage : (n.child t i).selfAndAncestors = n.child t i :: n.selfAndAncestors := rfl
  have hnonempty : n.selfAndAncestors ≠ [] := by simp [selfAndAncestors_eq]
  rw [isReached, hlineage, List.dropLast_cons_of_ne_nil hnonempty, List.all_cons]
  rfl

/-- In a layered tree exactly the constructs below a reached construct are reached. -/
theorem isReached_eq_isConstruct {n : Node} (hlayered : n.tree.Layered)
    (hreached : n.isReached = n.tree.isConstruct) {m : Node} (hm : m ∈ n.subtree) :
    m.isReached = m.tree.isConstruct := by
  induction n using induction_children with
  | node n ih =>
      rw [subtree_eq] at hm
      rcases List.mem_cons.mp hm with rfl | hbelow
      · exact hreached
      · obtain ⟨c, hc, hmc⟩ := List.mem_flatMap.mp hbelow
        obtain ⟨t, ht, i, rfl⟩ := exists_of_mem_children hc
        refine ih _ hc (hlayered.child ht) ?_ hmc
        rw [isReached_child, hreached]
        cases hconstruct : t.isConstruct with
        | false => simp [child, hconstruct]
        | true =>
            rw [hlayered.isConstruct_of_child ht hconstruct, Bool.and_true]
            exact hconstruct.symm

end Node

end CallMigration
