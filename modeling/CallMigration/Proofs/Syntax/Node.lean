import CallMigration.Syntax.Node
import Mathlib.Data.List.Nodup
import Mathlib.Data.List.Pairwise

/-!
# Going down the tree

What is computed down a tree is computed from the answers of the children, and a
property that passes from the children of a node to the node holds of every node. The
nodes of a subtree, parents before children and in source order, all have different
addresses.
-/

namespace CallMigration

namespace Tree

theorem size_le_sizeIn_of_mem {t : Tree} {ts : List Tree} (ht : t ∈ ts) :
    t.size ≤ sizeIn ts := by
  induction ts with
  | nil => simp at ht
  | cons head rest ih =>
      rw [sizeIn]
      rcases List.mem_cons.mp ht with rfl | hrest
      · exact Nat.le_add_right _ _
      · exact Nat.le_trans (ih hrest) (Nat.le_add_left _ _)

theorem size_lt_of_mem_children {c t : Tree} (hc : c ∈ t.children) : c.size < t.size := by
  cases t with
  | node l cs => exact Nat.lt_succ_of_le (size_le_sizeIn_of_mem hc)

end Tree

namespace Node

/-! ## Children -/

theorem exists_of_mem_childrenFrom {n c : Node} {ts : List Tree} {i : Nat}
    (hc : c ∈ n.childrenFrom ts i) : ∃ t ∈ ts, ∃ j, i ≤ j ∧ c = n.child t j := by
  induction ts generalizing i with
  | nil => simp [childrenFrom] at hc
  | cons t rest ih =>
      rcases List.mem_cons.mp hc with rfl | hrest
      · exact ⟨t, List.mem_cons_self, i, Nat.le_refl i, rfl⟩
      · obtain ⟨t', ht', j, hj, rfl⟩ := ih hrest
        exact ⟨t', List.mem_cons_of_mem _ ht', j, by omega, rfl⟩

theorem exists_of_mem_children {n c : Node} (hc : c ∈ n.children) :
    ∃ t ∈ n.tree.children, ∃ i, c = n.child t i := by
  obtain ⟨t, ht, i, -, rfl⟩ := exists_of_mem_childrenFrom hc
  exact ⟨t, ht, i, rfl⟩

theorem map_tree_childrenFrom (n : Node) (ts : List Tree) (i : Nat) :
    (n.childrenFrom ts i).map (·.tree) = ts := by
  induction ts generalizing i with
  | nil => rfl
  | cons t rest ih => rw [childrenFrom, List.map_cons, ih, child]

theorem map_tree_children (n : Node) : n.children.map (·.tree) = n.tree.children :=
  n.map_tree_childrenFrom n.tree.children 0

theorem flatMap_constructs {α : Type} (n : Node) (f : Node → List α) :
    n.constructs.flatMap f =
      n.children.flatMap fun c => if c.tree.isConstruct then f c else [] := by
  unfold constructs
  induction n.children with
  | nil => rfl
  | cons c rest ih =>
      rw [List.filter_cons, List.flatMap_cons, ← ih]
      split <;> rfl

theorem childrenFrom_pairwise_address (n : Node) (ts : List Tree) (i : Nat) :
    (n.childrenFrom ts i).Pairwise fun a b => a.address ≠ b.address := by
  induction ts generalizing i with
  | nil => exact List.Pairwise.nil
  | cons t rest ih =>
      refine List.pairwise_cons.mpr ⟨?_, ih (i + 1)⟩
      intro c hc heq
      obtain ⟨t', -, j, hj, rfl⟩ := exists_of_mem_childrenFrom hc
      have hindex : i = j := (List.cons.inj heq).1
      omega

/-! ## Recursion and induction -/

theorem foldList_eq_map {α : Type} (step : Node → List (Branch α) → α) (n : Node)
    (ts : List Tree) (i : Nat) :
    foldList step n.file n.tree n.above ts i =
      (n.childrenFrom ts i).map fun c => ⟨c, fun _ => c.fold step⟩ := by
  induction ts generalizing i with
  | nil => simp [foldList, childrenFrom]
  | cons t rest ih =>
      rw [foldList, ih, childrenFrom, List.map_cons]
      rfl

/-- What is computed at a node comes from the node and what is computed at its children. -/
theorem fold_eq {α : Type} (step : Node → List (Branch α) → α) (n : Node) :
    n.fold step = step n (n.children.map fun c => ⟨c, fun _ => c.fold step⟩) := by
  obtain ⟨file, ⟨l, cs⟩, above⟩ := n
  rw [fold, foldTree]
  exact congrArg _ (foldList_eq_map step ⟨file, .node l cs, above⟩ cs 0)

/-- Induction from the children of a node to the node. -/
@[elab_as_elim]
theorem induction_children {motive : Node → Prop}
    (node : ∀ n, (∀ c ∈ n.children, motive c) → motive n) (n : Node) : motive n := by
  induction hsize : n.tree.size using Nat.strongRecOn generalizing n with
  | _ size ih =>
      apply node
      intro c hc
      obtain ⟨t, ht, i, rfl⟩ := exists_of_mem_children hc
      have hlt : t.size < n.tree.size := Tree.size_lt_of_mem_children ht
      exact ih t.size (hsize ▸ hlt) (n.child t i) rfl

/-! ## All nodes of a subtree -/

/-- The node and everything below it, tokens and comments included: parents before
children and in source order. -/
def subtree (n : Node) : List Node :=
  n.fold fun m below => m :: below.flatMap fun b => b.answer ()

theorem subtree_eq (n : Node) : n.subtree = n :: n.children.flatMap subtree := by
  rw [subtree, fold_eq, List.flatMap_map]
  rfl

theorem file_of_mem_subtree {n m : Node} (hm : m ∈ n.subtree) : m.file = n.file := by
  induction n using induction_children with
  | node n ih =>
      rw [subtree_eq] at hm
      rcases List.mem_cons.mp hm with rfl | hbelow
      · rfl
      · obtain ⟨c, hc, hmc⟩ := List.mem_flatMap.mp hbelow
        obtain ⟨t, -, i, rfl⟩ := exists_of_mem_children hc
        exact ih (n.child t i) hc hmc

theorem mem_subtree_self (n : Node) : n ∈ n.subtree := by
  rw [subtree_eq]
  exact List.mem_cons_self

theorem mem_subtree_of_child {n c m : Node} (hc : c ∈ n.children) (hm : m ∈ c.subtree) :
    m ∈ n.subtree := by
  rw [subtree_eq]
  exact List.mem_cons_of_mem _ (List.mem_flatMap.mpr ⟨c, hc, hm⟩)

theorem child_mem_subtree {n m c : Node} (hm : m ∈ n.subtree) (hc : c ∈ m.children) :
    c ∈ n.subtree := by
  induction n using induction_children with
  | node n ih =>
      rw [subtree_eq] at hm
      rcases List.mem_cons.mp hm with rfl | hbelow
      · exact mem_subtree_of_child hc c.mem_subtree_self
      · obtain ⟨c', hc', hmc⟩ := List.mem_flatMap.mp hbelow
        exact mem_subtree_of_child hc' (ih c' hc' hmc)

/-- Below the top of a subtree every node has its parent in it. -/
theorem parent_mem_subtree {n m : Node} (hm : m ∈ n.subtree) :
    m = n ∨ ∃ parent ∈ n.subtree, m.parent? = some parent := by
  induction n using induction_children with
  | node n ih =>
      rw [subtree_eq] at hm
      rcases List.mem_cons.mp hm with rfl | hbelow
      · exact .inl rfl
      · obtain ⟨c, hc, hmc⟩ := List.mem_flatMap.mp hbelow
        rcases ih c hc hmc with rfl | ⟨parent, hparent, hstep⟩
        · obtain ⟨t, -, i, rfl⟩ := exists_of_mem_children hc
          exact .inr ⟨n, n.mem_subtree_self, rfl⟩
        · exact .inr ⟨parent, mem_subtree_of_child hc hparent, hstep⟩

/-- The address of a node below another continues the address of the other. -/
theorem address_suffix_of_mem_subtree {n m : Node} (hm : m ∈ n.subtree) :
    n.address <:+ m.address := by
  induction n using induction_children with
  | node n ih =>
      rw [subtree_eq] at hm
      rcases List.mem_cons.mp hm with rfl | hbelow
      · exact List.suffix_rfl
      · obtain ⟨c, hc, hmc⟩ := List.mem_flatMap.mp hbelow
        obtain ⟨t, -, i, rfl⟩ := exists_of_mem_children hc
        exact (List.suffix_cons i n.address).trans (ih (n.child t i) hc hmc)

/-- Below different children there are different addresses. -/
theorem eq_of_address_eq {n a b x y : Node} (ha : a ∈ n.children) (hb : b ∈ n.children)
    (hx : x ∈ a.subtree) (hy : y ∈ b.subtree) (heq : x.address = y.address) : a = b := by
  -- The addresses of both children end the same address, and they are of one length.
  have hends := address_suffix_of_mem_subtree hx
  have hends' := address_suffix_of_mem_subtree hy
  rw [heq] at hends
  have hlength : a.address.length = b.address.length := by
    obtain ⟨t, -, i, rfl⟩ := exists_of_mem_children ha
    obtain ⟨t', -, j, rfl⟩ := exists_of_mem_children hb
    rfl
  have haddress : a.address = b.address :=
    (List.suffix_of_suffix_length_le hends hends' (Nat.le_of_eq hlength)).eq_of_length hlength
  have hnodup := List.pairwise_map.mpr (n.childrenFrom_pairwise_address n.tree.children 0)
  exact List.inj_on_of_nodup_map hnodup ha hb haddress

/-- A node further below has a longer address. -/
theorem address_length_lt {n c m : Node} (hc : c ∈ n.children) (hm : m ∈ c.subtree) :
    n.address.length < m.address.length := by
  obtain ⟨t, -, i, rfl⟩ := exists_of_mem_children hc
  exact (address_suffix_of_mem_subtree hm).length_le

theorem subtree_pairwise_address (n : Node) :
    n.subtree.Pairwise fun a b => a.address ≠ b.address := by
  induction n using induction_children with
  | node n ih =>
      rw [subtree_eq]
      refine List.pairwise_cons.mpr ⟨?_, List.pairwise_flatMap.mpr ⟨ih, ?_⟩⟩
      · intro m hm heq
        obtain ⟨c, hc, hmc⟩ := List.mem_flatMap.mp hm
        exact absurd (congrArg List.length heq) (Nat.ne_of_lt (address_length_lt hc hmc))
      · refine (n.childrenFrom_pairwise_address n.tree.children 0).imp_of_mem ?_
        intro a b ha hb hne x hx y hy heq
        exact hne (congrArg address (eq_of_address_eq ha hb hx hy heq))

end Node

end CallMigration
