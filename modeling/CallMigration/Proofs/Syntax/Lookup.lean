import CallMigration.Proofs.Syntax.WellFormed

/-!
# Nodes found by their spans

In a well formed tree the way down to the smallest node that covers a span passes through every
node with that span: the siblings before such a node, and before the nodes above it, end where
the span has not begun. So a node that is the only one of its span and kind below itself is found
by them.
-/

namespace CallMigration

namespace Node

variable {text : String} {n m : Node}

/-- What is below a node lies inside its span. -/
theorem inside_of_mem_subtree (hwf : m.tree.WellFormed text) (hn : n ∈ m.subtree) :
    m.span.start ≤ n.span.start ∧ n.span.stop ≤ m.span.stop := by
  induction m using induction_children with
  | node m ih =>
      rw [subtree_eq] at hn
      rcases List.mem_cons.mp hn with rfl | hbelow
      · exact ⟨Nat.le_refl _, Nat.le_refl _⟩
      · obtain ⟨c, hc, hnc⟩ := List.mem_flatMap.mp hbelow
        obtain ⟨t, ht, i, rfl⟩ := exists_of_mem_children hc
        obtain ⟨hstart, hstop⟩ := hwf.nests.inside t ht
        obtain ⟨hstart', hstop'⟩ := ih _ hc (hwf.child ht) hnc
        exact ⟨Nat.le_trans hstart hstart', Nat.le_trans hstop' hstop⟩

/-- The search for a span looks below one child, or it stays where it is. -/
theorem smallestCovering_eq (m : Node) (target : Span) :
    m.smallestCovering target =
      match m.children.find? fun c => reaches target c.tree with
      | some c => if c.span.start ≤ target.start then c.smallestCovering target else m
      | none => m := by
  rw [smallestCovering, fold_eq, List.find?_map]
  simp only [Function.comp_def]
  cases m.children.find? fun c => reaches target c.tree <;> rfl

theorem smallestCovering_mem_subtree (m : Node) (target : Span) :
    m.smallestCovering target ∈ m.subtree := by
  induction m using induction_children with
  | node m ih =>
      rw [smallestCovering_eq]
      split
      next c hc =>
        have hc := List.mem_of_find?_eq_some hc
        split
        · exact mem_subtree_of_child hc (ih c hc)
        · exact m.mem_subtree_self
      next => exact m.mem_subtree_self

/-- The first child that reaches a span inside one of the children is that child. -/
theorem find?_reaches (hwf : m.tree.WellFormed text) {c : Node} (hc : c ∈ m.children)
    {target : Span} (hspan : target.start < target.stop) (hstart : c.span.start ≤ target.start)
    (hstop : target.stop ≤ c.span.stop) :
    (m.children.find? fun c => reaches target c.tree) = some c := by
  have hapart : m.children.Pairwise fun a b => a.span.stop ≤ b.span.start := by
    have hnests := hwf.nests.apart
    rw [← map_tree_children, List.pairwise_map] at hnests
    exact hnests
  obtain ⟨before, after, hsplit⟩ := List.append_of_mem hc
  rw [hsplit] at hapart ⊢
  rw [List.find?_eq_some_iff_append]
  refine ⟨?_, before, after, rfl, ?_⟩
  · have hstop : target.stop ≤ c.tree.span.stop := hstop
    have hreach : target.start < c.tree.span.stop := Nat.lt_of_lt_of_le hspan hstop
    simp only [reaches, hstop, hreach, Nat.le_of_lt hreach, decide_true, ite_self, Bool.and_self]
  · -- What stands before the child ends before the span begins.
    intro b hb
    have hbefore : b.tree.span.stop ≤ c.span.start :=
      (List.pairwise_append.mp hapart).2.2 b hb c List.mem_cons_self
    have hlate : ¬ target.stop ≤ b.tree.span.stop := by omega
    simp only [reaches, hlate, decide_false, Bool.false_and, Bool.not_false]

/-- The search for the span of a node comes by the node. -/
theorem smallestCovering_mem_subtree_of_mem (hwf : m.tree.WellFormed text) (hn : n ∈ m.subtree)
    (hspan : n.span.start < n.span.stop) : m.smallestCovering n.span ∈ n.subtree := by
  induction m using induction_children with
  | node m ih =>
      rw [subtree_eq] at hn
      rcases List.mem_cons.mp hn with rfl | hbelow
      · exact n.smallestCovering_mem_subtree n.span
      · obtain ⟨c, hc, hnc⟩ := List.mem_flatMap.mp hbelow
        have hwfc : c.tree.WellFormed text := by
          obtain ⟨t, ht, i, rfl⟩ := exists_of_mem_children hc
          exact hwf.child ht
        obtain ⟨hstart, hstop⟩ := inside_of_mem_subtree hwfc hnc
        rw [smallestCovering_eq, find?_reaches hwf hc hspan hstart hstop]
        dsimp only
        rw [if_pos hstart]
        exact ih c hc hwfc hnc

/-- The way up from below a node leads to the node and then on as from the node itself. -/
theorem selfAndAncestors_of_mem_subtree (hn : n ∈ m.subtree) :
    ∃ path, n.selfAndAncestors = path ++ m.selfAndAncestors ∧ ∀ x ∈ path, x ∈ m.subtree := by
  induction m using induction_children with
  | node m ih =>
      rw [subtree_eq] at hn
      rcases List.mem_cons.mp hn with rfl | hbelow
      · exact ⟨[], rfl, List.forall_mem_nil _⟩
      · obtain ⟨c, hc, hnc⟩ := List.mem_flatMap.mp hbelow
        obtain ⟨path, hpath, hin⟩ := ih c hc hnc
        obtain ⟨t, ht, i, rfl⟩ := exists_of_mem_children hc
        refine ⟨path ++ [m.child t i], ?_, ?_⟩
        · rw [hpath, selfAndAncestors_eq (m.child t i), ancestors_child, List.append_assoc,
            List.singleton_append]
        · intro x hx
          rcases List.mem_append.mp hx with hx | hx
          · exact mem_subtree_of_child hc (hin x hx)
          · rw [List.mem_singleton.mp hx]
            exact mem_subtree_of_child hc (mem_subtree_self _)

/-- No node further below has the span and the kind of the node. -/
def IsInnermost (n : Node) : Prop :=
  ∀ c ∈ n.children, ∀ x ∈ c.subtree, ¬ (x.kind = n.kind ∧ x.span = n.span)

instance (n : Node) : Decidable n.IsInnermost :=
  inferInstanceAs (Decidable (∀ c ∈ n.children, _))

theorem IsInnermost.eq_self (hinnermost : m.IsInnermost) (hn : n ∈ m.subtree)
    (hkind : n.kind = m.kind) (hspan : n.span = m.span) : n = m := by
  rw [subtree_eq] at hn
  rcases List.mem_cons.mp hn with rfl | hbelow
  · rfl
  · obtain ⟨c, hc, hnc⟩ := List.mem_flatMap.mp hbelow
    exact absurd ⟨hkind, hspan⟩ (hinnermost c hc n hnc)

/-- On the way up from below, the node is the first of its span and kind. -/
theorem find?_selfAndAncestors (hinnermost : m.IsInnermost) (hn : n ∈ m.subtree) :
    (n.selfAndAncestors.find? fun x => x.kind == m.kind && x.span == m.span) = some m := by
  obtain ⟨path, hpath, hin⟩ := selfAndAncestors_of_mem_subtree hn
  rw [hpath, List.find?_append]
  cases hfound : path.find? fun x => x.kind == m.kind && x.span == m.span with
  | none => simp [selfAndAncestors_eq m]
  | some x =>
      have hx := List.find?_some hfound
      simp only [Bool.and_eq_true, beq_iff_eq] at hx
      rw [hinnermost.eq_self (hin x (List.mem_of_find?_eq_some hfound)) hx.1 hx.2, Option.some_or]

end Node

/-- A node of a well formed file is found by its span and kind if it covers some text and no
node further below has both. -/
theorem SourceFile.nodeAt?_eq_some {file : SourceFile} (hwf : file.tree.WellFormed file.text)
    {n : Node} (hn : n ∈ file.root.subtree) (hspan : n.span.start < n.span.stop)
    (hinnermost : n.IsInnermost) : file.nodeAt? n.span n.kind = some n :=
  Node.find?_selfAndAncestors hinnermost
    (Node.smallestCovering_mem_subtree_of_mem (m := file.root) hwf hn hspan)

/-- What is found by a span and a kind is a node of the file with this span and kind. -/
theorem SourceFile.of_nodeAt? {file : SourceFile} {span : Span} {kind : String} {n : Node}
    (hfound : file.nodeAt? span kind = some n) :
    n.file = file ∧ n.span = span ∧ n.kind = kind := by
  obtain ⟨path, hpath, hbelow⟩ := Node.selfAndAncestors_of_mem_subtree
    (file.root.smallestCovering_mem_subtree span)
  have hmem := List.mem_of_find?_eq_some hfound
  have hmatch := List.find?_some hfound
  simp only [Bool.and_eq_true, beq_iff_eq] at hmatch
  refine ⟨?_, hmatch.2, hmatch.1⟩
  rw [hpath] at hmem
  rcases List.mem_append.mp hmem with hmem | hmem
  · exact Node.file_of_mem_subtree (hbelow n hmem)
  · rw [List.mem_singleton.mp hmem]
    rfl

end CallMigration
