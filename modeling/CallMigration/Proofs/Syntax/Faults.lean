import CallMigration.Proofs.Syntax.Node

/-!
# Syntax errors of a tree

The errors of a tree are looked for below the nodes that are marked to hold one, and nowhere
else. What is passed over holds none, so all errors are found, in the order of the nodes. A
file is refused for the first of them.
-/

namespace CallMigration

namespace Tree

theorem anyFault_eq (ts : List Tree) : anyFault ts = ts.any hasFault := by
  induction ts with
  | nil => rfl
  | cons t rest ih => rw [anyFault, ih, List.any_cons]

theorem hasFault_eq (t : Tree) : t.hasFault = (t.isFault || t.children.any hasFault) := by
  cases t with
  | node l cs => rw [hasFault, anyFault_eq, children]

theorem faultsIn_eq (ts : List Tree) : faultsIn ts = ts.flatMap faults := by
  induction ts with
  | nil => rfl
  | cons t rest ih => rw [faultsIn, ih, List.flatMap_cons]

/-- One step down to the errors. -/
theorem faults_eq (t : Tree) :
    t.faults = (if t.isFault then [t.span] else []) ++
      if t.hasFault then t.children.flatMap faults else [] := by
  cases t with
  | node l cs => rw [faults, faultsIn_eq, children, span, label]

end Tree

namespace Node

/-- The node and the nodes below it that report a syntax error, parents before children and in
source order. -/
def faulty (n : Node) : List Node := n.subtree.filter (·.tree.isFault)

theorem faulty_eq (n : Node) :
    n.faulty = (if n.tree.isFault then [n] else []) ++ n.children.flatMap faulty := by
  rw [faulty, subtree_eq, List.filter_cons, List.filter_flatMap]
  split <;> rfl

/-- The nodes marked to hold an error are those with an error in their subtrees. -/
theorem hasFault_iff (n : Node) :
    n.tree.hasFault = true ↔ ∃ m ∈ n.subtree, m.tree.isFault = true := by
  induction n using induction_children with
  | node n ih =>
      have hbelow : n.tree.children.any Tree.hasFault = true ↔
          ∃ c ∈ n.children, ∃ m ∈ c.subtree, m.tree.isFault = true := by
        rw [← map_tree_children, List.any_map, List.any_eq_true]
        exact exists_congr fun c => and_congr_right fun hc => ih c hc
      rw [Tree.hasFault_eq, Bool.or_eq_true, hbelow, subtree_eq]
      constructor
      · rintro (hfault | ⟨c, hc, m, hm, hfault⟩)
        · exact ⟨n, List.mem_cons_self, hfault⟩
        · exact ⟨m, List.mem_cons_of_mem _ (List.mem_flatMap.mpr ⟨c, hc, hm⟩), hfault⟩
      · rintro ⟨m, hm, hfault⟩
        rcases List.mem_cons.mp hm with rfl | hm
        · exact .inl hfault
        · obtain ⟨c, hc, hmc⟩ := List.mem_flatMap.mp hm
          exact .inr ⟨c, hc, m, hmc, hfault⟩

/-- Although clean subtrees are not entered, no error is missed. -/
theorem faults_eq_map_span (n : Node) : n.tree.faults = n.faulty.map span := by
  induction n using induction_children with
  | node n ih =>
      have hchildren : n.tree.children.flatMap Tree.faults =
          (n.children.flatMap faulty).map span := by
        rw [← map_tree_children, List.flatMap_map, List.map_flatMap]
        exact List.flatMap_congr ih
      have hclean : n.tree.hasFault = false → n.children.flatMap faulty = [] := by
        intro hmark
        rw [List.flatMap_eq_nil_iff]
        intro c hc
        rw [faulty, List.filter_eq_nil_iff]
        intro m hm hfault
        have hbelow := n.hasFault_iff.mpr ⟨m, mem_subtree_of_child hc hm, hfault⟩
        exact Bool.false_ne_true (hmark.symm.trans hbelow)
      rw [Tree.faults_eq, faulty_eq, List.map_append, hchildren]
      congr 1
      · split <;> rfl
      · split
        next => rfl
        next hmark => rw [hclean (Bool.eq_false_iff.mpr hmark), List.map_nil]

end Node

/-- A node is marked to hold an error exactly when a node of its subtree reports one. The errors
of a file are the spans of all nodes that report one, each counted once, parents before children
and in source order. The file is refused exactly when there is such a node, and then with the
place and the span of the first one and the number of all. -/
theorem SourceFile.syntaxFault?_eq_head? (file : SourceFile) :
    let faulty := file.root.faulty
    (∀ n ∈ file.root.subtree,
        n.tree.hasFault = true ↔ ∃ m ∈ n.subtree, m.tree.isFault = true) ∧
      file.tree.faults = faulty.map Node.span ∧
      (faulty.Pairwise fun a b => a.address ≠ b.address) ∧
      (∀ n, n ∈ faulty ↔ n ∈ file.root.subtree ∧ n.tree.isFault = true) ∧
      ((syntaxFault? file.path file.text file.tree).isSome = true ↔
        ∃ n ∈ file.root.subtree, n.tree.isFault = true) ∧
      syntaxFault? file.path file.text file.tree = faulty.head?.map fun first =>
        .syntaxError file.path first.location first.span faulty.length := by
  intro faulty
  have hfaults : file.tree.faults = faulty.map Node.span := file.root.faults_eq_map_span
  have hmark : file.tree.hasFault = true ↔ ∃ n ∈ file.root.subtree, n.tree.isFault = true :=
    file.root.hasFault_iff
  have hmem : ∀ n, n ∈ faulty ↔ n ∈ file.root.subtree ∧ n.tree.isFault = true :=
    fun n => List.mem_filter
  have hnonempty : faulty ≠ [] ↔ ∃ n ∈ file.root.subtree, n.tree.isFault = true := by
    rw [← List.isEmpty_eq_false_iff, List.isEmpty_eq_false_iff_exists_mem]
    exact exists_congr hmem
  have hrefused : syntaxFault? file.path file.text file.tree = faulty.head?.map fun first =>
      .syntaxError file.path first.location first.span faulty.length := by
    rw [syntaxFault?, hfaults]
    cases hlist : faulty with
    | nil => simp
    | cons first rest =>
        have hany : file.tree.hasFault = true := hmark.mpr (hnonempty.mp (by simp [hlist]))
        have hplace : first.location = Location.ofOffset file.text first.span.start := by
          have hfirst : first ∈ file.root.subtree :=
            ((hmem first).mp (hlist ▸ List.mem_cons_self)).1
          rw [Node.location, Node.file_of_mem_subtree hfirst]
          rfl
        rw [if_pos hany, List.head?_cons, Option.map_some, hplace, List.length_cons,
          ← List.length_map (f := Node.span)]
        rfl
  refine ⟨fun n _ => n.hasFault_iff, hfaults, ?_, hmem, ?_, hrefused⟩
  · exact file.root.subtree_pairwise_address.filter _
  · rw [hrefused, Option.isSome_map, List.isSome_head?, ← hnonempty]

/-- An error with a missing token inside, a clean name, and a missing token after it. -/
example :
    Tree.faults (.node ⟨"program", true, false, ⟨0, 6⟩, []⟩
      [.node ⟨"ERROR", true, false, ⟨0, 3⟩, []⟩
          [.node ⟨"identifier", true, false, ⟨0, 2⟩, []⟩ [],
            .node ⟨")", false, true, ⟨3, 3⟩, []⟩ []],
        .node ⟨"identifier", true, false, ⟨4, 6⟩, []⟩ [],
        .node ⟨";", false, true, ⟨6, 6⟩, []⟩ []]) = [⟨0, 3⟩, ⟨3, 3⟩, ⟨6, 6⟩] := by
  decide

end CallMigration
