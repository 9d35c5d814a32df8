import CallMigration.Proofs.Syntax.WellFormed
import CallMigration.Revision

/-!
# Which nodes are offered

The stack of a walk stands for a list of candidates: a node on it, and below the node
what the transform does not replace as a part of something larger. Walking settles
the candidates one after the other. The candidates of a file are its nodes, parents
before children and in source order, that are reached and not inside a replaced one.
In a well-formed tree whatever comes behind a replaced candidate starts behind it.
-/

namespace CallMigration.Revision

/-- Whether the transform has a replacement for the node. -/
def replaces (transform : Transform) (n : Node) : Bool :=
  match transform n with
  | .ok (some _) => true
  | _ => false

/-- Whether nothing around the node has a replacement. -/
def spares (transform : Transform) (n : Node) : Bool :=
  n.ancestors.all fun a => !replaces transform a

/-- Whether the node is up for an offer: inside nothing that is replaced, and reached
from the top. -/
def isCandidate (transform : Transform) (n : Node) : Bool :=
  spares transform n && n.isReached

/-- The candidates below a node, the node itself first. -/
def candidates (transform : Transform) (n : Node) : List Node :=
  n.fold fun m below => m :: if replaces transform m then [] else
    (Node.Branch.constructs below).flatMap fun b => b.answer ()

theorem candidates_eq (transform : Transform) (n : Node) :
    candidates transform n = n :: if replaces transform n then [] else
      n.constructs.flatMap (candidates transform) := by
  rw [candidates, Node.fold_eq, Node.Branch.constructs, List.filter_map, List.flatMap_map]
  rfl

/-! ## Candidates among all nodes -/

theorem isCandidate_root (transform : Transform) (file : SourceFile) :
    isCandidate transform file.root = true := rfl

theorem isCandidate_child (transform : Transform) (n : Node) (t : Tree) (i : Nat) :
    isCandidate transform (n.child t i) =
      (t.isConstruct && !replaces transform n && isCandidate transform n) := by
  rw [isCandidate, isCandidate, spares, spares, Node.isReached_child, Node.ancestors_child,
    Node.selfAndAncestors_eq, List.all_cons]
  ac_rfl

/-- Going down and leaving out what is inside a replaced node finds the same nodes, in
the same order, as going through all nodes. -/
theorem filter_subtree (transform : Transform) (n : Node) :
    n.subtree.filter (isCandidate transform) =
      if isCandidate transform n then candidates transform n else [] := by
  induction n using Node.induction_children with
  | node n ih =>
      have hchild : ∀ c ∈ n.children, c.subtree.filter (isCandidate transform) =
          if c.tree.isConstruct && !replaces transform n && isCandidate transform n then
            candidates transform c else [] := by
        intro c hc
        rw [ih c hc]
        obtain ⟨t, -, i, rfl⟩ := Node.exists_of_mem_children hc
        rw [isCandidate_child]
        rfl
      rw [Node.subtree_eq, List.filter_cons, List.filter_flatMap, List.flatMap_congr hchild,
        candidates_eq, Node.flatMap_constructs]
      cases isCandidate transform n <;> cases replaces transform n <;> simp

theorem candidates_root (transform : Transform) (file : SourceFile) :
    candidates transform file.root = file.root.subtree.filter (isCandidate transform) := by
  rw [filter_subtree, isCandidate_root, if_pos rfl]

/-- The preorder of a file is its candidates for a transform that keeps everything. -/
theorem preorder_root (file : SourceFile) :
    file.root.preorder = file.root.subtree.filter Node.isReached := by
  have hkeep := candidates_root (fun _ => .ok none) file
  have hreached : isCandidate (fun _ => .ok none) = Node.isReached := by
    funext n
    simp [isCandidate, spares, replaces]
  rw [hreached] at hkeep
  exact hkeep

theorem candidates_eq_filter_preorder (transform : Transform) (file : SourceFile) :
    candidates transform file.root = file.root.preorder.filter (spares transform) := by
  rw [candidates_root, preorder_root, List.filter_filter]
  rfl

theorem file_of_mem_candidates {transform : Transform} {file : SourceFile} {n : Node}
    (hn : n ∈ candidates transform file.root) : n.file = file := by
  rw [candidates_root] at hn
  exact Node.file_of_mem_subtree (List.mem_of_mem_filter hn)

/-! ## The stack -/

/-- Settle nodes one after the other, up to the first that fails. -/
def settleAll (transform : Transform) (d : Draft) : List Node → Run Draft
  | [] => ⟨[], .ok d⟩
  | n :: rest =>
      match d.settle transform n with
      | .error e => ⟨[n], .error e⟩
      | .ok d =>
          let run := settleAll transform d rest
          ⟨n :: run.offered, run.result⟩

/-- A node that does not fail is entered unless it is replaced. -/
theorem entered_of_settle {transform : Transform} {d next : Draft} {n : Node}
    (hok : d.settle transform n = .ok next) :
    entered transform n = if replaces transform n then [] else n.constructs := by
  unfold Draft.settle at hok
  unfold entered replaces
  cases hdecision : transform n with
  | error e =>
      rw [hdecision] at hok
      cases hok
  | ok decision => cases decision <;> rfl

/-- The stack stands for the candidates of its nodes: pushing the constructs of a kept
node replaces the node by the candidates below it. -/
theorem walk_eq_settleAll (transform : Transform) (stack : List Node) (d : Draft) :
    walk transform stack d = settleAll transform d (stack.flatMap (candidates transform)) := by
  fun_induction walk transform stack d with
  | case1 d => rfl
  | case2 n stack d e herror =>
      rw [List.flatMap_cons, candidates_eq, List.cons_append, settleAll, herror]
  | case3 n stack d next hok run ih =>
      have hcandidates : (n :: stack).flatMap (candidates transform) =
          n :: (entered transform n ++ stack).flatMap (candidates transform) := by
        rw [List.flatMap_cons, candidates_eq, List.cons_append, List.flatMap_append,
          entered_of_settle hok]
        cases replaces transform n <;> rfl
      rw [hcandidates, settleAll, hok]
      simp only [run, ih]

/-! ## Spans of candidates -/

/-- Candidates below a node lie inside it. -/
theorem inside_of_mem_candidates {transform : Transform} {text : String} {n m : Node}
    (hwf : n.tree.WellFormed text) (hm : m ∈ candidates transform n) :
    m.span.Fits text ∧ n.span.start ≤ m.span.start ∧ m.span.stop ≤ n.span.stop := by
  induction n using Node.induction_children with
  | node n ih =>
      rw [candidates_eq] at hm
      rcases List.mem_cons.mp hm with rfl | hbelow
      · exact ⟨hwf.nests.fits, Nat.le_refl _, Nat.le_refl _⟩
      · split at hbelow
        · simp at hbelow
        · obtain ⟨c, hc, hmc⟩ := List.mem_flatMap.mp hbelow
          have hchild := List.mem_of_mem_filter hc
          obtain ⟨t, ht, i, rfl⟩ := Node.exists_of_mem_children hchild
          obtain ⟨hfits, hstart, hstop⟩ := ih _ hchild (hwf.child ht) hmc
          have hinside := hwf.nests.inside _ ht
          exact ⟨hfits, Nat.le_trans hinside.1 hstart, Nat.le_trans hstop hinside.2⟩

/-- What comes behind a replaced candidate starts behind it. -/
theorem candidates_pairwise {transform : Transform} {text : String} {n : Node}
    (hwf : n.tree.WellFormed text) :
    (candidates transform n).Pairwise fun a b =>
      replaces transform a = true → a.span.stop ≤ b.span.start := by
  induction n using Node.induction_children with
  | node n ih =>
      rw [candidates_eq]
      split
      · exact List.pairwise_singleton _ _
      next hkept =>
        refine List.pairwise_cons.mpr ⟨fun _ _ hreplaced => absurd hreplaced hkept, ?_⟩
        refine List.pairwise_flatMap.mpr ⟨?_, ?_⟩
        · intro c hc
          have hchild := List.mem_of_mem_filter hc
          obtain ⟨t, ht, i, rfl⟩ := Node.exists_of_mem_children hchild
          exact ih _ hchild (hwf.child ht)
        · -- Candidates below two constructs lie apart because the constructs do.
          have hapart : n.constructs.Pairwise fun a b => a.span.stop ≤ b.span.start := by
            apply List.Pairwise.filter
            have htrees := hwf.nests.apart
            rwa [← n.map_tree_children, List.pairwise_map] at htrees
          refine hapart.imp_of_mem ?_
          intro a b ha hb hle x hx y hy _
          obtain ⟨t, ht, i, rfl⟩ := Node.exists_of_mem_children (List.mem_of_mem_filter ha)
          obtain ⟨t', ht', j, rfl⟩ := Node.exists_of_mem_children (List.mem_of_mem_filter hb)
          have hleft := (inside_of_mem_candidates (hwf.child ht) hx).2.2
          have hright := (inside_of_mem_candidates (hwf.child ht') hy).2.1
          exact Nat.le_trans hleft (Nat.le_trans hle hright)

end CallMigration.Revision
