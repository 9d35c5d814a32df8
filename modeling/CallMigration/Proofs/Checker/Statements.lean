import CallMigration.Proofs.Checker.Returns
import CallMigration.Proofs.Types.Joining
import Mathlib.Logic.Relation

/-!
# Return statements of a body

The `return` statements of a body are found by a search: a node is visited, the statements
directly below it are found, and its other constructs, functions apart, are to be visited too.
Whichever node is visited next, the search ends with the same statements, which are those that
belong to the body, and each is found once. So the order of the visits decides on nothing but
the order of the members of the type that the body returns.
-/

namespace CallMigration

open StaticType Outcome Checker

namespace Outcome

variable {α β : Type} {f : α → Outcome β}

theorem mapAll_cons_eq_ok_iff {a : α} {as : List α} {bs : List β} :
    mapAll f (a :: as) = .ok bs ↔
      ∃ b rest, f a = .ok b ∧ mapAll f as = .ok rest ∧ bs = b :: rest := by
  rw [mapAll]
  cases f a with
  | ok b => cases mapAll f as <;> simp [bind, Outcome.bind, pure, eq_comm]
  | error e => simp [bind, Outcome.bind]
  | exhausted => simp [bind, Outcome.bind]

/-- All questions are answered when each of them is. -/
theorem exists_mapAll_iff {as : List α} :
    (∃ bs, mapAll f as = .ok bs) ↔ ∀ a ∈ as, ∃ b, f a = .ok b := by
  induction as with
  | nil => simp [mapAll]
  | cons a as ih =>
      rw [List.forall_mem_cons, ← ih]
      simp only [mapAll_cons_eq_ok_iff]
      constructor
      · rintro ⟨_, b, rest, hb, hrest, -⟩
        exact ⟨⟨b, hb⟩, rest, hrest⟩
      · rintro ⟨⟨b, hb⟩, rest, hrest⟩
        exact ⟨b :: rest, b, rest, hb, hrest, rfl⟩

/-- Questions in another order have the same answers, in that order. -/
theorem exists_mapAll_of_perm {as as' : List α} (hperm : as.Perm as') {bs : List β}
    (hbs : mapAll f as = .ok bs) : ∃ bs', mapAll f as' = .ok bs' ∧ bs'.Perm bs := by
  induction hperm generalizing bs with
  | nil => exact ⟨bs, hbs, .refl _⟩
  | cons a _ ih =>
      obtain ⟨b, rest, hb, hrest, rfl⟩ := mapAll_cons_eq_ok_iff.mp hbs
      obtain ⟨rest', hrest', hperm⟩ := ih hrest
      exact ⟨b :: rest', mapAll_cons_eq_ok_iff.mpr ⟨b, rest', hb, hrest', rfl⟩, hperm.cons b⟩
  | swap a a' as =>
      obtain ⟨b, rest, hb, hrest, rfl⟩ := mapAll_cons_eq_ok_iff.mp hbs
      obtain ⟨b', last, hb', hlast, rfl⟩ := mapAll_cons_eq_ok_iff.mp hrest
      refine ⟨b' :: b :: last, ?_, .swap b b' _⟩
      refine mapAll_cons_eq_ok_iff.mpr ⟨b', b :: last, hb', ?_, rfl⟩
      exact mapAll_cons_eq_ok_iff.mpr ⟨b, last, hb, hlast, rfl⟩
  | trans _ _ ih ih' =>
      obtain ⟨middle, hmiddle, hfirst⟩ := ih hbs
      obtain ⟨bs', hbs', hsecond⟩ := ih' hmiddle
      exact ⟨bs', hbs', hsecond.trans hfirst⟩

theorem forall_of_mapAll {as : List α} {bs : List β} (hbs : mapAll f as = .ok bs) {P : β → Prop}
    (hf : ∀ a ∈ as, ∀ b, f a = .ok b → P b) : ∀ b ∈ bs, P b := by
  induction as generalizing bs with
  | nil =>
      cases hbs
      exact List.forall_mem_nil _
  | cons a as ih =>
      obtain ⟨b, rest, hb, hrest, rfl⟩ := mapAll_cons_eq_ok_iff.mp hbs
      obtain ⟨ha, has⟩ := List.forall_mem_cons.mp hf
      exact List.forall_mem_cons.mpr ⟨ha b hb, ih hrest has⟩

end Outcome

namespace Node

theorem preorder_eq (n : Node) : n.preorder = n :: n.constructs.flatMap preorder := by
  rw [preorder, fold_eq]
  simp only [constructs_branches, List.flatMap_map]
  rfl

theorem mem_preorder_self (n : Node) : n ∈ n.preorder := by
  rw [preorder_eq]
  exact List.mem_cons_self

theorem mem_children_of_construct {n c : Node} (hc : c ∈ n.constructs) : c ∈ n.children :=
  List.mem_of_mem_filter hc

theorem mem_preorder_of_construct {n c m : Node} (hc : c ∈ n.constructs) (hm : m ∈ c.preorder) :
    m ∈ n.preorder := by
  rw [preorder_eq]
  exact List.mem_cons_of_mem _ (List.mem_flatMap.mpr ⟨c, hc, hm⟩)

theorem mem_subtree_of_mem_preorder {n m : Node} (hm : m ∈ n.preorder) : m ∈ n.subtree := by
  induction n using induction_children with
  | node n ih =>
      rw [preorder_eq] at hm
      rcases List.mem_cons.mp hm with rfl | hbelow
      · exact m.mem_subtree_self
      · obtain ⟨c, hc, hmc⟩ := List.mem_flatMap.mp hbelow
        have hchild := mem_children_of_construct hc
        exact mem_subtree_of_child hchild (ih c hchild hmc)

theorem mem_preorder_trans {n m k : Node} (hm : m ∈ n.preorder) (hk : k ∈ m.preorder) :
    k ∈ n.preorder := by
  induction n using induction_children with
  | node n ih =>
      rw [preorder_eq] at hm
      rcases List.mem_cons.mp hm with rfl | hbelow
      · exact hk
      · obtain ⟨c, hc, hmc⟩ := List.mem_flatMap.mp hbelow
        exact mem_preorder_of_construct hc (ih c (mem_children_of_construct hc) hmc)

/-- What is below a construct is not the node itself. -/
theorem ne_of_mem_preorder_construct {n c m : Node} (hc : c ∈ n.constructs)
    (hm : m ∈ c.preorder) : m ≠ n := by
  rintro rfl
  exact Nat.lt_irrefl _ (address_length_lt (mem_children_of_construct hc)
    (mem_subtree_of_mem_preorder hm))

/-- A node is below one construct only. -/
theorem construct_unique {n c c' m : Node} (hc : c ∈ n.constructs) (hc' : c' ∈ n.constructs)
    (hm : m ∈ c.preorder) (hm' : m ∈ c'.preorder) : c' = c :=
  eq_of_address_eq (mem_children_of_construct hc') (mem_children_of_construct hc)
    (mem_subtree_of_mem_preorder hm') (mem_subtree_of_mem_preorder hm) rfl

/-- Two nodes that are below each other are the same. -/
theorem eq_of_mem_preorder {n m : Node} (hm : m ∈ n.preorder) (hn : n ∈ m.preorder) : m = n := by
  rw [preorder_eq] at hm
  rcases List.mem_cons.mp hm with rfl | hbelow
  · rfl
  · obtain ⟨c, hc, hmc⟩ := List.mem_flatMap.mp hbelow
    have hlonger :=
      address_length_lt (mem_children_of_construct hc) (mem_subtree_of_mem_preorder hmc)
    have hshorter := (address_suffix_of_mem_subtree (mem_subtree_of_mem_preorder hn)).length_le
    omega

end Node

namespace Checker

/-! ## Statements that belong to a node -/

/-- The `return` statements directly below a node. -/
def directReturns (n : Node) : List Node := n.constructs.filter (·.kind == "return_statement")

/-- The nodes directly below a node that may hold further statements of it. -/
def opened (n : Node) : List Node :=
  n.constructs.filter fun c => c.kind != "return_statement" && !isFunctionLike c.kind

/-- The statement is below the node, the way down to it leads through constructs, and none of
those strictly between the two is a function or another `return` statement. -/
structure BelongsTo (stmt n : Node) : Prop where
  kind : stmt.kind = "return_statement"
  below : stmt ∈ n.preorder
  ne : stmt ≠ n
  between : ∀ m ∈ n.preorder, stmt ∈ m.preorder → m ≠ n → m ≠ stmt →
    m.kind ≠ "return_statement" ∧ isFunctionLike m.kind = false

theorem mem_directReturns {n stmt : Node} :
    stmt ∈ directReturns n ↔ stmt ∈ n.constructs ∧ stmt.kind = "return_statement" := by
  simp [directReturns]

theorem mem_opened {n c : Node} :
    c ∈ opened n ↔
      c ∈ n.constructs ∧ c.kind ≠ "return_statement" ∧ isFunctionLike c.kind = false := by
  simp [opened]

theorem mem_returnStatements {n stmt : Node} :
    stmt ∈ returnStatements n ↔
      stmt ∈ directReturns n ∨ ∃ c ∈ opened n, stmt ∈ returnStatements c := by
  rw [returnStatements_eq, List.mem_append, List.mem_flatMap]
  simp only [List.mem_reverse]
  rfl

/-- A statement of a node is directly below it or belongs to a node that is opened. -/
theorem belongsTo_iff {n stmt : Node} :
    BelongsTo stmt n ↔ stmt ∈ directReturns n ∨ ∃ c ∈ opened n, BelongsTo stmt c := by
  have hbelow : ∀ {m}, m ∈ n.preorder → m ≠ n → ∃ c ∈ n.constructs, m ∈ c.preorder := by
    intro m hm hne
    rw [Node.preorder_eq] at hm
    exact List.mem_flatMap.mp ((List.mem_cons.mp hm).resolve_left hne)
  constructor
  · intro h
    obtain ⟨c, hc, hstmt⟩ := hbelow h.below h.ne
    by_cases heq : stmt = c
    · exact .inl (mem_directReturns.mpr ⟨heq ▸ hc, h.kind⟩)
    · -- The construct on the way to the statement is strictly between, so it is opened.
      obtain ⟨hreturn, hfunction⟩ := h.between c
        (Node.mem_preorder_of_construct hc c.mem_preorder_self) hstmt
        (Node.ne_of_mem_preorder_construct hc c.mem_preorder_self) (Ne.symm heq)
      refine .inr ⟨c, mem_opened.mpr ⟨hc, hreturn, hfunction⟩, h.kind, hstmt, heq, ?_⟩
      intro m hm hstmt _ hne
      exact h.between m (Node.mem_preorder_of_construct hc hm) hstmt
        (Node.ne_of_mem_preorder_construct hc hm) hne
  · rintro (hdirect | ⟨c, hopened, h⟩)
    · obtain ⟨hstmt, hkind⟩ := mem_directReturns.mp hdirect
      refine ⟨hkind, Node.mem_preorder_of_construct hstmt stmt.mem_preorder_self,
        Node.ne_of_mem_preorder_construct hstmt stmt.mem_preorder_self, ?_⟩
      -- Nothing is strictly between a node and what is directly below it.
      intro m hm hin hmn hne
      obtain ⟨c, hc, hmc⟩ := hbelow hm hmn
      obtain rfl := Node.construct_unique hstmt hc stmt.mem_preorder_self
        (Node.mem_preorder_trans hmc hin)
      exact absurd (Node.eq_of_mem_preorder hmc hin) hne
    · obtain ⟨hc, hreturn, hfunction⟩ := mem_opened.mp hopened
      refine ⟨h.kind, Node.mem_preorder_of_construct hc h.below,
        Node.ne_of_mem_preorder_construct hc h.below, ?_⟩
      intro m hm hin hmn hne
      obtain ⟨c', hc', hmc⟩ := hbelow hm hmn
      obtain rfl := Node.construct_unique hc hc' h.below (Node.mem_preorder_trans hmc hin)
      by_cases heq : m = c'
      · exact heq ▸ ⟨hreturn, hfunction⟩
      · exact h.between m hmc hin heq hne

theorem mem_returnStatements_iff {n stmt : Node} :
    stmt ∈ returnStatements n ↔ BelongsTo stmt n := by
  induction n using Node.induction_children with
  | node n ih =>
      rw [mem_returnStatements, belongsTo_iff]
      refine or_congr_right (exists_congr fun c => and_congr_right fun hc => ?_)
      exact ih c (Node.mem_children_of_construct (mem_opened.mp hc).1)

/-- No statement is found twice. -/
theorem returnStatements_pairwise_address (n : Node) :
    (returnStatements n).Pairwise fun a b => a.address ≠ b.address := by
  induction n using Node.induction_children with
  | node n ih =>
      have hchildren : n.constructs.Pairwise fun a b => a.address ≠ b.address :=
        (n.childrenFrom_pairwise_address n.tree.children 0).filter _
      have hinside : ∀ {c stmt}, stmt ∈ returnStatements c → stmt ∈ c.subtree :=
        fun h => Node.mem_subtree_of_mem_preorder (mem_returnStatements_iff.mp h).below
      rw [returnStatements_eq]
      refine List.pairwise_append.mpr ⟨hchildren.filter _, List.pairwise_flatMap.mpr ⟨?_, ?_⟩, ?_⟩
      · intro c hc
        have hkept := List.mem_of_mem_filter (List.mem_reverse.mp hc)
        exact ih c (Node.mem_children_of_construct hkept)
      · rw [List.pairwise_reverse]
        refine (hchildren.filter _).imp_of_mem ?_
        intro a b ha hb hne x hx y hy heq
        have ha := Node.mem_children_of_construct (List.mem_of_mem_filter ha)
        have hb := Node.mem_children_of_construct (List.mem_of_mem_filter hb)
        exact hne (congrArg Node.address
          (Node.eq_of_address_eq ha hb (hinside hy) (hinside hx) heq.symm))
      · -- A statement directly below the node is itself not opened.
        intro stmt hstmt x hx heq
        obtain ⟨c, hc, hxc⟩ := List.mem_flatMap.mp hx
        obtain ⟨hstmt, hkind⟩ := mem_directReturns.mp hstmt
        obtain ⟨hc, hother, -⟩ := mem_opened.mp (List.mem_reverse.mp hc)
        obtain rfl := Node.eq_of_address_eq (Node.mem_children_of_construct hstmt)
          (Node.mem_children_of_construct hc) stmt.mem_subtree_self (hinside hxc) heq
        exact hother hkind

/-! ## The search -/

/-- A search for statements: the nodes that are still to be visited, and what is found. -/
structure Search where
  pending : List Node
  found : List Node

namespace Search

/-- One of the pending nodes is visited. -/
inductive Step : Search → Search → Prop
  | visit (before : List Node) (n : Node) (after found : List Node) :
      Step ⟨before ++ n :: after, found⟩
        ⟨before ++ after ++ opened n, found ++ directReturns n⟩

/-- The last of the pending nodes is visited. -/
inductive Pop : Search → Search → Prop
  | visit (before : List Node) (n : Node) (found : List Node) :
      Pop ⟨before ++ [n], found⟩ ⟨before ++ opened n, found ++ directReturns n⟩

theorem Pop.step {s s' : Search} (hpop : Pop s s') : Step s s' := by
  cases hpop with
  | visit before n found => simpa using Step.visit before n [] found

/-- What a search finds in the end, when the last pending node is always the next. -/
def outcome (s : Search) : List Node := s.found ++ s.pending.reverse.flatMap returnStatements

theorem Pop.outcome_eq {s s' : Search} (hpop : Pop s s') : s'.outcome = s.outcome := by
  cases hpop with
  | visit before n found =>
      simp only [outcome, List.reverse_append, List.reverse_singleton, List.singleton_append,
        List.flatMap_cons, List.flatMap_append, List.append_assoc]
      rw [returnStatements_eq n, List.append_assoc]
      rfl

/-- Whichever node is visited, what is found in the end differs in its order only. -/
theorem Step.outcome_perm {s s' : Search} (hstep : Step s s') : s'.outcome.Perm s.outcome := by
  have hforward : ∀ s : Search,
      s.outcome.Perm (s.found ++ s.pending.flatMap returnStatements) := fun s =>
    (s.pending.reverse_perm.flatMap_right _).append_left _
  refine (hforward s').trans (.trans ?_ (hforward s).symm)
  cases hstep with
  | visit before n after found =>
      have hopened := (opened n).reverse_perm.flatMap_right returnStatements
      have hn : returnStatements n =
          directReturns n ++ (opened n).reverse.flatMap returnStatements := returnStatements_eq n
      simp only [List.flatMap_append, List.flatMap_cons, List.append_assoc, hn]
      refine List.Perm.append_left found ?_
      -- The statements found directly come first now, those below the opened nodes last.
      refine .trans ?_ (List.perm_append_comm_assoc _ _ _)
      refine List.Perm.append_left (directReturns n) (List.Perm.append_left _ ?_)
      exact List.perm_append_comm.trans (hopened.symm.append_right _)

theorem outcome_perm_of_run {s s' : Search} (hrun : Relation.ReflTransGen Step s s') :
    s'.outcome.Perm s.outcome := by
  induction hrun with
  | refl => exact .refl _
  | tail _ hstep ih => exact hstep.outcome_perm.trans ih

theorem sizeIn_opened_lt (n : Node) : Tree.sizeIn ((opened n).map (·.tree)) < n.tree.size := by
  have hle := n.sizeIn_childrenFrom_le (fun c =>
    (c.kind != "return_statement" && !isFunctionLike c.kind) && c.tree.isConstruct)
    n.tree.children 0
  rw [← List.filter_filter] at hle
  refine Nat.lt_of_le_of_lt hle ?_
  cases n.tree with
  | node l cs => exact Nat.lt_succ_self _

/-- A search in which the last pending node is always the next ends with its outcome. -/
theorem exists_pops (s : Search) : Relation.ReflTransGen Pop s ⟨[], s.outcome⟩ := by
  induction hsize : Tree.sizeIn (s.pending.map (·.tree)) using Nat.strongRecOn generalizing s with
  | _ size ih =>
      obtain ⟨pending, found⟩ := s
      rcases List.eq_nil_or_concat' pending with rfl | ⟨before, n, rfl⟩
      · rw [outcome, List.reverse_nil, List.flatMap_nil, List.append_nil]
      · have hpop := Pop.visit before n found
        rw [← hpop.outcome_eq]
        refine .head hpop (ih _ ?_ _ rfl)
        have hless := sizeIn_opened_lt n
        simp only [List.map_append, List.map_singleton, Tree.sizeIn_append, Tree.sizeIn] at hsize ⊢
        omega

end Search

/-! ## Types of what is found -/

/-- The type of statements of the given types: nothing is returned where there is none. -/
def returnedUnion (types : List StaticType) : StaticType :=
  if types.isEmpty then .primitive "void" else join types

/-- The order of the types decides on the order of the members only. -/
theorem members_returnedUnion_perm {types types' : List StaticType}
    (htypes : ∀ t ∈ types, t.Normal) (hperm : types'.Perm types) :
    (returnedUnion types').members.Perm (returnedUnion types).members := by
  unfold returnedUnion
  rw [hperm.isEmpty_eq]
  split
  · exact .refl _
  · exact members_join_perm htypes hperm

variable {p : Program} {function body : Node} {depth : Nat}

theorem normal_of_returnedType {stmt : Node} {t : StaticType}
    (ht : returnedType p.answers (depth + inferenceCost) stmt = .ok t) : t.Normal := by
  unfold returnedType at ht
  cases hvalue : stmt.firstConstruct? with
  | none =>
      rw [hvalue] at ht
      cases ht
      exact .undefined
  | some value =>
      rw [hvalue] at ht
      exact normal_of_expression ht

/-- Let the body of a function that is no generator be a block. The statements whose types make
up what it returns are found by visiting the last pending node each time. A bare statement has
the type `undefined`, any other the type of its value. A search that visits the nodes in any
other order finds the statements that belong to the body too, each once. The function has a type
exactly when all of these have one, and whatever order they are typed in, their union has the
members of that type, a promise around it apart. -/
theorem inferredReturnType_of_search (hfunction : function.field? "body" = some body)
    (hbody : body.kind = "statement_block") (hplain : function.hasToken "*" = false)
    (depth : Nat) :
    let typed := returnedType p.answers (depth + inferenceCost)
    let inferred := inferredReturnType p.answers function depth
    Relation.ReflTransGen Search.Pop ⟨[body], []⟩ ⟨[], returnStatements body⟩ ∧
      inferred = (promised function ∘ returnedUnion) <$> mapAll typed (returnStatements body) ∧
      (∀ stmt, stmt.firstConstruct? = none → typed stmt = .ok .undefined) ∧
      (∀ stmt value, stmt.firstConstruct? = some value →
        typed stmt = p.answers.expression value (depth + inferenceCost)) ∧
      ∀ found, Relation.ReflTransGen Search.Step ⟨[body], []⟩ ⟨[], found⟩ →
        (∀ stmt, stmt ∈ found ↔ BelongsTo stmt body) ∧
        (found.Pairwise fun a b => a.address ≠ b.address) ∧
        ((∃ t, inferred = .ok t) ↔ ∀ stmt, BelongsTo stmt body → ∃ t, typed stmt = .ok t) ∧
        ∀ types, mapAll typed found = .ok types →
          ∃ t, inferred = .ok (promised function t) ∧
            t.members.Perm (returnedUnion types).members := by
  intro typed inferred
  have hinferred : inferred =
      (promised function ∘ returnedUnion) <$> mapAll typed (returnStatements body) :=
    inferredReturnType_of_block hfunction hbody hplain
  have hpops := Search.exists_pops ⟨[body], []⟩
  have houtcome : Search.outcome ⟨[body], []⟩ = returnStatements body := by
    simp [Search.outcome]
  rw [houtcome] at hpops
  refine ⟨hpops, hinferred, ?_, ?_, ?_⟩
  · intro stmt hbare
    simp only [typed, returnedType, hbare, onSome]
  · intro stmt value hvalue
    simp only [typed, returnedType, hvalue, onSome]
  · intro found hrun
    have hperm : found.Perm (returnStatements body) := by
      have hfound := Search.outcome_perm_of_run hrun
      rw [houtcome] at hfound
      simpa [Search.outcome] using hfound
    have hmem : ∀ stmt, stmt ∈ found ↔ BelongsTo stmt body := fun stmt =>
      hperm.mem_iff.trans mem_returnStatements_iff
    refine ⟨hmem, ?_, ?_, ?_⟩
    · exact (hperm.pairwise_iff Ne.symm).mpr (returnStatements_pairwise_address body)
    · have hall : (∃ types, mapAll typed (returnStatements body) = .ok types) ↔
          ∀ stmt, BelongsTo stmt body → ∃ t, typed stmt = .ok t := by
        rw [exists_mapAll_iff]
        exact forall_congr' fun stmt => imp_congr_left mem_returnStatements_iff
      rw [← hall, hinferred]
      cases mapAll typed (returnStatements body) <;> simp [Functor.map, Outcome.bind]
    · intro types htypes
      obtain ⟨types', htypes', hsame⟩ := exists_mapAll_of_perm hperm htypes
      have hnormal : ∀ t ∈ types, t.Normal :=
        forall_of_mapAll htypes fun stmt _ t ht => normal_of_returnedType ht
      refine ⟨returnedUnion types', ?_, members_returnedUnion_perm hnormal hsame⟩
      rw [hinferred, htypes']
      rfl

namespace Sample

open Program.Sample (construct)

/-- A function with a statement in each of two blocks, one of them bare, and a third statement
that belongs to a function inside. -/
def branching : Program :=
  let first := construct "return_statement" 24 36 [] [construct "null" 31 35 [] []]
  let inner := construct "return_statement" 49 58 [] [construct "number" 56 57 [] []]
  let second := construct "return_statement" 62 69 [] []
  let tree := construct "program" 0 73 []
    [construct "function_declaration" 0 73 []
      [construct "identifier" 9 10 ["name"] [],
        construct "formal_parameters" 10 12 ["parameters"] [],
        construct "statement_block" 13 73 ["body"]
          [construct "if_statement" 15 38 []
              [construct "parenthesized_expression" 18 21 ["condition"]
                  [construct "number" 19 20 [] []],
                construct "statement_block" 22 38 ["consequence"] [first]],
            construct "statement_block" 39 71 []
              [construct "expression_statement" 41 61 []
                  [construct "arrow_function" 41 60 []
                    [construct "formal_parameters" 41 43 ["parameters"] [],
                      construct "statement_block" 47 60 ["body"] [inner]]],
                second]]]]
  let text :=
    "function f() \x7b if (1) \x7b return null; \x7d " ++
      "\x7b () => \x7b return 1; \x7d; return; \x7d \x7d"
  ⟨[⟨0, ⟨"a.ts"⟩, text, .typeScript, tree⟩], .standard⟩

end Sample

/-- The last block is visited first, so `undefined` is the first member. The statement of the
function inside does not belong to the body. -/
theorem inferredReturnType_of_search_sample :
    let function := Sample.nodeOf Sample.branching [0]
    let body := Sample.nodeOf Sample.branching [0, 2]
    (function.field? "body" = some body ∧ body.kind = "statement_block" ∧
        function.hasToken "*" = false) ∧
      Relation.ReflTransGen Search.Step ⟨[body], []⟩ ⟨[], returnStatements body⟩ ∧
      BelongsTo (Sample.nodeOf Sample.branching [0, 2, 0, 1, 0]) body ∧
      BelongsTo (Sample.nodeOf Sample.branching [0, 2, 1, 1]) body ∧
      ¬BelongsTo (Sample.nodeOf Sample.branching [0, 2, 1, 0, 0, 1, 0]) body ∧
      inferredReturnType Sample.branching.answers function 0 =
        .ok (.union [.undefined, .null]) := by
  intro function body
  have hbody : function.field? "body" = some body := rfl
  have hplain : function.hasToken "*" = false := by decide +kernel
  obtain ⟨hpops, -, -, -, hsearch⟩ :=
    inferredReturnType_of_search (p := Sample.branching) hbody rfl hplain 0
  have hrun := Relation.ReflTransGen.mono (fun _ _ => Search.Pop.step) _ _ hpops
  obtain ⟨hmem, -, -, -⟩ := hsearch _ hrun
  have hfound : returnStatements body =
      [Sample.nodeOf Sample.branching [0, 2, 1, 1],
        Sample.nodeOf Sample.branching [0, 2, 0, 1, 0]] := rfl
  refine ⟨⟨hbody, rfl, hplain⟩, hrun, ?_, ?_, ?_, by decide +kernel⟩
  · exact (hmem _).mp (by simp [hfound])
  · exact (hmem _).mp (by simp [hfound])
  · rw [← hmem, hfound]
    intro hinner
    have haddress := List.mem_map_of_mem (f := Node.address) hinner
    revert haddress
    decide

end Checker

end CallMigration
