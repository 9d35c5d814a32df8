import CallMigration.Proofs.Syntax.Node

/-!
# Optional chains

An access goes on from its object, a call from its callee and `!` from its operand. A node
is in an optional chain when a link on the way down is written with `?.`. The way down is
followed by `Node.isOptionalChain`, which knows a link by its field: it misses the chains all
of whose signs are bare tokens of calls.
-/

namespace CallMigration

namespace Node

/-- What a link goes on from. -/
def linked? (n : Node) : Option Node :=
  match n.kind with
  | "member_expression" | "subscript_expression" => n.field? "object"
  | "call_expression" => n.field? "function"
  | "non_null_expression" => n.firstConstruct?
  | _ => none

/-- Whether an access or a call has `?.` under a field. -/
def isMarked (n : Node) : Bool :=
  n.kind ∈ ["member_expression", "subscript_expression", "call_expression"] &&
    (n.field? "optional_chain").isSome

/-- Whether an access or a call is written with `?.`, which in a call is a bare token. -/
def isOptional (n : Node) : Bool :=
  n.isMarked || (n.kind == "call_expression" && n.hasToken "?.")

/-- Some link from the node down has the sign. -/
inductive Chained (sign : Node → Bool) : Node → Prop
  | link {n : Node} (hsign : sign n = true) : Chained sign n
  | next {n m : Node} (hm : n.linked? = some m) (hchain : Chained sign m) : Chained sign n

/-- Only accesses, calls and `!` are in a chain. -/
theorem Chained.kind {n : Node} (hn : Chained isOptional n) :
    n.kind ∈ ["member_expression", "subscript_expression", "call_expression",
      "non_null_expression"] := by
  cases hn with
  | link hsign =>
      simp only [isOptional, isMarked, Bool.or_eq_true, Bool.and_eq_true, decide_eq_true_eq,
        beq_iff_eq] at hsign
      rcases hsign with ⟨hkind, -⟩ | ⟨hkind, -⟩
      · exact List.mem_append_left _ hkind
      · simp [hkind]
  | next hm =>
      unfold linked? at hm
      split at hm
      next hkind => simp [hkind]
      next hkind => simp [hkind]
      next hkind => simp [hkind]
      next hkind => simp [hkind]
      next => cases hm

theorem mem_children_of_linked? {n m : Node} (hm : n.linked? = some m) : m ∈ n.children := by
  unfold linked? at hm
  split at hm
  next => exact List.mem_of_find?_eq_some hm
  next => exact List.mem_of_find?_eq_some hm
  next => exact List.mem_of_find?_eq_some hm
  next => exact (List.mem_filter.mp (List.mem_of_head? hm)).1
  next => cases hm

section Branches

variable {α : Type} (n : Node) (answer : Node → α)

theorem field?_branches (field : String) :
    Branch.field? (n.children.map fun c => ⟨c, fun _ => answer c⟩) field =
      (n.field? field).map fun c => ⟨c, fun _ => answer c⟩ :=
  List.find?_map

theorem constructs_branches :
    Branch.constructs (n.children.map fun c => ⟨c, fun _ => answer c⟩) =
      n.constructs.map fun c => ⟨c, fun _ => answer c⟩ :=
  List.filter_map

end Branches

/-- One step down a chain. -/
theorem isOptionalChain_eq (n : Node) :
    n.isOptionalChain = (n.isMarked || n.linked?.any isOptionalChain) := by
  have hfollow : ∀ o : Option Node, (o.map isOptionalChain).getD false = o.any isOptionalChain := by
    rintro (_ | m) <;> rfl
  have hlink : n.kind ∈ ["member_expression", "subscript_expression", "call_expression"] →
      n.isMarked = (n.field? "optional_chain").isSome := by
    intro hkind
    rw [isMarked, decide_eq_true hkind, Bool.true_and]
  -- The branches of the fold are the children with their own answers.
  rw [isOptionalChain, fold_eq]
  simp only [field?_branches, constructs_branches, List.head?_map, Option.map_map,
    Option.isSome_map]
  split
  next hkind =>
    rw [hlink (by simp [hkind]), linked?, hkind]
    exact congrArg _ (hfollow _)
  next hkind =>
    rw [hlink (by simp [hkind]), linked?, hkind]
    exact congrArg _ (hfollow _)
  next hkind =>
    rw [hlink (by simp [hkind]), linked?, hkind]
    exact congrArg _ (hfollow _)
  next hkind =>
    rw [isMarked, linked?, hkind]
    exact hfollow _
  next => simp_all [isMarked, linked?]

/-- The walk down a chain finds the links that have `?.` under a field. -/
theorem isOptionalChain_iff_chained (n : Node) :
    n.isOptionalChain = true ↔ Chained isMarked n := by
  constructor
  · intro hn
    induction n using induction_children with
    | node n ih =>
        rw [isOptionalChain_eq, Bool.or_eq_true, Option.any_eq_true] at hn
        rcases hn with hmarked | ⟨m, hm, hchain⟩
        · exact .link hmarked
        · exact .next hm (ih m (mem_children_of_linked? hm) hchain)
  · intro hn
    induction hn with
    | link hsign => rw [isOptionalChain_eq, hsign, Bool.true_or]
    | next hm _ ih =>
        rw [isOptionalChain_eq, hm, Option.any_some, ih, Bool.or_true]

/-! ## Chains that are missed -/

/-- Whether a call has `?.` as a bare token. -/
def isBare (n : Node) : Bool := n.kind == "call_expression" && n.hasToken "?."

namespace Chained

variable {sign sign' : Node → Bool} {n : Node}

theorem mono (hsign : ∀ m, sign m = true → sign' m = true) (hn : Chained sign n) :
    Chained sign' n := by
  induction hn with
  | link hlink => exact .link (hsign _ hlink)
  | next hm _ ih => exact .next hm ih

theorem or_iff :
    Chained (fun m => sign m || sign' m) n ↔ Chained sign n ∨ Chained sign' n := by
  constructor
  · intro hn
    induction hn with
    | link hlink => exact ((Bool.or_eq_true _ _).mp hlink).imp .link .link
    | next hm _ ih => exact ih.imp (.next hm) (.next hm)
  · rintro (hn | hn)
    · exact hn.mono fun m hm => by simp [hm]
    · exact hn.mono fun m hm => by simp [hm]

end Chained

/-- A chain has a sign under a field or a bare one. -/
theorem chained_isOptional_iff (n : Node) :
    Chained isOptional n ↔ Chained isMarked n ∨ Chained isBare n :=
  Chained.or_iff

/-- What the walk finds is an optional chain. The chains it misses are those with bare signs
of calls only. -/
theorem isOptionalChain_missed_iff (n : Node) :
    (n.isOptionalChain = true → Chained isOptional n) ∧
      (n.isOptionalChain = false ∧ Chained isOptional n ↔
        Chained isBare n ∧ ¬Chained isMarked n) := by
  have hmarked := isOptionalChain_iff_chained n
  refine ⟨fun hn => (chained_isOptional_iff n).mpr (.inl (hmarked.mp hn)), ?_⟩
  rw [chained_isOptional_iff, ← hmarked, ← Bool.not_eq_true]
  constructor
  · rintro ⟨hnot, hfound | hbare⟩
    · exact absurd hfound hnot
    · exact ⟨hbare, hnot⟩
  · rintro ⟨hbare, hnot⟩
    exact ⟨hnot, .inr hbare⟩

namespace Sample

/-- A member of what an optional call gives. -/
def file : SourceFile where
  load := 0
  path := ⟨"a.ts"⟩
  text := "f?.(x).y;"
  dialect := .typeScript
  tree :=
    .node ⟨"program", true, false, ⟨0, 9⟩, []⟩
      [.node ⟨"expression_statement", true, false, ⟨0, 9⟩, []⟩
        [.node ⟨"member_expression", true, false, ⟨0, 8⟩, []⟩
          [.node ⟨"call_expression", true, false, ⟨0, 6⟩, ["object"]⟩
            [.node ⟨"identifier", true, false, ⟨0, 1⟩, ["function"]⟩ [],
              .node ⟨"?.", false, false, ⟨1, 3⟩, []⟩ [],
              .node ⟨"arguments", true, false, ⟨3, 6⟩, ["arguments"]⟩
                [.node ⟨"(", false, false, ⟨3, 4⟩, []⟩ [],
                  .node ⟨"identifier", true, false, ⟨4, 5⟩, []⟩ [],
                  .node ⟨")", false, false, ⟨5, 6⟩, []⟩ []]],
            .node ⟨".", false, false, ⟨6, 7⟩, []⟩ [],
            .node ⟨"property_identifier", true, false, ⟨7, 8⟩, ["property"]⟩ []],
          .node ⟨";", false, false, ⟨8, 9⟩, []⟩ []]]

/-- The node `f?.(x).y`. -/
def access : Node := file.root.preorder.getD 2 file.root

/-- The node `f?.(x)`. -/
def optionalCall : Node := file.root.preorder.getD 3 file.root

end Sample

/-- An optional call, and an access of it, are optional chains that the walk misses. -/
theorem isOptionalChain_missed :
    (Chained isOptional Sample.optionalCall ∧ Sample.optionalCall.isOptionalChain = false) ∧
      (Chained isOptional Sample.access ∧ Sample.access.isOptionalChain = false) := by
  have hcall : Chained isOptional Sample.optionalCall := .link (by decide +kernel)
  have hlinked : Sample.access.linked? = some Sample.optionalCall := rfl
  exact ⟨⟨hcall, by decide +kernel⟩, .next hlinked hcall, by decide +kernel⟩

end Node

end CallMigration
