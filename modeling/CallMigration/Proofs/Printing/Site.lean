import CallMigration.Proofs.Printing.Context
import CallMigration.Proofs.Printing.Layout
import CallMigration.Proofs.Syntax.Node

/-!
# Parsed expressions and the places in them

A node of a file is read as an expression, from its kind and its fields. The slot of a node
is computed from its parent alone; whatever is written for that slot, the shape of the
parent takes it in the place of the node.
-/

namespace CallMigration

namespace Node

/-! ## Parsed expressions -/

/-- Tell items from the commas around them, after a number of commas. -/
def splitItems : Nat → List Node → List Nat × List Node
  | count, [] => ([count], [])
  | count, n :: ns =>
      if n.kind == "," then splitItems (count + 1) ns
      else
        let (gaps, items) := splitItems 0 ns
        (count :: gaps, n :: items)

/-- The items of a bracketed list, with the numbers of commas around them. -/
def items (n : Node) : List Nat × List Node :=
  splitItems 0 (n.children.filter fun c => c.tree.isConstruct || c.kind == ",")

/-- A bracketed list of arguments. -/
def arguments? (n : Node) : Option Node :=
  (n.field? "arguments").filter fun list => list.kind == "arguments"

/-- The shape of a parsed expression, and the nodes of its parts. -/
def construct? (n : Node) : Option (Shape × List Node) :=
  match n.kind with
  | "parenthesized_expression" => do
      let e ← n.firstConstruct?
      pure (.paren, [e])
  | "array" => some (.list n.items.1, n.items.2)
  | "unary_expression" => do
      let op ← n.field? "operator"
      let e ← n.field? "argument"
      pure (.prefixed op.text, [e])
  | "await_expression" => do
      let e ← n.firstConstruct?
      pure (.prefixed "await", [e])
  | "update_expression" => do
      let op ← n.field? "operator"
      let e ← n.field? "argument"
      pure (if op.span.start < e.span.start then .prefixed op.text else .postfixed op.text, [e])
  | "member_expression" => do
      let e ← n.field? "object"
      let name ← n.field? "property"
      pure (.property (n.field? "optional_chain").isSome (.node name), [e])
  | "subscript_expression" => do
      let e ← n.field? "object"
      let i ← n.field? "index"
      pure (.index (n.field? "optional_chain").isSome, [e, i])
  | "call_expression" => do
      let e ← n.field? "function"
      let list ← n.arguments?
      let optional := (n.field? "optional_chain").isSome || n.hasToken "?."
      pure (.call optional (n.field? "type_arguments") list.items.1, e :: list.items.2)
  | "non_null_expression" => do
      let e ← n.firstConstruct?
      pure (.assertion, [e])
  | "new_expression" => do
      let e ← n.field? "constructor"
      let types := n.field? "type_arguments"
      match n.arguments? with
      | some list => pure (.creation types (some list.items.1), e :: list.items.2)
      | none => pure (.creation types none, [e])
  | "binary_expression" => do
      let left ← n.field? "left"
      let op ← n.field? "operator"
      let right ← n.field? "right"
      if left.same right then none else pure (.binary op.text, [left, right])
  | "as_expression" => do
      let e ← n.firstConstruct?
      let type ← n.children.getLast?
      pure (.cast "as" type, [e])
  | "satisfies_expression" => do
      let e ← n.firstConstruct?
      let type ← n.children.getLast?
      pure (.cast "satisfies" type, [e])
  | "ternary_expression" => do
      let condition ← n.field? "condition"
      let yes ← n.field? "consequence"
      let no ← n.field? "alternative"
      pure (.choice, [condition, yes, no])
  | _ => none

/-- The expressions that a node can be read as: any node is one operand, and a parsed
expression is its shape around readings of its parts. -/
inductive Reads : Node → Expr → Prop
  | operand (n : Node) : Reads n (.operand (.node n))
  | construct {n : Node} {shape : Shape} {nodes : List Node} {parts : List Expr}
      (hn : n.construct? = some (shape, nodes)) (hparts : List.Forall₂ Reads nodes parts) :
      Reads n (.build shape parts)

/-- A context is what surrounds `site` in the expression that a node is read as. -/
inductive Surrounds (site : Node) : Context → Node → Prop
  | here : Surrounds site [] site
  | inside {context : Context} {n m : Node} {shape : Shape} {nodes nodes' : List Node}
      {before after : List Expr} (hm : Surrounds site context m)
      (hn : n.construct? = some (shape, nodes ++ m :: nodes'))
      (hbefore : List.Forall₂ Reads nodes before) (hafter : List.Forall₂ Reads nodes' after) :
      Surrounds site (context ++ [⟨shape, before, after⟩]) n

/-! ## Parents -/

theorem same_self (n : Node) : n.same n = true := by
  simp [same, SourceFile.same, PathName.same]

theorem parent?_of_mem_children {n c : Node} (hc : c ∈ n.children) : c.parent? = some n := by
  obtain ⟨t, -, i, rfl⟩ := exists_of_mem_children hc
  rfl

theorem parent?_of_field? {n c : Node} {field : String} (hc : n.field? field = some c) :
    c.parent? = some n :=
  parent?_of_mem_children (List.mem_of_find?_eq_some hc)

theorem parent?_of_firstConstruct? {n c : Node} (hc : n.firstConstruct? = some c) :
    c.parent? = some n :=
  parent?_of_mem_children (List.mem_filter.mp (List.mem_of_head? hc)).1

theorem mem_of_mem_splitItems {count : Nat} {ns : List Node} {c : Node}
    (hc : c ∈ (splitItems count ns).2) : c ∈ ns := by
  induction ns generalizing count with
  | nil => simp [splitItems] at hc
  | cons n ns ih =>
      rw [splitItems] at hc
      split at hc
      · exact List.mem_cons_of_mem n (ih hc)
      · rcases List.mem_cons.mp hc with rfl | hc
        · exact List.mem_cons_self
        · exact List.mem_cons_of_mem n (ih hc)

theorem parent?_of_mem_items {n c : Node} (hc : c ∈ n.items.2) : c.parent? = some n :=
  parent?_of_mem_children (List.mem_filter.mp (mem_of_mem_splitItems hc)).1

theorem kind_of_arguments? {n list : Node} (hlist : n.arguments? = some list) :
    list.kind = "arguments" := by
  simpa using (Option.filter_eq_some_iff.mp hlist).2

end Node

/-! ## Places -/

/-- What is written for a slot is taken by a shape at a position, whatever the fragment. -/
def Slot.Suits (slot : Slot) (shape : Shape) (position : Nat) : Prop :=
  ∀ f : Fragment, shape.Takes position (f.layout slot)

namespace Slot

theorem suits_of_least {slot : Slot} {shape : Shape} {position : Nat} {least : Precedence}
    (hfloor : shape.floor position = .level least) (hle : least ≤ slot.least)
    (hexcluded : shape.excluded position = []) : slot.Suits shape position := by
  intro f
  refine ⟨?_, hexcluded ▸ List.not_mem_nil⟩
  rw [hfloor]
  exact Nat.le_trans hle (f.least_le_level_layout slot)

/-- What is written where only primary expressions are left bare can be created from. -/
theorem isTarget_layout_primary (f : Fragment) :
    (f.layout (.atLeast .primary)).isTarget = true ∧
      (f.layout (.atLeast .primary)).level = .primary := by
  cases hparens : (atLeast .primary).needsParens f with
  | true =>
      rw [Fragment.layout, hparens]
      exact ⟨rfl, rfl⟩
  | false =>
      have hprimary : f.precedence = .primary := by
        have hle := f.least_le_level_layout (.atLeast .primary)
        rw [Fragment.level_layout, hparens] at hle
        revert hle
        generalize f.precedence = p
        cases p <;> decide
      rw [Fragment.layout, hparens]
      refine ⟨?_, f.level_body.trans hprimary⟩
      cases f with
      | node n => exact Bool.or_eq_true_iff.mpr (Or.inl (decide_eq_true hprimary))
      | identifier name => rfl
      | literal value =>
          rw [Fragment.precedence] at hprimary
          split at hprimary
          · cases hprimary
          next hsign =>
            have hplain : (!value.isNegative) = true := by simpa using hsign
            exact hplain
      | binary left op right => cases op <;> cases hprimary
      | _ => cases hprimary

/-- The slots that the kind of the parent decides. -/
def ofKind : List (String × Slot) :=
  [("non_null_expression", ⟨.member, none, true⟩), ("update_expression", atLeast .leftHandSide),
    ("unary_expression", atLeast .unary), ("await_expression", atLeast .unary),
    ("as_expression", atLeast .relational), ("satisfies_expression", atLeast .relational),
    ("arguments", any), ("array", any)]

/-- The slots of the parts that a parent has under a field. -/
def ofField (m : Node) : List (String × String × Slot) :=
  [("member_expression", "object", accessObject m),
    ("subscript_expression", "object", accessObject m),
    ("call_expression", "function", accessObject m),
    ("new_expression", "constructor", atLeast .primary),
    ("ternary_expression", "condition", atLeast .coalesce)]

section Parts

variable {site m : Node}

theorem ofSite_of_mem_ofKind {slot : Slot} (hparent : site.parent? = some m)
    (hslot : (m.kind, slot) ∈ ofKind) : ofSite site = slot := by
  simp only [ofKind, List.mem_cons, List.not_mem_nil, or_false, Prod.mk.injEq] at hslot
  obtain ⟨hkind, rfl⟩ | ⟨hkind, rfl⟩ | ⟨hkind, rfl⟩ | ⟨hkind, rfl⟩ | ⟨hkind, rfl⟩ | ⟨hkind, rfl⟩ |
    ⟨hkind, rfl⟩ | ⟨hkind, rfl⟩ := hslot <;> simp [ofSite, hparent, hkind]

theorem ofSite_of_mem_ofField {field : String} {slot : Slot}
    (hfield : m.field? field = some site) (hslot : (m.kind, field, slot) ∈ ofField m) :
    ofSite site = slot := by
  have hparent := Node.parent?_of_field? hfield
  simp only [ofField, List.mem_cons, List.not_mem_nil, or_false, Prod.mk.injEq] at hslot
  obtain ⟨hkind, rfl, rfl⟩ | ⟨hkind, rfl, rfl⟩ | ⟨hkind, rfl, rfl⟩ | ⟨hkind, rfl, rfl⟩ |
    ⟨hkind, rfl, rfl⟩ := hslot <;> simp [ofSite, hparent, hkind, hfield, site.same_self]

theorem suits_ofKind (slot : Slot) (hparent : site.parent? = some m)
    (hslot : (m.kind, slot) ∈ ofKind) {shape : Shape} {i : Nat} {least : Precedence}
    (hfloor : shape.floor i = .level least) (hle : least ≤ slot.least)
    (hexcluded : shape.excluded i = []) : (ofSite site).Suits shape i := by
  rw [ofSite_of_mem_ofKind hparent hslot]
  exact suits_of_least hfloor hle hexcluded

theorem suits_ofField (slot : Slot) {field : String} (hfield : m.field? field = some site)
    (hslot : (m.kind, field, slot) ∈ ofField m) {shape : Shape} {i : Nat} {least : Precedence}
    (hfloor : shape.floor i = .level least) (hle : least ≤ slot.least)
    (hexcluded : shape.excluded i = []) : (ofSite site).Suits shape i := by
  rw [ofSite_of_mem_ofField hfield hslot]
  exact suits_of_least hfloor hle hexcluded

theorem assignment_le_branch (hkind : m.kind = "ternary_expression")
    (hparent : site.parent? = some m) : .assignment ≤ (ofSite site).least := by
  have hslot : ofSite site = atLeast .coalesce ∨ ofSite site = any := by
    simp only [ofSite, hparent, hkind]
    split <;> simp
  rcases hslot with hslot | hslot <;> rw [hslot] <;> decide

end Parts

/-- The least level of an operand of a parsed binary expression. -/
def binaryLeast (op : String) (isLeft : Bool) : Precedence :=
  match op, isLeft with
  | "**", true => .update
  | "**", false => .exponentiation
  | op, true => .ofOperator op
  | op, false => (Precedence.ofOperator op).next

theorem ofBinary_eq {m op : Node} (hop : m.field? "operator" = some op) (isLeft : Bool) :
    ofBinary m isLeft = operand (binaryLeast op.text isLeft) (some op.text) := by
  simp only [ofBinary, hop, Option.map_some, Option.getD_some]
  unfold binaryLeast
  congr 1
  by_cases hpower : op.text = "**"
  · rw [hpower]
    cases isLeft <;> rfl
  · cases isLeft <;> simp [hpower]

/-- What is written as an operand of `??` is not excluded there. -/
theorem not_mem_excluded_binary {slot : Slot} {op : String} (hslot : slot.operator = some op)
    (f : Fragment) (position : Nat) :
    (f.layout slot).level ∉ (Shape.binary op).excluded position := by
  by_cases hop : op = "??"
  · subst hop
    exact f.level_layout_not_mixed hslot
  · rw [Shape.excluded_binary hop]
    exact List.not_mem_nil

theorem suits_left {op : String} (hknown : (Shape.binary op).isKnown = true) :
    (operand (binaryLeast op true) (some op)).Suits (.binary op) 0 := by
  intro f
  have hall : ∀ p ∈ productions, p.2.left ≤ binaryLeast p.1 true := by decide
  obtain ⟨production, hop⟩ := Option.isSome_iff_exists.mp hknown
  have hle := f.least_le_level_layout (operand (binaryLeast op true) (some op))
  refine ⟨?_, not_mem_excluded_binary rfl f 0⟩
  rw [Shape.floor_left_of_production? hop]
  exact Nat.le_trans (hall _ (mem_of_lookup hop)) hle

theorem suits_right {op : String} (hknown : (Shape.binary op).isKnown = true) :
    (operand (binaryLeast op false) (some op)).Suits (.binary op) 1 := by
  intro f
  -- The slot to the right of `??` lets `||` and `&&` pass, which its operator then rules out.
  have hall : ∀ p ∈ productions, p.2.right ≤ binaryLeast p.1 false ∨
      p = ("??", ⟨.coalesce, .coalesce, .bitOr⟩) := by decide
  obtain ⟨production, hop⟩ := Option.isSome_iff_exists.mp hknown
  have hle := f.least_le_level_layout (operand (binaryLeast op false) (some op))
  refine ⟨?_, not_mem_excluded_binary rfl f 1⟩
  rw [Shape.floor_right_of_production? hop]
  rcases hall _ (mem_of_lookup hop) with hright | hcoalesce
  · exact Nat.le_trans hright hle
  · cases hcoalesce
    exact Fragment.bitOr_le_of_not_mixed hle (f.level_layout_not_mixed rfl)

theorem suits_binary {m site : Node} {op : Node} (hkind : m.kind = "binary_expression")
    (hop : m.field? "operator" = some op) (hknown : (Shape.binary op.text).isKnown = true)
    {left right : Node} (hleft : m.field? "left" = some left)
    (hright : m.field? "right" = some right) (hsame : left.same right = false) {i : Nat}
    (hi : [left, right][i]? = some site) : (ofSite site).Suits (.binary op.text) i := by
  rcases i with _ | _ | i <;> cases hi
  · have hslot : ofSite site = ofBinary m true := by
      simp [ofSite, Node.parent?_of_field? hleft, hkind, hleft, site.same_self]
    rw [hslot, ofBinary_eq hop]
    exact suits_left hknown
  · have hslot : ofSite site = ofBinary m false := by
      simp [ofSite, Node.parent?_of_field? hright, hkind, hleft, hsame]
    rw [hslot, ofBinary_eq hop]
    exact suits_right hknown

theorem suits_creation {m site : Node} (hkind : m.kind = "new_expression")
    (hfield : m.field? "constructor" = some site) (types : Option Node)
    (gaps : Option (List Nat)) : (ofSite site).Suits (.creation types gaps) 0 := by
  intro f
  obtain ⟨htarget, hlevel⟩ := isTarget_layout_primary f
  have hslot : ofSite site = atLeast .primary :=
    ofSite_of_mem_ofField hfield (by simp [ofField, hkind])
  rw [hslot]
  refine ⟨Or.inl htarget, ?_⟩
  rw [hlevel]
  cases types <;> cases gaps <;> simp [Shape.excluded]

theorem suits_argument {m site list : Node} (hlist : m.arguments? = some list)
    (hitem : site ∈ list.items.2) {shape : Shape} {i : Nat}
    (hfloor : shape.floor i = .level .assignment) (hexcluded : shape.excluded i = []) :
    (ofSite site).Suits shape i := by
  have hkind := Node.kind_of_arguments? hlist
  exact suits_ofKind any (Node.parent?_of_mem_items hitem) (by simp [ofKind, hkind]) hfloor
    (Nat.le_refl _) hexcluded

/-- The place of a part of a parsed expression asks for what its shape asks. -/
theorem suits_of_construct {m site : Node} {shape : Shape} {parts : List Node}
    (hm : m.construct? = some (shape, parts)) (hknown : shape.isKnown = true) {i : Nat}
    (hi : parts[i]? = some site) : (ofSite site).Suits shape i := by
  unfold Node.construct? at hm
  split at hm
  next hkind => -- parentheses
    obtain ⟨e, he, ⟨⟩⟩ := Option.bind_eq_some_iff.mp hm
    rcases i with _ | i <;> cases hi
    exact suits_of_least rfl (Nat.zero_le _) rfl
  next hkind => -- an array
    cases hm
    have hparent := Node.parent?_of_mem_items (List.mem_of_getElem? hi)
    exact suits_ofKind any hparent (by simp [ofKind, hkind]) rfl (Nat.le_refl _) rfl
  next hkind => -- an operator in front
    obtain ⟨op, -, hm⟩ := Option.bind_eq_some_iff.mp hm
    obtain ⟨e, he, ⟨⟩⟩ := Option.bind_eq_some_iff.mp hm
    rcases i with _ | i <;> cases hi
    have hparent := Node.parent?_of_field? he
    exact suits_ofKind (atLeast .unary) hparent (by simp [ofKind, hkind]) rfl (Nat.le_refl _) rfl
  next hkind => -- `await`
    obtain ⟨e, he, ⟨⟩⟩ := Option.bind_eq_some_iff.mp hm
    rcases i with _ | i <;> cases hi
    have hparent := Node.parent?_of_firstConstruct? he
    exact suits_ofKind (atLeast .unary) hparent (by simp [ofKind, hkind]) rfl (Nat.le_refl _) rfl
  next hkind => -- an operator that counts up or down
    obtain ⟨op, -, hm⟩ := Option.bind_eq_some_iff.mp hm
    obtain ⟨e, he, hm⟩ := Option.bind_eq_some_iff.mp hm
    have hparent := Node.parent?_of_field? he
    have hslot : (m.kind, atLeast .leftHandSide) ∈ ofKind := by simp [ofKind, hkind]
    split at hm <;> cases hm <;> rcases i with _ | i <;> cases hi
    · exact suits_ofKind _ hparent hslot rfl (by decide) rfl
    · exact suits_ofKind _ hparent hslot rfl (Nat.le_refl _) rfl
  next hkind => -- an access by name
    obtain ⟨e, he, hm⟩ := Option.bind_eq_some_iff.mp hm
    obtain ⟨name, -, ⟨⟩⟩ := Option.bind_eq_some_iff.mp hm
    rcases i with _ | i <;> cases hi
    exact suits_ofField (accessObject m) he (by simp [ofField, hkind]) rfl (Nat.le_refl _) rfl
  next hkind => -- an access by index
    obtain ⟨e, he, hm⟩ := Option.bind_eq_some_iff.mp hm
    obtain ⟨index, -, ⟨⟩⟩ := Option.bind_eq_some_iff.mp hm
    rcases i with _ | _ | i <;> cases hi
    · exact suits_ofField (accessObject m) he (by simp [ofField, hkind]) rfl (Nat.le_refl _) rfl
    · exact suits_of_least rfl (Nat.zero_le _) rfl
  next hkind => -- a call
    obtain ⟨e, he, hm⟩ := Option.bind_eq_some_iff.mp hm
    obtain ⟨list, hlist, ⟨⟩⟩ := Option.bind_eq_some_iff.mp hm
    rcases i with _ | i
    · cases hi
      exact suits_ofField (accessObject m) he (by simp [ofField, hkind]) rfl (Nat.le_refl _) rfl
    · exact suits_argument hlist (List.mem_of_getElem? hi) rfl rfl
  next hkind => -- `!`
    obtain ⟨e, he, ⟨⟩⟩ := Option.bind_eq_some_iff.mp hm
    rcases i with _ | i <;> cases hi
    have hparent := Node.parent?_of_firstConstruct? he
    exact suits_ofKind ⟨.member, none, true⟩ hparent (by simp [ofKind, hkind]) rfl (Nat.le_refl _)
      rfl
  next hkind => -- `new`
    obtain ⟨e, he, hm⟩ := Option.bind_eq_some_iff.mp hm
    split at hm
    next list hlist =>
      cases hm
      rcases i with _ | i
      · cases hi
        exact suits_creation hkind he _ _
      · refine suits_argument hlist (List.mem_of_getElem? hi) rfl ?_
        cases m.field? "type_arguments" <;> rfl
    next =>
      cases hm
      rcases i with _ | i <;> cases hi
      exact suits_creation hkind he _ _
  next hkind => -- a binary operator
    obtain ⟨left, hleft, hm⟩ := Option.bind_eq_some_iff.mp hm
    obtain ⟨op, hop, hm⟩ := Option.bind_eq_some_iff.mp hm
    obtain ⟨right, hright, hm⟩ := Option.bind_eq_some_iff.mp hm
    split at hm
    · cases hm
    next hsame =>
      cases hm
      exact suits_binary hkind hop hknown hleft hright (by simpa using hsame) hi
  next hkind => -- `as`
    obtain ⟨e, he, hm⟩ := Option.bind_eq_some_iff.mp hm
    obtain ⟨type, -, ⟨⟩⟩ := Option.bind_eq_some_iff.mp hm
    rcases i with _ | i <;> cases hi
    have hparent := Node.parent?_of_firstConstruct? he
    exact suits_ofKind (atLeast .relational) hparent (by simp [ofKind, hkind]) rfl (Nat.le_refl _)
      rfl
  next hkind => -- `satisfies`
    obtain ⟨e, he, hm⟩ := Option.bind_eq_some_iff.mp hm
    obtain ⟨type, -, ⟨⟩⟩ := Option.bind_eq_some_iff.mp hm
    rcases i with _ | i <;> cases hi
    have hparent := Node.parent?_of_firstConstruct? he
    exact suits_ofKind (atLeast .relational) hparent (by simp [ofKind, hkind]) rfl (Nat.le_refl _)
      rfl
  next hkind => -- a choice
    obtain ⟨condition, hcondition, hm⟩ := Option.bind_eq_some_iff.mp hm
    obtain ⟨yes, hyes, hm⟩ := Option.bind_eq_some_iff.mp hm
    obtain ⟨no, hno, ⟨⟩⟩ := Option.bind_eq_some_iff.mp hm
    rcases i with _ | _ | _ | i <;> cases hi
    · exact suits_ofField (atLeast .coalesce) hcondition (by simp [ofField, hkind]) rfl
        (Nat.le_refl _) rfl
    · exact suits_of_least rfl (assignment_le_branch hkind (Node.parent?_of_field? hyes)) rfl
    · exact suits_of_least rfl (assignment_le_branch hkind (Node.parent?_of_field? hno)) rfl
  next => cases hm

end Slot

end CallMigration
