import CallMigration.Proofs.Printing.Parts
import CallMigration.Proofs.Printing.Site

/-!
# Nodes that are accessed or called

A fragment keeps a node of the file as it stands and may access or call it. The node is put in
parentheses when its text ends with an operand that no bracket closes, for an access would go on
from this operand only. Of the nodes that end so only type assertions are left as they stand.
-/

namespace CallMigration

/-- The operand that the text of a parsed expression ends with: after an operator, a keyword or a
type in front the last part, which of a cast is its type and of an arrow function its body. -/
def Node.lastOperand? (n : Node) : Option Node :=
  match n.kind with
  | "binary_expression" => n.field? "right"
  | "new_expression" => if (n.field? "arguments").isNone then n.field? "constructor" else none
  | "type_assertion" => n.constructs.getLast?
  | "assignment_expression" | "augmented_assignment_expression" => n.field? "right"
  | "ternary_expression" => n.field? "alternative"
  | "arrow_function" => n.field? "body"
  | "unary_expression" => n.field? "argument"
  | "update_expression" => do
      let op ← n.field? "operator"
      (n.field? "argument").filter fun e => op.span.start < e.span.start
  | "as_expression" | "satisfies_expression" => n.children.getLast?
  | "await_expression" | "yield_expression" | "sequence_expression" | "spread_element" =>
      n.constructs.getLast?
  | _ => none

/-- Whether the frame accesses by name or calls what is put into it. -/
def Frame.applies (frame : Frame) : Bool :=
  frame.before.isEmpty &&
    match frame.shape with
    | .property .. | .call .. => true
    | _ => false

theorem Slot.OfPart.eq_of_applies {frame : Frame} {slot : Slot}
    (hslot : Slot.OfPart frame.shape frame.before.length slot) (happlies : frame.applies = true) :
    slot = .atLeast .member := by
  obtain ⟨shape, before, after⟩ := frame
  obtain ⟨hbefore, hshape⟩ := Bool.and_eq_true_iff.mp happlies
  rw [List.isEmpty_iff.mp hbefore] at hslot
  cases hslot with
  | object | callee => rfl
  | left => cases hshape

namespace Precedence

theorem ofOperator_lt_member (op : String) : ofOperator op < .member := by
  unfold ofOperator
  split <;> decide

/-- What ends with an operand is weaker than an access, but for type assertions. -/
theorem ofNode_lt_member_iff {n last : Node} (hlast : n.lastOperand? = some last) :
    ofNode n < .member ↔ n.kind ≠ "type_assertion" := by
  unfold Node.lastOperand? at hlast
  split at hlast
  next hkind => -- a binary operator, known or not
    have hlevel : ofNode n < .member := by
      simp only [ofNode, hkind]
      cases n.field? "operator" with
      | none => exact (by decide : comma < member)
      | some op => exact ofOperator_lt_member op.text
    simp [hkind, hlevel]
  next hkind => -- `new` without arguments
    obtain ⟨harguments, -⟩ := Option.ite_none_right_eq_some.mp hlast
    simp only [ofNode, hkind, harguments]
    decide
  next hkind => -- a type assertion
    have hlevel : ofNode n = .primary := by simp [ofNode, hkind]
    simp only [hkind, hlevel]
    decide
  all_goals first
    | cases hlast
    | next hkind =>
        simp only [ofNode, hkind]
        decide

end Precedence

namespace Fragment

/-- A node that ends with an operand is accessed or called in parentheses in a printed fragment, and
whatever the node is read as, the access is of all of it. Only a type assertion is accessed as it
stands. -/
theorem print_subject {f : Fragment} {site : Node} {text : String}
    (hprint : f.print site = .ok text) {frame : Frame} {outer : Context} {object : Expr}
    (hlayout : f.layout (.ofSite site) = Context.plug (frame :: outer) object)
    (happlies : frame.applies = true) {n last : Node}
    (hobject : object.bare = .operand (.node n)) (hlast : n.lastOperand? = some last) :
    let opening := Context.opening (frame :: outer)
    let closing := Context.closing (frame :: outer)
    (n.kind ≠ "type_assertion" →
      spell? (opening ++ .sign "(" :: .operand (.node n) :: .sign ")" :: closing) = some text ∧
      ∀ e : Expr, n.Reads e → e.Grammatical →
        ∃ whole : Expr, whole = Context.plug (frame :: outer) (.build .paren [e]) ∧
          whole.Grammatical ∧
          whole.tokens = opening ++ .sign "(" :: (e.tokens ++ .sign ")" :: closing) ∧
          ∀ other : Expr, other.Grammatical → other.tokens = whole.tokens → other = whole) ∧
    (n.kind = "type_assertion" → spell? (opening ++ .operand (.node n) :: closing) = some text) := by
  intro opening closing
  have hkeep : ∀ g : Fragment, g.toExpr = .operand (.node n) → g = .node n :=
    fun g hg => toExpr_injective hg
  -- The frame asks for a member expression, and the node is no integer.
  have hwritten : object = (Fragment.node n).layout (.atLeast .member) := by
    cases stands_of_layout hlayout with
    | enclosed g hshape => simp [Frame.applies, hshape] at happlies
    | slotted g hslot =>
        rw [bare_layout] at hobject
        rw [hslot.eq_of_applies happlies, hkeep g hobject]
    | integer g hinteger hshape =>
        rw [Expr.bare_paren, bare_body] at hobject
        rw [hkeep g hobject, isInteger, Bool.and_eq_true, beq_iff_eq] at hinteger
        simp [Node.lastOperand?, hinteger.1] at hlast
  have hneeds : (Slot.atLeast .member).needsParens (.node n) =
      decide (n.kind ≠ "type_assertion") :=
    (needsParens_atLeast .member (.node n)).trans
      (decide_eq_decide.mpr (Precedence.ofNode_lt_member_iff hlast))
  have hgrammatical : (Context.plug (frame :: outer) object).Grammatical :=
    hlayout ▸ f.grammatical_layout (.ofSite site)
  have htokens := Context.tokens_plug hgrammatical
  have hspell : spell? (opening ++ (object.tokens ++ closing)) = some text := by
    rw [← htokens, ← hlayout]
    exact spell?_layout hprint
  refine ⟨?_, ?_⟩
  · intro hkind
    have hparen : object = .build .paren [.operand (.node n)] := by
      rw [hwritten, layout, hneeds, decide_eq_true hkind]
      rfl
    refine ⟨?_, ?_⟩
    · rw [hparen, Expr.tokens_paren] at hspell
      simpa [Expr.tokens] using hspell
    · intro e hread he
      have hwhole : (Context.plug (frame :: outer) (.build .paren [e])).Grammatical :=
        Context.grammatical_plug_of_level hgrammatical (he.enclose true) (by rw [hparen]; rfl)
          fun _ _ => rfl
      refine ⟨_, rfl, hwhole, ?_, fun other hother hsame => hother.eq_of_tokens_eq hwhole hsame⟩
      rw [htokens, Expr.tokens_paren]
      simp [opening, closing]
  · intro hkind
    have hbare : object = .operand (.node n) := by
      rw [hwritten, layout, hneeds, hkind]
      rfl
    rw [hbare] at hspell
    exact hspell

namespace Sample

/-- An access of the node `a || b`. -/
def accessedDisjunction : Fragment := .property (.node disjunction) false "f"

/-- The access around what stands for the node. -/
def byName : Frame := ⟨.property false (.identifier "f"), [], []⟩

theorem layout_accessedDisjunction :
    accessedDisjunction.layout (.ofSite disjunction) =
      Context.plug [byName] (.build .paren [.operand (.node disjunction)]) := by
  have hwhole : (Slot.ofSite disjunction).needsParens accessedDisjunction = false := by
    decide +kernel
  have hobject : (node disjunction).isInteger ||
      (Slot.atLeast .member).needsParens (node disjunction) := by decide +kernel
  rw [layout, hwhole, accessedDisjunction, body_property, hobject]
  rfl

end Sample

/-- A disjunction is accessed in parentheses, and read as two operands it is accessed as a
whole. -/
theorem print_subject_sample :
    Sample.accessedDisjunction.print Sample.disjunction = .ok "(a || b).f" ∧
      ∀ e : Expr, Sample.disjunction.Reads e → e.Grammatical → ∀ other : Expr,
        other.Grammatical → other.tokens = (Sample.byName.plug (.build .paren [e])).tokens →
        other = Sample.byName.plug (.build .paren [e]) := by
  have hprint : Sample.accessedDisjunction.print Sample.disjunction = .ok "(a || b).f" := by
    decide +kernel
  have hlast : Sample.disjunction.lastOperand? = Sample.disjunction.field? "right" := rfl
  obtain ⟨right, hright⟩ : ∃ right, Sample.disjunction.field? "right" = some right := ⟨_, rfl⟩
  obtain ⟨hparens, -⟩ := print_subject hprint Sample.layout_accessedDisjunction rfl
    (Expr.bare_paren _) (hlast.trans hright)
  refine ⟨hprint, ?_⟩
  intro e hread he
  obtain ⟨whole, rfl, -, -, hunique⟩ := (hparens (by decide +kernel)).2 e hread he
  exact hunique

namespace Sample

/-- A call whose first argument is a type assertion. -/
def asserting : SourceFile where
  load := 0
  path := ⟨"a.ts"⟩
  text := "u.old(<any>x, f);"
  dialect := .typeScript
  tree := branch "program" 0 17 []
    [branch "expression_statement" 0 17 []
      [branch "call_expression" 0 16 []
        [branch "member_expression" 0 5 ["function"]
          [leaf "identifier" true 0 1 ["object"], leaf "." false 1 2 [],
            leaf "property_identifier" true 2 5 ["property"]],
          branch "arguments" 5 16 ["arguments"]
            [leaf "(" false 5 6 [],
              branch "type_assertion" 6 12 []
                [branch "type_arguments" 6 11 []
                  [leaf "<" false 6 7 [],
                    branch "predefined_type" 7 10 [] [leaf "any" false 7 10 []],
                    leaf ">" false 10 11 []],
                  leaf "identifier" true 11 12 []],
              leaf "," false 12 13 [], leaf "identifier" true 14 15 [],
              leaf ")" false 15 16 []]],
        leaf ";" false 16 17 []]]

/-- The call `u.old(<any>x, f)`. -/
def assertingCall : Node := asserting.root.preorder.getD 2 asserting.root

def assertion : Node := asserting.root.preorder.getD 7 asserting.root

/-- The operand `x` of the assertion. -/
def asserted : Node := asserting.root.preorder.getD 10 asserting.root

def callback : Node := asserting.root.preorder.getD 11 asserting.root

end Sample

/-- The access of a type assertion goes on from its operand, with which it ends. -/
theorem print_subject_assertion :
    Sample.assertion.lastOperand? = some Sample.asserted ∧
      Sample.assertion.text = "<any>x" ∧ Sample.asserted.text = "x" ∧
      Sample.asserted.span.stop = Sample.assertion.span.stop ∧
      (Fragment.call (.property (.node Sample.assertion) false "some")
        [.node Sample.callback]).print Sample.assertingCall = .ok "<any>x.some(f)" :=
  ⟨rfl, by decide +kernel, by decide +kernel, by decide +kernel, by decide +kernel⟩

end Fragment

end CallMigration
