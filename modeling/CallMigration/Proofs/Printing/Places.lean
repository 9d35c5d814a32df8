import CallMigration.Proofs.Printing.Parts
import CallMigration.Proofs.Printing.Site

/-!
# Places without a slot of their own

Where the parent of a node has no slot for it, any fragment but a comma is written there as it
stands. Loose places take it; tight ones ask for a level, and a fragment below this level is
misplaced there.
-/

namespace CallMigration

/-- A place of the two grammars where an expression stands: the kind of the parent, the field of
the expression if it has one, and the weakest level that may stand there. -/
structure Slot.Place where
  kind : String
  field : Option String
  least : Precedence
deriving DecidableEq

namespace Slot.Place

/-- Whether a node stands in a place. -/
def Holds (place : Place) (site : Node) : Prop :=
  ∃ parent, site.parent? = some parent ∧ parent.kind = place.kind ∧
    ∀ field ∈ place.field, parent.field? field = some site

/-- The places without a slot that take any expression, or any but a comma. -/
def loose : List Place :=
  [⟨"expression_statement", none, .comma⟩, ⟨"return_statement", none, .comma⟩,
    ⟨"throw_statement", none, .comma⟩, ⟨"parenthesized_expression", none, .comma⟩,
    ⟨"template_substitution", none, .comma⟩, ⟨"switch_case", some "value", .comma⟩,
    ⟨"for_statement", some "initializer", .comma⟩, ⟨"for_statement", some "condition", .comma⟩,
    ⟨"for_statement", some "increment", .comma⟩, ⟨"subscript_expression", some "index", .comma⟩,
    ⟨"for_in_statement", some "right", .assignment⟩, ⟨"sequence_expression", none, .assignment⟩,
    ⟨"arguments", none, .assignment⟩, ⟨"array", none, .assignment⟩,
    ⟨"spread_element", none, .assignment⟩, ⟨"yield_expression", none, .assignment⟩,
    ⟨"computed_property_name", none, .assignment⟩, ⟨"jsx_expression", none, .assignment⟩,
    ⟨"export_statement", none, .assignment⟩, ⟨"arrow_function", some "body", .assignment⟩,
    ⟨"ternary_expression", some "consequence", .assignment⟩,
    ⟨"ternary_expression", some "alternative", .assignment⟩,
    ⟨"assignment_expression", some "right", .assignment⟩,
    ⟨"augmented_assignment_expression", some "right", .assignment⟩,
    ⟨"assignment_pattern", some "right", .assignment⟩,
    ⟨"object_assignment_pattern", some "right", .assignment⟩,
    ⟨"variable_declarator", some "value", .assignment⟩, ⟨"pair", some "value", .assignment⟩,
    ⟨"public_field_definition", some "value", .assignment⟩,
    ⟨"enum_assignment", some "value", .assignment⟩,
    ⟨"required_parameter", some "value", .assignment⟩,
    ⟨"optional_parameter", some "value", .assignment⟩]

/-- The places without a slot that ask for more: the operand of a type assertion, what a class
extends, a decorator, what types are applied to, and the targets of assignments. -/
def tight : List Place :=
  [⟨"type_assertion", none, .unary⟩, ⟨"extends_clause", some "value", .leftHandSide⟩,
    ⟨"decorator", none, .member⟩, ⟨"instantiation_expression", none, .member⟩,
    ⟨"assignment_expression", some "left", .leftHandSide⟩,
    ⟨"augmented_assignment_expression", some "left", .leftHandSide⟩,
    ⟨"for_in_statement", some "left", .leftHandSide⟩, ⟨"array_pattern", none, .leftHandSide⟩,
    ⟨"rest_pattern", none, .leftHandSide⟩, ⟨"pair_pattern", some "value", .leftHandSide⟩,
    ⟨"assignment_pattern", some "left", .leftHandSide⟩,
    ⟨"object_assignment_pattern", some "left", .leftHandSide⟩]

/-- The kinds of parents that have a slot for some of their parts. -/
def slotted : List String :=
  ["member_expression", "subscript_expression", "call_expression", "new_expression",
    "non_null_expression", "update_expression", "unary_expression", "await_expression",
    "as_expression", "satisfies_expression", "binary_expression", "ternary_expression"]

theorem slotted_of_loose : ∀ place ∈ loose,
    place.least = .comma ∨
      place.least = .assignment ∧
        (place.kind ∉ slotted ∨ place.kind = "ternary_expression") := by
  decide

theorem not_slotted_of_tight : ∀ place ∈ tight, place.kind ∉ slotted := by
  decide

theorem ofSite_eq_any {site parent : Node} (hparent : site.parent? = some parent)
    (hkind : parent.kind ∉ slotted) : Slot.ofSite site = .any := by
  simp only [slotted, List.mem_cons, List.not_mem_nil, or_false, not_or] at hkind
  simp [Slot.ofSite, hparent, hkind]

end Slot.Place

namespace Fragment

theorem needsParens_any (f : Fragment) :
    Slot.any.needsParens f = decide (f.precedence < .assignment) :=
  needsParens_atLeast .assignment f

/-- Without a slot a fragment is left bare unless it is a comma. -/
theorem layout_any_eq_body_iff (f : Fragment) :
    f.layout .any = f.body ↔ .assignment ≤ f.precedence := by
  rw [layout, needsParens_any]
  constructor
  · intro hbare
    by_contra hnot
    have hweak : f.precedence < .assignment := Nat.not_le.mp hnot
    rw [decide_eq_true hweak] at hbare
    exact f.unenclosed_body f.body hbare.symm
  · intro hle
    have hnot : ¬f.precedence < .assignment := Nat.not_lt.mpr hle
    rw [decide_eq_false hnot]
    rfl

/-- Without a slot a fragment falls short of a level when it is weaker and left bare. -/
theorem level_layout_any_lt_iff (f : Fragment) (least : Precedence) :
    (f.layout .any).level < least ↔ .assignment ≤ f.precedence ∧ f.precedence < least := by
  rw [level_layout, needsParens_any]
  by_cases hweak : f.precedence < .assignment
  · have hprimary : ¬Precedence.primary < least := by cases least <;> decide
    simp only [hweak, decide_true, if_true]
    exact iff_of_false hprimary fun h => Nat.not_lt.mpr h.1 hweak
  · simp only [hweak, decide_false, Bool.false_eq_true, if_false]
    exact ⟨fun hlt => ⟨Nat.not_lt.mp hweak, hlt⟩, And.right⟩

/-- Where a node has no slot, a fragment in its place is left bare unless it is a comma. In a loose
place it is strong enough. In a tight one, which has no slot, it is misplaced exactly when it is no
comma and weaker than what may stand there. -/
theorem print_place {f : Fragment} {site : Node} {text : String} (hprint : f.print site = .ok text)
    {place : Slot.Place} (hsite : place.Holds site) :
    let e := f.layout (.ofSite site)
    spell? e.tokens = some text ∧
      (Slot.ofSite site = .any → (e = f.body ↔ .assignment ≤ f.precedence)) ∧
      (place ∈ Slot.Place.loose → place.least ≤ e.level) ∧
      (place ∈ Slot.Place.tight → Slot.ofSite site = .any ∧
        (e.level < place.least ↔ .assignment ≤ f.precedence ∧ f.precedence < place.least)) := by
  intro e
  obtain ⟨parent, hparent, hkind, -⟩ := hsite
  have hlevel : (Slot.ofSite site).least ≤ e.level := f.least_le_level_layout _
  refine ⟨spell?_layout hprint, ?_, ?_, ?_⟩
  · intro hslot
    rw [← f.layout_any_eq_body_iff, ← hslot]
  · intro hloose
    rcases Slot.Place.slotted_of_loose place hloose with hcomma | ⟨hassignment, hother | hternary⟩
    · rw [hcomma]
      exact Nat.zero_le _
    · rw [Slot.Place.ofSite_eq_any hparent (hkind ▸ hother)] at hlevel
      exact hassignment ▸ hlevel
    · rw [hassignment]
      exact Nat.le_trans (Slot.assignment_le_branch (hkind.trans hternary) hparent) hlevel
  · intro htight
    have hother := Slot.Place.not_slotted_of_tight place htight
    have hslot := Slot.Place.ofSite_eq_any hparent (hkind ▸ hother)
    refine ⟨hslot, ?_⟩
    rw [← f.level_layout_any_lt_iff, ← hslot]

namespace Sample

/-- The call `u.old(x, f)` at an offset. -/
def oldCall (i : Nat) (fields : List String) : Tree :=
  branch "call_expression" i (i + 11) fields
    [branch "member_expression" i (i + 5) ["function"]
      [leaf "identifier" true i (i + 1) ["object"], leaf "." false (i + 1) (i + 2) [],
        leaf "property_identifier" true (i + 2) (i + 5) ["property"]],
      branch "arguments" (i + 5) (i + 11) ["arguments"]
        [leaf "(" false (i + 5) (i + 6) [], leaf "identifier" true (i + 6) (i + 7) [],
          leaf "," false (i + 7) (i + 8) [], leaf "identifier" true (i + 9) (i + 10) [],
          leaf ")" false (i + 10) (i + 11) []]]

/-- The call in three tight places: under a type assertion, as what a class extends and as a
decorator. -/
def tightCalls : SourceFile where
  load := 0
  path := ⟨"a.ts"⟩
  text := "<any>u.old(x, f);\nclass A extends u.old(x, f) \x7b\x7d\n" ++
    "class B \x7b @u.old(x, f) m() \x7b\x7d \x7d"
  dialect := .typeScript
  tree := branch "program" 0 80 []
    [branch "expression_statement" 0 17 []
      [branch "type_assertion" 0 16 []
        [branch "type_arguments" 0 5 []
          [leaf "<" false 0 1 [],
            branch "predefined_type" 1 4 [] [leaf "any" false 1 4 []], leaf ">" false 4 5 []],
          oldCall 5 []],
        leaf ";" false 16 17 []],
      branch "class_declaration" 18 48 []
        [leaf "class" false 18 23 [], leaf "type_identifier" true 24 25 ["name"],
          branch "class_heritage" 26 45 []
            [branch "extends_clause" 26 45 [] [leaf "extends" false 26 33 [], oldCall 34 ["value"]]],
          branch "class_body" 46 48 ["body"]
            [leaf "\x7b" false 46 47 [], leaf "\x7d" false 47 48 []]],
      branch "class_declaration" 49 80 []
        [leaf "class" false 49 54 [], leaf "type_identifier" true 55 56 ["name"],
          branch "class_body" 57 80 ["body"]
            [leaf "\x7b" false 57 58 [],
              branch "decorator" 59 71 ["decorator"] [leaf "@" false 59 60 [], oldCall 60 []],
              branch "method_definition" 72 78 []
                [leaf "property_identifier" true 72 73 ["name"],
                  branch "formal_parameters" 73 75 ["parameters"]
                    [leaf "(" false 73 74 [], leaf ")" false 74 75 []],
                  branch "statement_block" 76 78 ["body"]
                    [leaf "\x7b" false 76 77 [], leaf "\x7d" false 77 78 []]],
              leaf "\x7d" false 79 80 []]]]

def castCall : Node := tightCalls.root.preorder.getD 5 tightCalls.root

def extendedCall : Node := tightCalls.root.preorder.getD 16 tightCalls.root

def decoratorCall : Node := tightCalls.root.preorder.getD 28 tightCalls.root

/-- A call that may be absent, with a value for this case. -/
def guarded : Fragment :=
  .binary (.call (.property (.identifier "x") true "some") [.identifier "f"]) .coalesce
    (.literal (.boolean false))

theorem castCall_holds : Slot.Place.Holds ⟨"type_assertion", none, .unary⟩ castCall :=
  ⟨tightCalls.root.preorder.getD 2 tightCalls.root, rfl, rfl, nofun⟩

theorem extendedCall_holds :
    Slot.Place.Holds ⟨"extends_clause", some "value", .leftHandSide⟩ extendedCall := by
  refine ⟨tightCalls.root.preorder.getD 15 tightCalls.root, rfl, rfl, ?_⟩
  rintro field ⟨⟩
  rfl

theorem decoratorCall_holds : Slot.Place.Holds ⟨"decorator", none, .member⟩ decoratorCall :=
  ⟨tightCalls.root.preorder.getD 27 tightCalls.root, rfl, rfl, nofun⟩

end Sample

/-- A fragment with a fallback is too weak for what a class extends. -/
theorem print_place_sample :
    Sample.guarded.print Sample.extendedCall = .ok "x?.some(f) ?? false" ∧
      (Sample.guarded.layout (.ofSite Sample.extendedCall)).level < .leftHandSide := by
  have hprint : Sample.guarded.print Sample.extendedCall = .ok "x?.some(f) ?? false" := by
    decide +kernel
  obtain ⟨-, -, -, htight⟩ := print_place hprint Sample.extendedCall_holds
  exact ⟨hprint, (htight (by decide)).2.mpr ⟨by decide, by decide⟩⟩

/-- The operand of a type assertion, what a class extends and a decorator are left bare. -/
theorem print_place_misplaced :
    (Sample.guarded.print Sample.castCall = .ok "x?.some(f) ?? false" ∧
      Slot.Place.Holds ⟨"type_assertion", none, .unary⟩ Sample.castCall ∧
      (Sample.guarded.layout (.ofSite Sample.castCall)).level < .unary) ∧
    (Sample.guarded.print Sample.extendedCall = .ok "x?.some(f) ?? false" ∧
      Slot.Place.Holds ⟨"extends_clause", some "value", .leftHandSide⟩ Sample.extendedCall ∧
      (Sample.guarded.layout (.ofSite Sample.extendedCall)).level < .leftHandSide) ∧
    (Sample.guarded.print Sample.decoratorCall = .ok "x?.some(f) ?? false" ∧
      Slot.Place.Holds ⟨"decorator", none, .member⟩ Sample.decoratorCall ∧
      (Sample.guarded.layout (.ofSite Sample.decoratorCall)).level < .member) :=
  ⟨⟨by decide +kernel, Sample.castCall_holds, by decide +kernel⟩,
    ⟨by decide +kernel, Sample.extendedCall_holds, by decide +kernel⟩,
    ⟨by decide +kernel, Sample.decoratorCall_holds, by decide +kernel⟩⟩

end Fragment

end CallMigration
