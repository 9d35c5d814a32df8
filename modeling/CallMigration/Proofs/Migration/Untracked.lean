import CallMigration.Migration
import CallMigration.Proofs.Checker.TypeAt

/-!
# Migration without tracking of absent values

When `null` and `undefined` are not tracked they vanish from every union, so no value
counts as possibly absent and calls move onto their subjects as they are.
-/

namespace CallMigration

/-- The type of a node is a normal one with the absent values erased, when they are not
tracked. -/
theorem Program.typeAt_untracked {p : Program} (hstrict : p.options.strict = false) {n : Node}
    {t : StaticType} (ht : p.typeAt n = .ok t) :
    ∃ u : StaticType, u.Normal ∧ t = u.eraseNullish := by
  unfold typeAt at ht
  split at ht
  · cases ht
  · split at ht
    next u hu =>
      rw [hstrict] at ht
      cases ht
      exact ⟨u, normal_trackedTypeAt hu, rfl⟩
    next => cases ht

theorem Program.isNullableAt_of_typeAt {p : Program} {n : Node} {t : StaticType}
    (ht : p.typeAt n = .ok t) (policy : NullabilityPolicy) :
    p.isNullableAt policy n = .ok (policy.isNullable t) := by
  rw [isNullableAt, ht]

theorem Program.isNullableAt_eq_ok {p : Program} {policy : NullabilityPolicy} {n : Node}
    {nullable : Bool} (hok : p.isNullableAt policy n = .ok nullable) :
    ∃ t, p.typeAt n = .ok t ∧ nullable = policy.isNullable t := by
  unfold isNullableAt at hok
  split at hok
  next t ht =>
    cases hok
    exact ⟨t, ht, rfl⟩
  next => cases hok

theorem Program.isNullableAt_untracked {p : Program} (hstrict : p.options.strict = false)
    (policy : NullabilityPolicy) {n : Node} {t : StaticType} (ht : p.typeAt n = .ok t) :
    p.isNullableAt policy n = .ok false := by
  obtain ⟨u, hu, rfl⟩ := typeAt_untracked hstrict ht
  rw [isNullableAt_of_typeAt ht, policy.isNullable_eraseNullish hu]

namespace Migration

/-- What a transform replaces a node with: the call of the migration that the node asks
for, on the subject and the other arguments of the node. -/
theorem transform_eq_some {migrations : List Migration} {policy : NullabilityPolicy}
    {p : Program} {n : Node} {f : Fragment}
    (hsome : transform migrations policy p n = .ok (some f)) :
    ∃ m subject others nullable, forNode? migrations n = some m ∧
      (callArguments? n).bind m.splitArguments? = some (subject, others) ∧
      p.isNullableAt policy subject = .ok nullable ∧
      f = m.replacementCall subject others nullable := by
  unfold transform at hsome
  split at hsome
  · cases hsome
  next m hm =>
    split at hsome
    · cases hsome
    next subject others hsplit =>
      split at hsome
      · cases hsome
      next nullable hnullable =>
        cases hsome
        exact ⟨m, subject, others, nullable, hm, hsplit, hnullable, rfl⟩

theorem transform_of_call {migrations : List Migration} {policy : NullabilityPolicy}
    {p : Program} {n subject : Node} {m : Migration} {others : List Node} {nullable : Bool}
    (hm : forNode? migrations n = some m)
    (hsplit : (callArguments? n).bind m.splitArguments? = some (subject, others))
    (hnullable : p.isNullableAt policy subject = .ok nullable) :
    transform migrations policy p n = .ok (some (m.replacementCall subject others nullable)) := by
  simp only [transform, hm, hsplit, hnullable]

/-- Where absent values are not tracked, no value of a known type counts as possibly
absent, under either policy, and every replacement is a plain call on the subject:
no access in it is optional and nothing stands in for an absent result. -/
theorem transform_untracked (p : Program) (hstrict : p.options.strict = false)
    (policy : NullabilityPolicy) :
    (∀ n t, p.typeAt n = .ok t → p.isNullableAt policy n = .ok false) ∧
      ∀ migrations n f, transform migrations policy p n = .ok (some f) →
        ∃ m subject others, forNode? migrations n = some m ∧
          (callArguments? n).bind m.splitArguments? = some (subject, others) ∧
          f = .call (.property (.node subject) false m.replacement) (others.map .node) := by
  refine ⟨fun n t => Program.isNullableAt_untracked hstrict policy, ?_⟩
  intro migrations n f hsome
  obtain ⟨m, subject, others, nullable, hm, hsplit, hnullable, rfl⟩ := transform_eq_some hsome
  obtain ⟨t, ht, rfl⟩ := Program.isNullableAt_eq_ok hnullable
  have hfalse := Program.isNullableAt_untracked hstrict policy ht
  rw [hfalse] at hnullable
  refine ⟨m, subject, others, hm, hsplit, ?_⟩
  rw [← Except.ok.inj hnullable]
  rfl

namespace Sample

def leaf (kind : String) (named : Bool) (start stop : Nat) (fields : List String) : Tree :=
  .node ⟨kind, named, false, ⟨start, stop⟩, fields⟩ []

def branch (kind : String) (start stop : Nat) (fields : List String) (children : List Tree) :
    Tree :=
  .node ⟨kind, true, false, ⟨start, stop⟩, fields⟩ children

/-- A name that may be `null`, and a deprecated call with it. -/
def file : SourceFile where
  load := 0
  path := ⟨"a.ts"⟩
  text := "let x: A | null;\nu.deprecated_some(x);"
  dialect := .typeScript
  tree := branch "program" 0 38 []
    [branch "lexical_declaration" 0 16 []
      [leaf "let" false 0 3 ["kind"],
        branch "variable_declarator" 4 15 []
          [leaf "identifier" true 4 5 ["name"],
            branch "type_annotation" 5 15 ["type"]
              [leaf ":" false 5 6 [],
                branch "union_type" 7 15 []
                  [leaf "type_identifier" true 7 8 [], leaf "|" false 9 10 [],
                    branch "literal_type" 11 15 [] [leaf "null" true 11 15 []]]]],
        leaf ";" false 15 16 []],
      branch "expression_statement" 17 38 []
        [branch "call_expression" 17 37 []
          [branch "member_expression" 17 34 ["function"]
            [leaf "identifier" true 17 18 ["object"], leaf "." false 18 19 [],
              leaf "property_identifier" true 19 34 ["property"]],
            branch "arguments" 34 37 ["arguments"]
              [leaf "(" false 34 35 [], leaf "identifier" true 35 36 [], leaf ")" false 36 37 []]],
          leaf ";" false 37 38 []]]

def program (strict : Bool) : Program := ⟨[file], ⟨strict, []⟩⟩

/-- The deprecated call. -/
def call : Node := file.root.preorder.getD 10 file.root

/-- The subject of the call. -/
def subject : Node := file.root.preorder.getD 15 file.root

end Sample

/-- The subject counts as possibly absent only where absent values are tracked. -/
theorem isNullableAt_sample :
    (Sample.program true).isNullableAt .nullOnly Sample.subject = .ok true ∧
      (Sample.program false).options.strict = false ∧
      (Sample.program false).isNullableAt .nullOnly Sample.subject = .ok false ∧
      (Sample.program false).isNullableAt .nullOrUndefined Sample.subject = .ok false := by
  have hstrict : (Sample.program false).options.strict = false := rfl
  have htype : (Sample.program false).typeAt Sample.subject = .ok (.reference "A" []) := by
    decide +kernel
  refine ⟨by decide +kernel, hstrict, ?_, ?_⟩
  · exact (transform_untracked (Sample.program false) hstrict .nullOnly).1 _ _ htype
  · exact (transform_untracked (Sample.program false) hstrict .nullOrUndefined).1 _ _ htype

end Migration

end CallMigration
