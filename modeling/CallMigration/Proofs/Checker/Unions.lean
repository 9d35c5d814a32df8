import CallMigration.Proofs.Checker.TypeAt

/-!
# Unions in the types of nodes

A type occurs in another one when it is that type or a part of it, at any depth. What occurs
in a type of a closed set belongs to the set. The types of the nodes of a realm belong to the
realm, whether absent values are tracked or not: erasing them takes members away and makes
the union anew. So every union in the type of a node is a normal one.
-/

namespace CallMigration

namespace StaticType

/-- The type `u` itself, or one that has it as a part at some depth. -/
inductive Occurs (u : StaticType) : StaticType → Prop
  | here : Occurs u u
  | element {t : StaticType} (hin : Occurs u t) : Occurs u (array t)
  | item {t : StaticType} {ts : List StaticType} (ht : t ∈ ts) (hin : Occurs u t) :
      Occurs u (tuple ts)
  | binding {id : ShapeId} {label : String} {bs : List (String × StaticType)}
      {b : String × StaticType} (hb : b ∈ bs) (hin : Occurs u b.2) : Occurs u (shape id label bs)
  | returns {t : StaticType} (hin : Occurs u t) : Occurs u (function t)
  | argument {name : String} {t : StaticType} {ts : List StaticType} (ht : t ∈ ts)
      (hin : Occurs u t) : Occurs u (reference name ts)
  | member {t : StaticType} {ts : List StaticType} (ht : t ∈ ts) (hin : Occurs u t) :
      Occurs u (union ts)

namespace Closed

variable {P : StaticType → Prop} {t u : StaticType}

theorem of_occurs (hP : Closed P) (ht : P t) (hin : u.Occurs t) : P u := by
  induction hin with
  | here => exact ht
  | element _ ih => exact ih (hP.array_iff.mp ht)
  | item hmem _ ih => exact ih (hP.tuple_iff.mp ht _ hmem)
  | binding hmem _ ih => exact ih (hP.bindings ht _ hmem)
  | returns _ ih => exact ih (hP.function_iff.mp ht)
  | argument hmem _ ih => exact ih (hP.reference_iff.mp ht _ hmem)
  | member hmem _ ih => exact ih (hP.member ht hmem)

theorem eraseNullish (hP : Closed P) (ht : P t) : P t.eraseNullish := by
  cases t with
  | union ms => exact hP.withoutNullish ht
  | _ => exact ht

end Closed

end StaticType

namespace Program

/-- The type of a node of a realm belongs to the realm. -/
theorem Realm.type_typeAt {p : Program} (r : p.Realm) {n : Node} (hn : r.node n) {t : StaticType}
    (ht : p.typeAt n = .ok t) : r.type t := by
  unfold typeAt at ht
  split at ht
  · cases ht
  · rcases trackedTypeAt_cases r.kept_self hn with ⟨u, hu, hok, -⟩ | ⟨m, -, -, herror, -⟩
    · rw [hok] at ht
      cases hstrict : p.options.strict with
      | true =>
          rw [hstrict] at ht
          cases ht
          exact hu
      | false =>
          rw [hstrict] at ht
          cases ht
          exact r.closed.eraseNullish hu
    · rw [herror] at ht
      cases ht

/-- A union anywhere in the type of a node has two members or more, all different, and none
of them is a union, `never`, `any` or `unknown`. -/
theorem union_of_occurs_typeAt (p : Program) (n : Node) (t : StaticType)
    (ht : p.typeAt n = .ok t) (ms : List StaticType) (hin : (StaticType.union ms).Occurs t) :
    2 ≤ ms.length ∧ ms.Nodup ∧ ∀ m ∈ ms, (∀ inner, m ≠ .union inner) ∧
      m ≠ .primitive "never" ∧ m ≠ .primitive "any" ∧ m ≠ .primitive "unknown" := by
  have hnormal : t.Normal := (Realm.whole p).type_typeAt trivial ht
  cases StaticType.closed_normal.of_occurs hnormal hin with
  | union hlength hnodup hplain hmembers =>
      refine ⟨hlength, hnodup, fun m hm => ?_⟩
      obtain ⟨hunion, hnever, hany, hunknown⟩ := StaticType.isPlain_iff.mp (hplain m hm)
      refine ⟨?_, hnever, hany, hunknown⟩
      rintro inner rfl
      cases hunion

namespace Sample

/-- A construct from `start` to `stop`. -/
def construct (kind : String) (start stop : Nat) (fields : List String) (children : List Tree) :
    Tree :=
  .node ⟨kind, true, false, ⟨start, stop⟩, fields⟩ children

/-- Lists of `A` or `null`, or `B` twice, or `null`, with a use of such a value. -/
def nested : SourceFile where
  load := 0
  path := ⟨"a.ts"⟩
  text := "let x: (A | null)[] | B | null | B;\nx;"
  dialect := .typeScript
  tree := construct "program" 0 38 []
    [construct "lexical_declaration" 0 35 []
      [construct "variable_declarator" 4 34 []
        [construct "identifier" 4 5 ["name"] [],
          construct "type_annotation" 5 34 ["type"]
            [construct "union_type" 7 34 []
              [construct "union_type" 7 30 []
                [construct "union_type" 7 23 []
                  [construct "array_type" 7 19 []
                    [construct "parenthesized_type" 7 17 []
                      [construct "union_type" 8 16 []
                        [construct "type_identifier" 8 9 [] [],
                          construct "literal_type" 12 16 [] [construct "null" 12 16 [] []]]]],
                    construct "type_identifier" 22 23 [] []],
                  construct "literal_type" 26 30 [] [construct "null" 26 30 [] []]],
                construct "type_identifier" 33 34 [] []]]]],
      construct "expression_statement" 36 38 [] [construct "identifier" 36 37 [] []]]

/-- The use of the value. -/
def nestedUse : Node := nested.root.preorder.getLast?.getD nested.root

end Sample

/-- Both unions of a type with one inside the other. The repetition of `B` is gone, and so
is the nesting in which the members were written. -/
theorem union_of_occurs_typeAt_nested :
    let inner : List StaticType := [.reference "A" [], .null]
    let outer : List StaticType := [.array (.union inner), .reference "B" [], .null]
    let p : Program := ⟨[Sample.nested], .standard⟩
    p.typeAt Sample.nestedUse = .ok (.union outer) ∧
      (StaticType.union inner).Occurs (.union outer) ∧ (2 ≤ inner.length ∧ inner.Nodup) ∧
      2 ≤ outer.length ∧ outer.Nodup := by
  intro inner outer p
  have htype : p.typeAt Sample.nestedUse = .ok (.union outer) := by decide +kernel
  have hinner : (StaticType.union inner).Occurs (.union outer) :=
    .member List.mem_cons_self (.element .here)
  have hin := union_of_occurs_typeAt p Sample.nestedUse _ htype inner hinner
  have hout := union_of_occurs_typeAt p Sample.nestedUse _ htype outer .here
  exact ⟨htype, hinner, ⟨hin.1, hin.2.1⟩, hout.1, hout.2.1⟩

end Program

end CallMigration
