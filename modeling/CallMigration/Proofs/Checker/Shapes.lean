import CallMigration.Proofs.Checker.Indexed
import CallMigration.Proofs.Migration.Isolation
import CallMigration.Proofs.Program.Loaded

/-!
# Shapes and their declarations

A shape holds no members, only the file, span and kind of the node it was made for. The files
of a program have different paths, so the file is found again. In a well formed tree the node
is found again too, if it covers some text and no node below has its span and kind. Then a
member that is looked up through the shape is the one that the declaration gives when it is
read itself, and no other shape in the types of the program leads to the declaration.
-/

namespace CallMigration

open StaticType Checker

namespace Program

variable {p : Program} {n : Node}

/-! ## Where shapes come from -/

/-- The realm of the nodes of all files. Every shape in its types was made for such a node. -/
def shapesInFiles (p : Program) : p.Realm where
  toRegion := p.inFiles.toRegion
  type := Shaped fun id => ∃ decl, p.inFiles.node decl ∧ shapeId? p decl = some id
  closed := closed_shaped _
  shape hn hid hbindings := .shape ⟨_, hn, hid⟩ hbindings

/-- A shape anywhere in the type of a node was made for a node of the program. -/
theorem exists_shapeId?_of_occurs_typeAt (hn : p.inFiles.node n) {t : StaticType}
    (ht : p.typeAt n = .ok t) {id : ShapeId} {label : String} {bs : List (String × StaticType)}
    (hin : (StaticType.shape id label bs).Occurs t) :
    ∃ decl, p.inFiles.node decl ∧ shapeId? p decl = some id :=
  ((closed_shaped _).of_occurs (p.shapesInFiles.type_typeAt hn ht) hin).id

/-- The node to which a shape leads has its place, span and kind. -/
theorem shapeId?_of_declaration? (hp : p.PathsApart) {id : ShapeId}
    (hfound : p.declaration? id = some n) : shapeId? p n = some id := by
  obtain ⟨file, hfile, hfound⟩ := Option.bind_eq_some_iff.mp hfound
  obtain ⟨hsame, hspan, hkind⟩ := SourceFile.of_nodeAt? hfound
  rw [shapeId?, hsame, hp.indexOf?_eq_some hfile, hspan, hkind]
  rfl

end Program

namespace Checker

variable {p : Program} {ask : Answers} {n : Node} {name : String} {env : TypeEnv} {depth : Nat}

theorem declared_of_mem (hp : p.PathsApart) {file : SourceFile} (hfile : file ∈ p.files)
    (hwf : file.tree.WellFormed file.text) (hn : n ∈ file.root.subtree)
    (hspan : n.span.start < n.span.stop) (hinnermost : n.IsInnermost) : Declared p n := by
  have hown : n.file = file := Node.file_of_mem_subtree hn
  exact
    { file := by rw [hown]; exact hp.exists_indexOf? hfile
      wellFormed := by rwa [hown]
      below := by rwa [hown]
      covers := hspan
      innermost := hinnermost }

/-! ## Members -/

/-- A member read from a declaration itself. -/
def declaredMember (program : Program) (ask : Answers) (decl : Node) (env : TypeEnv)
    (name : String) (depth : Nat) : Outcome (Option StaticType) :=
  match decl.kind with
  | "object_type" => signatureMember ask decl name env depth
  | "interface_declaration" => interfaceMember ask decl name env depth
  | "object" => objectMember ask decl name depth
  | _ => classMember program ask decl name env depth

/-- A member of a shape is read from the declaration that is found for it, if there is one. -/
theorem shapeMember_eq (p : Program) (ask : Answers) (id : ShapeId)
    (bindings : List (String × StaticType)) (name : String) (depth : Nat) :
    shapeMember p ask id bindings name depth =
      Outcome.onSome (p.declaration? id) none fun decl =>
        declaredMember p ask decl ⟨bindings, []⟩ name depth := rfl

theorem memberOf_shapeOf (hdecl : Declared p n) (label : String) :
    memberOf p ask name depth (shapeOf p n label env) =
      declaredMember p ask n ⟨env.bindings, []⟩ name (depth + 1) := by
  obtain ⟨id, hid, hfound⟩ := hdecl.exists_shapeId?
  rw [shapeOf_eq_shape hid]
  change shapeMember p ask id env.bindings name (depth + 1) = _
  rw [shapeMember_eq, hfound]
  rfl

/-- The answers to questions about the members of a shape with normal bindings. -/
theorem answers_member_shapeOf (hdecl : Declared p n) (label : String)
    (henv : env.All StaticType.Normal) (hdepth : depth ≤ maxDepth) :
    p.answers.member (shapeOf p n label env) name depth =
      declaredMember p p.answers n ⟨env.bindings, []⟩ name (depth + 1) := by
  have hnormal : ∀ u, memberOf p p.answers name depth (shapeOf p n label env) = .ok (some u) →
      u.Normal := by
    intro u hu
    have hpersists : Outcome.PersistsFound (Program.Realm.whole p) p (.refl Nat)
        (memberOf p p.answers name depth (shapeOf p n label env))
        (memberOf p p.answers name depth ((shapeOf p n label env).renumber (.refl Nat))) :=
      persists_memberOf (Program.Realm.whole p).kept_self (p.persist_answers_whole depth)
        (Nat.le_refl depth) ((Program.Realm.whole p).shapeOf trivial label henv)
    rw [hu] at hpersists
    exact hpersists.of_ok u rfl
  obtain ⟨id, hid, -⟩ := hdecl.exists_shapeId?
  have hshape := shapeOf_eq_shape hid label env
  rw [answers_member_of_plain (by rw [hshape]; rfl) (by rw [hshape]; rfl) hdepth hnormal,
    memberOf_shapeOf hdecl]

/-- In a well formed file a node that covers some text, and has none of its span and kind
further below, is found by its span and kind. So in every program with this file a shape made
for the node leads back to it, and its members are those that are read from the node, in
whatever way further questions are answered. Every shape in the types of the program was made
for one of its nodes, and no shape that was made for another node leads to this one. -/
theorem shapeOf_reads_declaration {file : SourceFile} (hwf : file.tree.WellFormed file.text)
    {n : Node} (hn : n ∈ file.root.subtree) (hspan : n.span.start < n.span.stop)
    (hinnermost : n.IsInnermost) :
    file.nodeAt? n.span n.kind = some n ∧
      ∀ (grammar : Grammar) (load : Nat) (options : Options)
        (sources : List (PathName × String)) (p : Program),
        Program.ofSources grammar load options sources = .ok p → file ∈ p.files →
        (∀ label env, ∃ id, shapeOf p n label env = .shape id label env.bindings ∧
          p.declaration? id = some n) ∧
        (∀ ask label env name depth, memberOf p ask name depth (shapeOf p n label env) =
          declaredMember p ask n ⟨env.bindings, []⟩ name (depth + 1)) ∧
        (∀ label (env : TypeEnv) name depth, env.All StaticType.Normal → depth ≤ maxDepth →
          p.answers.member (shapeOf p n label env) name depth =
            declaredMember p p.answers n ⟨env.bindings, []⟩ name (depth + 1)) ∧
        (∀ id, p.declaration? id = some n ↔ shapeId? p n = some id) ∧
        ∀ user ∈ p.files, ∀ m ∈ user.root.subtree, ∀ t, p.typeAt m = .ok t → ∀ id label bs,
          (StaticType.shape id label bs).Occurs t →
          ∃ decl, p.inFiles.node decl ∧ shapeId? p decl = some id := by
  refine ⟨SourceFile.nodeAt?_eq_some hwf hn hspan hinnermost, ?_⟩
  intro grammar load options sources p hload hfile
  have hp : p.PathsApart := Program.pathsApart_of_ofSources hload
  have hdecl : Declared p n := declared_of_mem hp hfile hwf hn hspan hinnermost
  obtain ⟨id, hid, hfound⟩ := hdecl.exists_shapeId?
  refine ⟨?_, ?_, ?_, ?_, ?_⟩
  · intro label env
    exact ⟨id, shapeOf_eq_shape hid label env, hfound⟩
  · intro ask label env name depth
    exact memberOf_shapeOf hdecl label
  · intro label env name depth henv hdepth
    exact answers_member_shapeOf hdecl label henv hdepth
  · intro other
    constructor
    · exact Program.shapeId?_of_declaration? hp
    · intro hother
      cases hid.symm.trans hother
      exact hfound
  · intro user huser m hm t ht id label bs hin
    exact Program.exists_shapeId?_of_occurs_typeAt ⟨user, huser, hm⟩ ht hin

namespace Sample

open Program.Sample (construct)

/-- A use of a declared value and of one of its members. -/
def user : SourceFile where
  load := 0
  path := ⟨"a.ts"⟩
  text := "let a: A; a.k;"
  dialect := .typeScript
  tree := construct "program" 0 14 []
    [construct "lexical_declaration" 0 9 []
      [construct "variable_declarator" 4 8 []
        [construct "identifier" 4 5 ["name"] [],
          construct "type_annotation" 5 8 ["type"] [construct "type_identifier" 7 8 [] []]]],
      construct "expression_statement" 10 14 []
        [construct "member_expression" 10 13 []
          [construct "identifier" 10 11 ["object"] [],
            construct "property_identifier" 12 13 ["property"] []]]]

/-- A declaration with a nullable member. It covers all of its file. -/
def declaringA : SourceFile where
  load := 0
  path := ⟨"b.ts"⟩
  text := "interface A \x7b k: B | null \x7d"
  dialect := .typeScript
  tree := construct "program" 0 27 []
    [construct "interface_declaration" 0 27 []
      [construct "type_identifier" 10 11 ["name"] [],
        construct "object_type" 12 27 ["body"]
          [construct "property_signature" 14 25 []
            [construct "property_identifier" 14 15 ["name"] [],
              construct "type_annotation" 15 25 ["type"] [nullable 17]]]]]

def shapeGrammar : Grammar :=
  .ofKnown [(.typeScript, user.text, user.tree), (.typeScript, declaringA.text, declaringA.tree)]

def shapeProgram : Program := ⟨[user, declaringA], .standard⟩

/-- The declaration. -/
def declA : Node := nodeIn declaringA [0]

/-- The value whose member is used. -/
def usedValue : Node := nodeIn user [1, 0, 0]

theorem ofSources_shapeProgram :
    Program.ofSources shapeGrammar 0 .standard
      [(user.path, user.text), (declaringA.path, declaringA.text)] = .ok shapeProgram := by
  rfl

end Sample

/-- The declaration has the span of the top of its file. It is found by its own kind, the
shape that the value has leads to it, and the member that is used is read there. -/
theorem shapeOf_reads_declaration_sample :
    let n := Sample.declA
    let p := Sample.shapeProgram
    (Sample.declaringA.tree.WellFormed Sample.declaringA.text ∧
      n ∈ Sample.declaringA.root.subtree ∧ n.span.start < n.span.stop ∧ n.IsInnermost) ∧
      n.span = Sample.declaringA.root.span ∧
      Sample.declaringA.nodeAt? n.span n.kind = some n ∧
      p.typeAt Sample.usedValue = .ok (shapeOf p n "A" .empty) ∧
      (∃ id, shapeOf p n "A" .empty = .shape id "A" [] ∧ p.declaration? id = some n) ∧
      p.answers.member (shapeOf p n "A" .empty) "k" 0 =
        .ok (some (.union [.reference "B" [], .null])) := by
  intro n p
  have hwf : Sample.declaringA.tree.WellFormed Sample.declaringA.text := by decide +kernel
  have hn : n ∈ Sample.declaringA.root.subtree :=
    Node.child_mem_subtree (Node.mem_subtree_self _) (.head _)
  have hspan : n.span.start < n.span.stop := by decide +kernel
  have hinnermost : n.IsInnermost := by decide +kernel
  have hfile : Sample.declaringA ∈ p.files := .tail _ (.head _)
  obtain ⟨hfound, hprogram⟩ := shapeOf_reads_declaration hwf hn hspan hinnermost
  obtain ⟨hshape, -, hmember, -, -⟩ := hprogram _ _ _ _ p Sample.ofSources_shapeProgram hfile
  have htype : p.typeAt Sample.usedValue = .ok (shapeOf p n "A" .empty) := by decide +kernel
  have hread : declaredMember p p.answers n .empty "k" 1 =
      .ok (some (.union [.reference "B" [], .null])) := by decide +kernel
  have hused := (hmember "A" .empty "k" 0 TypeEnv.all_empty (Nat.zero_le _)).trans hread
  exact ⟨⟨hwf, hn, hspan, hinnermost⟩, by decide +kernel, hfound, htype, hshape "A" .empty, hused⟩

end Checker

end CallMigration
