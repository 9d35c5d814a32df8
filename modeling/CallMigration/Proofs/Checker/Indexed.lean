import CallMigration.Proofs.Checker.Expansion
import CallMigration.Proofs.Syntax.Lookup

/-!
# Members under every key

A value whose members are all of one type can be annotated with an index signature or with
`Record`. The first is a shape, whose members are read from its declaration when they are asked
for, the second a reference with the type among its arguments. Both give the type for a key, by
a property or by a string. For any other index only `Record` gives it: what an index signature
says of its members is not seen there.
-/

namespace CallMigration

open StaticType Outcome Checker

namespace Checker

/-! ## Accesses -/

/-- What an access picks from its object: the member of a key, or the element at a position,
which need not be known. -/
inductive Selector where
  | key (name : String)
  | element (position : Option Nat)
deriving DecidableEq

/-- What `e.k`, `e["k"]` and `e[i]` pick from `e`. -/
def selector? (access : Node) : Option Selector :=
  match access.kind with
  | "member_expression" => (access.field? "property").map fun property => .key property.text
  | "subscript_expression" =>
      let index := access.field? "index"
      match index.bind Scope.stringValue? with
      | some key => some (.key key)
      | none =>
          some (.element ((index.filter (·.kind == "number")).bind fun i => readPosition? i.text))
  | _ => none

/-- The type of what is picked from a value of a type. -/
def selected (ask : Answers) (t : StaticType) (depth : Nat) : Selector → Outcome StaticType
  | .key name => propertyType ask t name depth
  | .element position => .ok (elementType position t)

variable {p : Program} {n access object written element decl : Node} {s : Selector}
  {t : StaticType} {depth steps : Nat}

/-- The type of an access comes from the type of its object by what it picks. -/
theorem expression_of_selector (hselector : selector? access = some s)
    (hobject : access.field? "object" = some object) (hdepth : depth ≤ maxDepth) :
    p.answers.expression access depth = (do
      let t ← p.answers.expression object (depth + 1)
      let picked ← selected p.answers t (depth + 1) s
      pure (continueChain access picked)) := by
  rw [Program.answers_expression, expressionRule, if_neg (Nat.not_lt.mpr hdepth)]
  unfold selector? at hselector
  split at hselector
  next hkind =>
    obtain ⟨property, hproperty, rfl⟩ := Option.map_eq_some_iff.mp hselector
    simp only [hkind, fieldType, hobject, hproperty]
    rfl
  next hkind =>
    dsimp only at hselector
    cases hkey : (access.field? "index").bind Scope.stringValue? with
    | some key =>
        rw [hkey] at hselector
        cases hselector
        simp only [hkind, subscriptType, fieldType, hobject, hkey]
        rfl
    | none =>
        rw [hkey] at hselector
        cases hselector
        simp only [hkind, subscriptType, fieldType, hobject, hkey]
        rfl
  next => cases hselector

/-! ## Annotated values -/

/-- The type of a value is what an annotation denotes, which is asked for `steps` deeper: the
value is a name declared with the annotation, or an assertion, in parentheses perhaps. -/
inductive Annotated (p : Program) (written : Node) : Nat → Node → Prop
  | ofVariable {e declarator ascription : Node} (hkind : e.kind = "identifier")
      (hname : e.text ≠ "undefined")
      (hvalue : Scope.resolveValue? p e e.text = some (.declarator declarator))
      (hdeclarator : declarator.kind = "variable_declarator")
      (htype : declarator.field? "type" = some ascription)
      (hfirst : ascription.firstConstruct? = some written) : Annotated p written 2 e
  | ofParameter {e parameter ascription : Node} (hkind : e.kind = "identifier")
      (hname : e.text ≠ "undefined")
      (hvalue : Scope.resolveValue? p e e.text = some (.parameter parameter false))
      (hparameter : parameter.kind ≠ "identifier")
      (htype : parameter.field? "type" = some ascription)
      (hfirst : ascription.firstConstruct? = some written) : Annotated p written 2 e
  | assertion {e inner : Node} (hkind : e.kind = "as_expression")
      (hparts : e.constructs = [inner, written]) : Annotated p written 1 e
  | parenthesized {e inner : Node} {steps : Nat} (hkind : e.kind = "parenthesized_expression")
      (hfirst : e.firstConstruct? = some inner) (hinner : Annotated p written steps inner) :
      Annotated p written (steps + 1) e

/-- The access picks `s` from a value with the annotation. -/
structure Reads (p : Program) (access written : Node) (steps : Nat) (s : Selector) : Prop where
  object : ∃ e, access.field? "object" = some e ∧ Annotated p written steps e
  selector : selector? access = some s

theorem bind_ok_self {α : Type} (o : Outcome α) : (o >>= fun a => .ok a) = o := by
  cases o <;> rfl

theorem Annotated.expression (hvalue : Annotated p written steps n)
    (hdepth : depth + steps ≤ maxDepth) :
    p.answers.expression n depth = p.answers.denoted written .empty (depth + steps) := by
  induction hvalue generalizing depth with
  | ofVariable hkind hname hvalue hdeclarator htype hfirst =>
      rw [Program.answers_expression, expressionRule, if_neg (by omega)]
      simp only [hkind, hname, beq_iff_eq, if_false, identifierType, hvalue, bindingType, ownerType,
        hdeclarator, htype, ascribedType, hfirst]
      rfl
  | ofParameter hkind hname hvalue hparameter htype hfirst =>
      rw [Program.answers_expression, expressionRule, if_neg (by omega)]
      simp only [hkind, hname, beq_iff_eq, if_false, identifierType, hvalue, bindingType,
        parameterType, hparameter, htype, ascribedType, hfirst]
      exact bind_ok_self _
  | assertion hkind hparts =>
      rw [Program.answers_expression, expressionRule, if_neg (by omega)]
      simp only [hkind, hparts]
  | parenthesized hkind hfirst _ ih =>
      rw [Program.answers_expression, expressionRule, if_neg (by omega)]
      simp only [hkind, hfirst]
      refine (@ih (depth + 1) (by omega)).trans ?_
      rw [Nat.add_right_comm, Nat.add_assoc]

/-- The type of an access is what it picks from the type of the annotation. -/
theorem Reads.expression {u : StaticType} (hreads : Reads p access written steps s)
    (hdepth : depth + 1 + steps ≤ maxDepth)
    (ht : p.answers.denoted written .empty (depth + 1 + steps) = .ok t)
    (hpicked : selected p.answers t (depth + 1) s = .ok u) :
    p.answers.expression access depth = .ok (continueChain access u) := by
  obtain ⟨object, hobject, hvalue⟩ := hreads.object
  rw [expression_of_selector hreads.selector hobject (by omega), hvalue.expression hdepth, ht]
  change (selected p.answers t (depth + 1) s >>= _) = _
  rw [hpicked]
  rfl

/-! ## Index signatures -/

/-- Of the signatures in a container the only one is an index signature, which says that the
members are of the type `element`. -/
def OnlyIndexes (container element : Node) : Prop :=
  ∃ item ascription, container.constructs = [item] ∧ item.kind = "index_signature" ∧
    item.field? "type" = some ascription ∧ ascription.firstConstruct? = some element

/-- The annotation is an object type, or refers to an interface, with an index signature as its
only member. It is written at `decl`, and `bindings` are what the parameters stand for. -/
inductive IndexSignature (p : Program) (depth : Nat) (element decl : Node) :
    List (String × StaticType) → Node → Prop
  | object (hkind : decl.kind = "object_type") (honly : OnlyIndexes decl element) :
      IndexSignature p depth element decl [] decl
  | interface {site body : Node} {name : String} {arguments : List StaticType} {inner : TypeEnv}
      (hkind : decl.kind = "interface_declaration") (hbody : decl.field? "body" = some body)
      (honly : OnlyIndexes body element) (hrefers : referredName? [] site = some name)
      (hdecl : Scope.resolveType? p site name = some decl)
      (harguments : argumentTypes p.answers (typeArguments? site) .empty depth = .ok arguments)
      (hinner : bindParameters p.answers depth (typeParameters decl) arguments
        (TypeEnv.empty.enter (declaredName decl)) = .ok inner) :
      IndexSignature p depth element decl inner.bindings site

variable {bindings : List (String × StaticType)} {id : ShapeId}

/-- The shape of a node of the program. -/
theorem shapeOf_eq_shape (hid : shapeId? p n = some id) (label : String) (env : TypeEnv) :
    shapeOf p n label env = .shape id label env.bindings := by
  rw [shapeOf, hid]

theorem IndexSignature.denoted (hsignature : IndexSignature p depth element decl bindings written)
    (hid : shapeId? p decl = some id) (hdepth : depth ≤ maxDepth) :
    ∃ label, p.answers.denoted written .empty depth = .ok (.shape id label bindings) := by
  cases hsignature with
  | object hkind =>
      rw [Program.answers_denoted, denotedRule, if_neg (Nat.not_lt.mpr hdepth)]
      simp only [hkind]
      exact ⟨_, congrArg Outcome.ok (shapeOf_eq_shape hid _ _)⟩
  | interface hkind _ _ hrefers hdecl harguments hinner =>
      have hrefers : referredName? (TypeEnv.boundNames TypeEnv.empty.bindings) written = some _ :=
        hrefers
      obtain ⟨hbuiltIn, hdenoted⟩ := denoted_of_refers (p := p) hdepth hrefers
      rw [hdenoted, harguments]
      change ∃ label, referenceType p p.answers written _ _ .empty depth = _
      rw [typeParameters] at hinner
      rw [referenceType_of_resolved hbuiltIn List.not_mem_nil hdecl, declaredType, hinner]
      change ∃ label, (if (decl.kind == "type_alias_declaration") = true then _ else _) = _
      rw [hkind]
      exact ⟨_, congrArg Outcome.ok (shapeOf_eq_shape hid _ _)⟩

/-- A node of the program that is found again by its file, span and kind. -/
structure Declared (p : Program) (decl : Node) : Prop where
  file : ∃ i, p.indexOf? decl.file = some i ∧ p.files[i]? = some decl.file
  wellFormed : decl.file.tree.WellFormed decl.file.text
  below : decl ∈ decl.file.root.subtree
  covers : decl.span.start < decl.span.stop
  innermost : decl.IsInnermost

theorem Declared.exists_shapeId? (hdecl : Declared p decl) :
    ∃ id, shapeId? p decl = some id ∧ p.declaration? id = some decl := by
  obtain ⟨i, hindex, hfile⟩ := hdecl.file
  refine ⟨⟨i, decl.span, decl.kind⟩, by rw [shapeId?, hindex]; rfl, ?_⟩
  rw [Program.declaration?, hfile, Option.bind_some]
  exact SourceFile.nodeAt?_eq_some hdecl.wellFormed hdecl.below hdecl.covers hdecl.innermost

/-- Among signatures that are an index signature only, every name has the type it says. -/
theorem signatureMember_of_onlyIndexes {container : Node} {name : String} {env : TypeEnv}
    (honly : OnlyIndexes container element)
    (helement : p.answers.denoted element env (depth + 1) = .ok t) :
    signatureMember p.answers container name env depth = .ok (some t) := by
  obtain ⟨item, ascription, hconstructs, hkind, htype, hfirst⟩ := honly
  have hnone : container.constructs.findSome? (signatureOf? p.answers name env depth) = none := by
    rw [hconstructs]
    simp [signatureOf?, hkind]
  have hindex : indexAscription? container = some ascription := by
    simp [indexAscription?, hconstructs, hkind, htype]
  rw [signatureMember, hnone, hindex]
  simp only [onSome, ascribedType, hfirst, helement]
  rfl

/-- Every name is a member of the shape of an index signature. -/
theorem shapeMember_of_indexSignature {other : Nat} {name : String}
    (hsignature : IndexSignature p other element decl bindings written)
    (hdecl : p.declaration? id = some decl)
    (helement : p.answers.denoted element ⟨bindings, []⟩ (depth + 1) = .ok t) :
    shapeMember p p.answers id bindings name depth = .ok (some t) := by
  unfold Program.declaration? at hdecl
  rw [shapeMember, hdecl]
  cases hsignature with
  | object hkind honly =>
      simp only [onSome, hkind]
      exact signatureMember_of_onlyIndexes honly helement
  | interface hkind hbody honly =>
      simp only [onSome, hkind, interfaceMember, hbody,
        signatureMember_of_onlyIndexes honly helement]
      rfl

/-! ## Records -/

/-- The annotation is `Record<string, element>`, with the name of the library. -/
def IsRecord (p : Program) (element written : Node) : Prop :=
  written.kind = "generic_type" ∧
    ∃ name arguments key, written.field? "name" = some name ∧ name.text = "Record" ∧
      written.field? "type_arguments" = some arguments ∧
      arguments.constructs = [key, element] ∧ key.kind = "predefined_type" ∧ key.text = "string" ∧
      Scope.resolveType? p written "Record" = none

theorem IsRecord.denoted (hrecord : IsRecord p element written) (hdepth : depth ≤ maxDepth)
    (helement : p.answers.denoted element .empty (depth + 1) = .ok t) :
    ∃ key, p.answers.denoted written .empty depth = .ok (.reference "Record" [key, t]) := by
  obtain ⟨hkind, name, arguments, key, hname, htext, harguments, hparts, hkey, -, hfree⟩ := hrecord
  -- The type of the key is cut off at the very depth limit.
  obtain ⟨keyType, hkeyType⟩ : ∃ u, p.answers.denoted key .empty (depth + 1) = .ok u := by
    rw [Program.answers_denoted, denotedRule]
    simp only [hkey]
    split
    · exact ⟨_, rfl⟩
    · exact ⟨_, rfl⟩
  refine ⟨keyType, ?_⟩
  rw [Program.answers_denoted, denotedRule, if_neg (Nat.not_lt.mpr hdepth)]
  simp only [hkind, hname, onSome, argumentTypes, harguments, Option.map_some, Option.getD_some,
    hparts, mapAll, hkeyType, helement]
  change referenceType p p.answers written name.text [keyType, t] .empty depth = _
  rw [htext]
  simp [referenceType, TypeEnv.empty, hfree]

/-! ## What both give -/

/-- The members of a type that is neither a union nor an absent value are those that the type
itself declares. -/
theorem answers_member_of_plain {name : String} (hplain : t.isUnion = false)
    (hpresent : t.isNullish = false) (hdepth : depth ≤ maxDepth)
    (hnormal : ∀ u, memberOf p p.answers name depth t = .ok (some u) → u.Normal) :
    p.answers.member t name depth = memberOf p p.answers name depth t := by
  rw [Program.answers_member, memberRule, if_neg (Nat.not_lt.mpr hdepth),
    members_eq_singleton hplain, memberTypes, hpresent]
  cases hmember : memberOf p p.answers name depth t with
  | ok found =>
      cases found with
      | none => rfl
      | some u =>
          change Outcome.ok (some (join [u])) = _
          rw [join_singleton (hnormal u hmember)]
  | error e => rfl
  | exhausted => rfl

/-- What a shape or a library type gives for a key, if it declares the key, is the type of the
member. -/
theorem propertyType_of_memberOf {name : String} {u : StaticType} (hplain : t.isUnion = false)
    (hpresent : t.isNullish = false) (hu : u.Normal) (hdepth : depth ≤ maxDepth)
    (hmember : memberOf p p.answers name depth t = .ok (some u)) :
    propertyType p.answers t name depth = .ok u := by
  have hnormal : ∀ v, memberOf p p.answers name depth t = .ok (some v) → v.Normal := by
    intro v hv
    cases hmember.symm.trans hv
    exact hu
  rw [propertyType, answers_member_of_plain hplain hpresent hdepth hnormal, hmember]
  rfl

theorem normal_of_denoted {env : TypeEnv} (henv : env.All StaticType.Normal)
    (hdenoted : p.answers.denoted n env (depth + 1) = .ok t) : t.Normal := by
  have hn : (Program.Realm.whole p).node n := trivial
  have houtcome := (p.persist_answers_whole depth).denoted (Nat.lt_succ_self depth) hn henv
  rw [hdenoted] at houtcome
  exact houtcome.of_ok

/-- A value with an index signature gives the type of its members for every key. -/
theorem propertyType_of_indexSignature {other : Nat} {label name : String} (ht : t.Normal)
    (hsignature : IndexSignature p other element decl bindings written)
    (hdecl : p.declaration? id = some decl) (hdepth : depth ≤ maxDepth)
    (helement : p.answers.denoted element ⟨bindings, []⟩ (depth + 2) = .ok t) :
    propertyType p.answers (.shape id label bindings) name depth = .ok t :=
  propertyType_of_memberOf rfl rfl ht hdepth
    (shapeMember_of_indexSignature hsignature hdecl helement)

/-- A record gives the type of its members for every key and every other index. -/
theorem selected_of_record {key : StaticType} (ht : t.Normal) (hdepth : depth ≤ maxDepth) :
    selected p.answers (.reference "Record" [key, t]) depth s = .ok t := by
  cases s with
  | key name => exact propertyType_of_memberOf rfl rfl ht hdepth rfl
  | element position =>
      change Outcome.ok (join [t]) = _
      rw [join_singleton ht]

/-- Two accesses that pick the same, from a value annotated with an index signature and from one
annotated with `Record`, where both annotations give the members the same type. For a key both
are of this type. For any other index the value with the index signature is not seen through. -/
theorem access_of_indexSignature_record (p : Program) (depth : Nat)
    {access access' written written' element element' decl : Node} {steps steps' : Nat}
    {s : Selector} {bindings : List (String × StaticType)} {t : StaticType}
    (hreads : Reads p access written steps s) (hreads' : Reads p access' written' steps' s)
    (hchain : access.isOptionalChain = access'.isOptionalChain)
    (hsignature : IndexSignature p (depth + 1 + steps) element decl bindings written)
    (hdecl : Declared p decl) (hrecord : IsRecord p element' written')
    (hdepth : depth + 1 + steps ≤ maxDepth) (hdepth' : depth + 1 + steps' ≤ maxDepth)
    (helement : p.answers.denoted element ⟨bindings, []⟩ (depth + 3) = .ok t)
    (helement' : p.answers.denoted element' .empty (depth + 1 + steps' + 1) = .ok t) :
    (∀ name, s = .key name →
      p.answers.expression access depth = .ok (continueChain access t) ∧
        p.answers.expression access' depth = p.answers.expression access depth) ∧
    (∀ position, s = .element position →
      p.answers.expression access depth = .ok (continueChain access .unseen) ∧
        p.answers.expression access' depth = .ok (continueChain access' t)) := by
  have ht : t.Normal := normal_of_denoted TypeEnv.all_empty helement'
  obtain ⟨id, hid, hdeclaration⟩ := hdecl.exists_shapeId?
  obtain ⟨label, hshape⟩ := hsignature.denoted hid hdepth
  obtain ⟨key, hreference⟩ := hrecord.denoted hdepth' helement'
  have hrecorded : p.answers.expression access' depth = .ok (continueChain access' t) :=
    hreads'.expression hdepth' hreference (selected_of_record ht (by omega))
  constructor
  · rintro name rfl
    have hindexed : p.answers.expression access depth = .ok (continueChain access t) :=
      hreads.expression hdepth hshape
        (propertyType_of_indexSignature ht hsignature hdeclaration (by omega) helement)
    refine ⟨hindexed, ?_⟩
    rw [hrecorded, hindexed, continueChain, continueChain, hchain]
  · rintro position rfl
    exact ⟨hreads.expression hdepth hshape rfl, hrecorded⟩

namespace Sample

open Program.Sample (construct)

/-- `A` or `null`, written from an offset on. -/
def nullable (start : Nat) : Tree :=
  construct "union_type" start (start + 8) []
    [construct "type_identifier" start (start + 1) [] [],
      construct "literal_type" (start + 4) (start + 8) []
        [construct "null" (start + 4) (start + 8) [] []]]

/-- The statement `object[index]` from an offset on, with an index of the given kind. -/
def indexing (start stop : Nat) (index : String) : Tree :=
  construct "expression_statement" start (stop + 1) []
    [construct "subscript_expression" start stop []
      [construct "identifier" start (start + 1) ["object"] [],
        construct index (start + 2) (stop - 1) ["index"] []]]

/-- Accesses of two values. -/
def accesses : SourceFile where
  load := 0
  path := ⟨"a.ts"⟩
  text := "o.k; r[\"k\"]; o[0]; r[0];"
  dialect := .typeScript
  tree := construct "program" 0 24 []
    [construct "expression_statement" 0 4 []
        [construct "member_expression" 0 3 []
          [construct "identifier" 0 1 ["object"] [],
            construct "property_identifier" 2 3 ["property"] []]],
      indexing 5 11 "string", indexing 13 17 "number", indexing 19 23 "number"]

/-- A file that declares a variable with the given annotation. -/
def declaring (path text : String) (written : Tree) : SourceFile where
  load := 0
  path := ⟨path⟩
  text := text
  dialect := .typeScript
  tree :=
    let stop := written.span.stop
    construct "program" 0 (stop + 1) []
      [construct "variable_declaration" 0 (stop + 1) []
        [construct "variable_declarator" 4 stop []
          [construct "identifier" 4 5 ["name"] [],
            construct "type_annotation" 5 stop ["type"] [written]]]]

def indexed : SourceFile :=
  declaring "b.ts" "var o: \x7b[k: string]: A | null\x7d;"
    (construct "object_type" 7 30 []
      [construct "index_signature" 8 29 []
        [construct "identifier" 9 10 ["name"] [],
          construct "predefined_type" 12 18 ["index_type"] [],
          construct "type_annotation" 19 29 ["type"] [nullable 21]]])

def recorded : SourceFile :=
  declaring "c.ts" "var r: Record<string, A | null>;"
    (construct "generic_type" 7 31 []
      [construct "type_identifier" 7 13 ["name"] [],
        construct "type_arguments" 13 31 ["type_arguments"]
          [construct "predefined_type" 14 20 [] [], nullable 22]])

def accessProgram : Program := ⟨[accesses, indexed, recorded], .standard⟩

/-- The node to which the given positions among children lead. -/
def nodeIn (file : SourceFile) (positions : List Nat) : Node :=
  positions.foldl (fun n i => n.children.getD i n) file.root

/-- The annotation with the index signature. -/
def signatureType : Node := nodeIn indexed [0, 0, 1, 0]

/-- What the index signature says of the members. -/
def signatureElement : Node := nodeIn indexed [0, 0, 1, 0, 0, 2, 0]

/-- The annotation with `Record`. -/
def recordType : Node := nodeIn recorded [0, 0, 1, 0]

/-- What `Record` says of the members. -/
def recordElement : Node := nodeIn recorded [0, 0, 1, 0, 1, 1]

/-- The access in the statement at a position. -/
def accessAt (position : Nat) : Node := nodeIn accesses [position, 0]

/-- The type of the members. -/
def members : StaticType := .union [.reference "A" [], .null]

theorem indexSignature : IndexSignature accessProgram 3 signatureElement signatureType []
    signatureType :=
  .object rfl ⟨_, _, rfl, rfl, rfl, rfl⟩

theorem declared_signatureType : Declared accessProgram signatureType where
  file := ⟨1, rfl, rfl⟩
  wellFormed := by decide +kernel
  below := Node.child_mem_subtree (Node.child_mem_subtree (Node.child_mem_subtree
    (Node.child_mem_subtree (Node.mem_subtree_self _) (.head _)) (.head _)) (.tail _ (.head _)))
    (.head _)
  covers := by decide +kernel
  innermost := by decide +kernel

theorem isRecord : IsRecord accessProgram recordElement recordType :=
  ⟨rfl, _, _, _, rfl, rfl, rfl, rfl, rfl, rfl, rfl⟩

/-- The first and the third access are of the value with the index signature. -/
theorem reads_signatureType :
    Reads accessProgram (accessAt 0) signatureType 2 (.key "k") ∧
      Reads accessProgram (accessAt 2) signatureType 2 (.element (some 0)) :=
  ⟨⟨⟨_, rfl, .ofVariable rfl (by decide +kernel) rfl rfl rfl rfl⟩, rfl⟩,
    ⟨⟨_, rfl, .ofVariable rfl (by decide +kernel) rfl rfl rfl rfl⟩, rfl⟩⟩

/-- The other two are of the record. -/
theorem reads_recordType :
    Reads accessProgram (accessAt 1) recordType 2 (.key "k") ∧
      Reads accessProgram (accessAt 3) recordType 2 (.element (some 0)) :=
  ⟨⟨⟨_, rfl, .ofVariable rfl (by decide +kernel) rfl rfl rfl rfl⟩, rfl⟩,
    ⟨⟨_, rfl, .ofVariable rfl (by decide +kernel) rfl rfl rfl rfl⟩, rfl⟩⟩

theorem denoted_members :
    accessProgram.answers.denoted signatureElement .empty 3 = .ok members ∧
      accessProgram.answers.denoted recordElement .empty 4 = .ok members := by
  decide +kernel

end Sample

/-- Both values give their members for a key. -/
theorem access_of_indexSignature_record_sample :
    let access := Sample.accessAt 0
    let access' := Sample.accessAt 1
    Reads Sample.accessProgram access Sample.signatureType 2 (.key "k") ∧
      Reads Sample.accessProgram access' Sample.recordType 2 (.key "k") ∧
      IndexSignature Sample.accessProgram 3 Sample.signatureElement Sample.signatureType []
        Sample.signatureType ∧
      Declared Sample.accessProgram Sample.signatureType ∧
      IsRecord Sample.accessProgram Sample.recordElement Sample.recordType ∧
      Sample.accessProgram.answers.expression access 0 = .ok Sample.members ∧
      Sample.accessProgram.answers.expression access' 0 = .ok Sample.members := by
  intro access access'
  have hreads := Sample.reads_signatureType.1
  have hreads' := Sample.reads_recordType.1
  obtain ⟨helement, helement'⟩ := Sample.denoted_members
  obtain ⟨hkey, hsame⟩ := (access_of_indexSignature_record Sample.accessProgram 0 hreads hreads'
    (by decide +kernel) Sample.indexSignature Sample.declared_signatureType Sample.isRecord
    (by decide) (by decide) helement helement').1 "k" rfl
  have hchain : continueChain access Sample.members = Sample.members := by decide +kernel
  rw [hchain] at hkey
  exact ⟨hreads, hreads', Sample.indexSignature, Sample.declared_signatureType, Sample.isRecord,
    hkey, hsame.trans hkey⟩

/-- With an index that is not a string the value with the index signature is not seen through,
while the record gives what may be `null`. -/
theorem access_of_indexSignature_unseen :
    let access := Sample.accessAt 2
    let access' := Sample.accessAt 3
    Reads Sample.accessProgram access Sample.signatureType 2 (.element (some 0)) ∧
      Reads Sample.accessProgram access' Sample.recordType 2 (.element (some 0)) ∧
      IndexSignature Sample.accessProgram 3 Sample.signatureElement Sample.signatureType []
        Sample.signatureType ∧
      IsRecord Sample.accessProgram Sample.recordElement Sample.recordType ∧
      Sample.accessProgram.answers.denoted Sample.signatureElement .empty 3 =
        .ok Sample.members ∧
      Sample.accessProgram.answers.denoted Sample.recordElement .empty 4 =
        .ok Sample.members ∧
      Sample.accessProgram.typeAt access = .ok .unseen ∧
      Sample.accessProgram.typeAt access' = .ok Sample.members :=
  ⟨Sample.reads_signatureType.2, Sample.reads_recordType.2, Sample.indexSignature, Sample.isRecord,
    Sample.denoted_members.1, Sample.denoted_members.2, by decide +kernel, by decide +kernel⟩

end Checker

end CallMigration
