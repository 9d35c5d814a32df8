import CallMigration.Proofs.Printing.Site
import CallMigration.Proofs.Syntax.Chain
import Mathlib.Data.List.Forall2

/-!
# Replacing a call

The text of a fragment takes the place of a call in a parsed expression. The tokens are then
read as the old expression with the fragment in place of the call, and an access after the
call does not become part of an optional chain of the fragment. Two ways to miss this
remain: a chain of optional calls, whose sign is a bare token, is not seen to be one, and a
slot does not tell that `new` creates from a member of a tagged template.
-/

namespace CallMigration

/-! ## Optional chains -/

/-- An expression is in a chain when some link on the way down through objects, callees and
operands of `!` is written with `?.`. The links of a node are those with the sign. -/
def Expr.InChain (sign : Node → Bool) : Expr → Prop
  | operand (.node n) => n.Chained sign
  | build (.property optional _) (e :: _) | build (.index optional) (e :: _)
  | build (.call optional _ _) (e :: _) => optional = true ∨ e.InChain sign
  | build .assertion (e :: _) => e.InChain sign
  | _ => False

/-- Whether the frame accesses, calls or asserts what is put into it, without `?.`. -/
def Shape.isPlainLink : Shape → Bool
  | property optional _ | index optional | call optional _ _ => !optional
  | assertion => true
  | _ => false

def Frame.isPlainLink (frame : Frame) : Bool := frame.before.isEmpty && frame.shape.isPlainLink

/-- A plain link goes on with what is put into it. -/
theorem Frame.inChain_plug {frame : Frame} (hlink : frame.isPlainLink = true)
    (sign : Node → Bool) (e : Expr) : (frame.plug e).InChain sign ↔ e.InChain sign := by
  obtain ⟨shape, before, after⟩ := frame
  obtain ⟨hbefore, hshape⟩ := Bool.and_eq_true_iff.mp hlink
  obtain rfl : before = [] := List.isEmpty_iff.mp hbefore
  cases shape with
  | property optional name => cases optional <;> simp_all [plug, Expr.InChain, Shape.isPlainLink]
  | index optional => cases optional <;> simp_all [plug, Expr.InChain, Shape.isPlainLink]
  | call optional types gaps => cases optional <;> simp_all [plug, Expr.InChain, Shape.isPlainLink]
  | assertion => rfl
  | _ => cases hshape

namespace Fragment

/-- A fragment is seen to be in a chain by the links that have `?.` under a field, or that
it adds itself. -/
theorem isOptionalChain_iff_inChain (f : Fragment) :
    f.isOptionalChain = true ↔ f.toExpr.InChain Node.isMarked := by
  induction f using Fragment.induction with
  | node n => exact n.isOptionalChain_iff_chained
  | property object optional name ih =>
      rw [isOptionalChain, Bool.or_eq_true, ih, toExpr, Expr.InChain]
  | call callee arguments ihcallee _ =>
      rw [isOptionalChain, ihcallee, toExpr, callShape, Expr.InChain]
      simp
  | _ => simp [isOptionalChain, toExpr, Expr.InChain]

theorem precedence_of_inChain {f : Fragment} (hf : f.toExpr.InChain Node.isOptional) :
    f.precedence = .member ∧ f.isInteger = false := by
  cases f with
  | node n =>
      have hkind := Node.Chained.kind hf
      simp only [List.mem_cons, List.not_mem_nil, or_false] at hkind
      obtain hkind | hkind | hkind | hkind := hkind <;>
        simp [precedence, Precedence.ofNode, isInteger, hkind]
  | property object optional name => exact ⟨rfl, rfl⟩
  | call callee arguments => exact ⟨rfl, rfl⟩
  | _ => cases hf

/-- An expression in parentheses is in no chain. -/
theorem inChain_enclose (needed : Bool) (sign : Node → Bool) (e : Expr) :
    (e.enclose needed).InChain sign ↔ needed = false ∧ e.InChain sign := by
  cases needed with
  | false => simp [Expr.enclose]
  | true => simp [Expr.enclose, Expr.InChain]

/-- A chain is strong enough for the place of an object, so that parentheses can only be
there to end it. -/
theorem needsParens_of_inChain {f : Fragment} (hf : f.toExpr.InChain Node.isOptional)
    (endsChain : Bool) :
    (Slot.mk .member none endsChain).needsParens f = (endsChain && f.isOptionalChain) := by
  have hlevel : ¬f.precedence < .member := by
    rw [(precedence_of_inChain hf).1]
    decide
  simp [needsParens_of_operator_none, hlevel]

/-- No parentheses in a fragment end a chain. -/
theorem inChain_body (f : Fragment) :
    f.body.InChain Node.isOptional ↔ f.toExpr.InChain Node.isOptional := by
  induction f using Fragment.induction with
  | node n => rfl
  | identifier name => rfl
  | literal value => rfl
  | property object optional name ih =>
      rw [body, toExpr, Expr.InChain, Expr.InChain, inChain_enclose, inChain_enclose, ih]
      -- A chain is no integer and strong enough, so neither pair of parentheses is there.
      refine or_congr Iff.rfl ⟨fun h => h.2.2, fun hobject => ?_⟩
      have hinteger := (precedence_of_inChain hobject).2
      rw [hinteger]
      exact ⟨rfl, needsParens_of_inChain hobject false, hobject⟩
  | call callee arguments ihcallee iharguments =>
      rw [body, toExpr, callShape, Expr.InChain, Expr.InChain, inChain_enclose, ihcallee]
      refine or_congr Iff.rfl ⟨fun h => h.2, fun hcallee => ?_⟩
      exact ⟨needsParens_of_inChain hcallee false, hcallee⟩
  | binary left op right ihleft ihright => rfl

/-- Where a chain has to end, a fragment stays one only when no link of it is marked. -/
theorem inChain_layout (f : Fragment) :
    (f.layout ⟨.member, none, true⟩).InChain Node.isOptional ↔
      f.toExpr.InChain Node.isOptional ∧ ¬f.toExpr.InChain Node.isMarked := by
  rw [layout, inChain_enclose, inChain_body, ← isOptionalChain_iff_inChain, Bool.not_eq_true]
  constructor
  · rintro ⟨hparens, hchain⟩
    rw [needsParens_of_inChain hchain] at hparens
    exact ⟨hchain, by simpa using hparens⟩
  · rintro ⟨hchain, hoptional⟩
    refine ⟨?_, hchain⟩
    rw [needsParens_of_inChain hchain, hoptional]
    rfl

end Fragment

/-! ## The site in its surroundings -/

namespace Node

theorem eq_of_surrounds_nil {site n : Node} {context : Context}
    (hn : Surrounds site context n) (hnil : context = []) : n = site := by
  cases hn with
  | here => rfl
  | inside => simp at hnil

/-- The innermost frame comes from the parsed expression that the site is a part of. -/
theorem Surrounds.exists_construct? {site n : Node} {frame : Frame} {outer : Context}
    (hn : Surrounds site (frame :: outer) n) :
    ∃ (m : Node) (parts : List Node), m.construct? = some (frame.shape, parts) ∧
      parts[frame.before.length]? = some site := by
  generalize hcontext : frame :: outer = context at hn
  -- The derivation adds frames at the outer end, so only its first step matters.
  induction hn generalizing outer with
  | here => cases hcontext
  | @inside context n m shape nodes nodes' before after hm hn hbefore hafter ih =>
      cases context with
      | nil =>
          cases hcontext
          obtain rfl := eq_of_surrounds_nil hm rfl
          exact ⟨n, _, hn, by simp [← hbefore.length_eq]⟩
      | cons first rest =>
          cases hcontext
          exact ih rfl

theorem Surrounds.reads {site n : Node} {context : Context} (hn : Surrounds site context n)
    {e : Expr} (hsite : Reads site e) : Reads n (context.plug e) := by
  induction hn with
  | here => exact hsite
  | @inside context n m shape nodes nodes' before after hm hn hbefore hafter ih =>
      rw [Context.plug_append]
      exact .construct hn (List.rel_append hbefore (.cons ih hafter))

end Node

theorem Node.kind_of_isPlainLink {n : Node} {shape : Shape} {parts : List Node}
    (hn : n.construct? = some (shape, parts)) (hlink : shape.isPlainLink = true) :
    n.kind ∈ ["member_expression", "subscript_expression", "call_expression",
      "non_null_expression"] := by
  unfold construct? at hn
  split at hn
  all_goals simp [Option.bind_eq_some_iff] at hn <;> grind [Shape.isPlainLink]

/-- The place of a site that is accessed, called or asserted without `?.` ends a chain. -/
theorem Slot.ofSite_of_isPlainLink {m site : Node} {shape : Shape} {parts : List Node}
    (hm : m.construct? = some (shape, parts)) (hlink : shape.isPlainLink = true)
    (hsite : parts[0]? = some site) : Slot.ofSite site = ⟨.member, none, true⟩ := by
  have hobject : (m.field? "optional_chain").isSome = false →
      accessObject m = ⟨.member, none, true⟩ := by
    intro hplain
    simpa [accessObject] using hplain
  have hkind := Node.kind_of_isPlainLink hm hlink
  simp only [List.mem_cons, List.not_mem_nil, or_false] at hkind
  obtain hkind | hkind | hkind | hkind := hkind <;> simp only [Node.construct?, hkind] at hm
  · obtain ⟨e, he, hm⟩ := Option.bind_eq_some_iff.mp hm
    obtain ⟨name, -, ⟨⟩⟩ := Option.bind_eq_some_iff.mp hm
    cases hsite
    rw [ofSite_of_mem_ofField he (by simp [ofField, hkind] : (_, _, accessObject m) ∈ _)]
    exact hobject (by simpa [Shape.isPlainLink] using hlink)
  · obtain ⟨e, he, hm⟩ := Option.bind_eq_some_iff.mp hm
    obtain ⟨index, -, ⟨⟩⟩ := Option.bind_eq_some_iff.mp hm
    cases hsite
    rw [ofSite_of_mem_ofField he (by simp [ofField, hkind] : (_, _, accessObject m) ∈ _)]
    exact hobject (by simpa [Shape.isPlainLink] using hlink)
  · obtain ⟨e, he, hm⟩ := Option.bind_eq_some_iff.mp hm
    obtain ⟨list, -, ⟨⟩⟩ := Option.bind_eq_some_iff.mp hm
    cases hsite
    rw [ofSite_of_mem_ofField he (by simp [ofField, hkind] : (_, _, accessObject m) ∈ _)]
    have hplain : (m.field? "optional_chain").isSome = false ∧ m.hasToken "?." = false := by
      simpa [Shape.isPlainLink] using hlink
    exact hobject hplain.1
  · obtain ⟨e, he, ⟨⟩⟩ := Option.bind_eq_some_iff.mp hm
    cases hsite
    exact ofSite_of_mem_ofKind (Node.parent?_of_firstConstruct? he) (by simp [ofKind, hkind])

namespace Node

/-- A call is a member expression, and `new` creates from it only when it is a tagged
template. -/
theorem Reads.level_and_isTarget {site : Node} {e : Expr} (hread : Reads site e)
    (hkind : site.kind = "call_expression") :
    e.level = .member ∧ (e.isTarget = true → site.isTagged = true) := by
  have hlevel : Precedence.ofNode site = .member := by simp [Precedence.ofNode, hkind]
  cases hread with
  | operand =>
      refine ⟨hlevel, ?_⟩
      intro htarget
      simpa [Expr.isTarget, Operand.isTarget, hlevel] using htarget
  | @construct _ shape nodes parts hn hparts =>
      simp only [construct?, hkind] at hn
      obtain ⟨callee, -, hn⟩ := Option.bind_eq_some_iff.mp hn
      obtain ⟨list, -, ⟨⟩⟩ := Option.bind_eq_some_iff.mp hn
      refine ⟨rfl, ?_⟩
      intro htarget
      cases htarget

end Node

namespace Fragment

/-- What is written for a fragment can replace the site, unless `new` creates from the site
and not from the fragment. -/
theorem grammatical_plug_layout {site n : Node} {context : Context}
    (hn : Node.Surrounds site context n) {e : Expr} (he : (context.plug e).Grammatical)
    (f : Fragment)
    (htarget : context.asksTarget = true → (f.layout (.ofSite site)).isTarget = true) :
    (context.plug (f.layout (.ofSite site))).Grammatical := by
  cases context with
  | nil => exact f.grammatical_layout _
  | cons frame outer =>
      obtain ⟨m, parts, hm, hsite⟩ := hn.exists_construct?
      have houter : (Context.plug outer (frame.plug e)).Grammatical := he
      have hknown := (Context.grammatical_of_plug houter).fits.known
      exact Context.grammatical_plug he (f.grammatical_layout _)
        (Slot.suits_of_construct hm hknown hsite f) htarget

/-- The text of a fragment replaces a call. The tokens that come of it are those of one
expression of the grammar, which without parentheses is the old one with the fragment in
place of the call; only a tagged template that `new` creates from asks for more than a slot
tells. An access, a call or `!` after the call becomes part of an optional chain where the
fragment is in one by bare tokens only, and nowhere else. -/
theorem print_replaces {site n : Node} (hkind : site.kind = "call_expression") {context : Context}
    (hn : Node.Surrounds site context n) {call : Expr} (hcall : Node.Reads site call)
    (hgrammatical : (context.plug call).Grammatical) {f : Fragment} {text : String}
    (hprint : f.print site = .ok text) :
    let e := f.layout (.ofSite site)
    let tokens := context.opening ++ (e.tokens ++ context.closing)
    spell? e.tokens = some text ∧ Node.Reads n (context.plug call) ∧
      (context.plug call).tokens = context.opening ++ (call.tokens ++ context.closing) ∧
      (context.asksTarget = true → site.isTagged = true) ∧
      ((context.asksTarget = true → e.isTarget = true) →
        ∃ whole : Expr, whole.Grammatical ∧ whole.tokens = tokens ∧
          whole.bare = (context.plug f.toExpr).bare ∧
          ∀ other : Expr, other.Grammatical → other.tokens = tokens → other = whole) ∧
      ∀ frame ∈ context.head?, frame.isPlainLink = true →
        ((frame.plug e).InChain Node.isOptional ↔
          f.toExpr.InChain Node.isOptional ∧ ¬f.toExpr.InChain Node.isMarked) := by
  intro e tokens
  obtain ⟨hlevel, htagged⟩ := hcall.level_and_isTarget hkind
  refine ⟨spell?_layout hprint, hn.reads hcall, Context.tokens_plug hgrammatical call, ?_, ?_, ?_⟩
  · -- A call is not `new` without arguments, so it is left to be a target.
    intro hasks
    rcases Context.isTarget_of_asksTarget hgrammatical hasks with htarget | hnew
    · exact htagged htarget
    · exact absurd (hlevel.symm.trans hnew) (by decide)
  · intro htarget
    have hwhole := grammatical_plug_layout hn hgrammatical f htarget
    have htokens : (context.plug e).tokens = tokens := Context.tokens_plug hgrammatical e
    refine ⟨context.plug e, hwhole, htokens, ?_, ?_⟩
    · apply Context.bare_plug_congr
      rw [bare_layout, bare_toExpr]
    · intro other hother hsame
      exact hother.eq_of_tokens_eq hwhole (hsame.trans htokens.symm)
  · -- The link comes from the parent of the site, from which the slot is computed.
    intro frame hframe hlink
    obtain ⟨outer, rfl⟩ := List.head?_eq_some_iff.mp hframe
    obtain ⟨m, parts, hm, hsite⟩ := hn.exists_construct?
    obtain ⟨hbefore, hshape⟩ := Bool.and_eq_true_iff.mp hlink
    rw [List.isEmpty_iff.mp hbefore] at hsite
    rw [Frame.inChain_plug hlink, ← inChain_layout, ← Slot.ofSite_of_isPlainLink hm hshape hsite]

namespace Sample

/-- A call that is accessed, with an optional call among its arguments. -/
def accessed : SourceFile where
  load := 0
  path := ⟨"a.ts"⟩
  text := "u.old(f?.(x), g).valueOf();"
  dialect := .typeScript
  tree := branch "program" 0 27 []
    [branch "expression_statement" 0 27 []
      [branch "call_expression" 0 26 []
        [branch "member_expression" 0 24 ["function"]
          [branch "call_expression" 0 16 ["object"]
            [branch "member_expression" 0 5 ["function"]
              [leaf "identifier" true 0 1 ["object"], leaf "." false 1 2 [],
                leaf "property_identifier" true 2 5 ["property"]],
              branch "arguments" 5 16 ["arguments"]
                [leaf "(" false 5 6 [],
                  branch "call_expression" 6 12 []
                    [leaf "identifier" true 6 7 ["function"], leaf "?." false 7 9 [],
                      branch "arguments" 9 12 ["arguments"]
                        [leaf "(" false 9 10 [], leaf "identifier" true 10 11 [],
                          leaf ")" false 11 12 []]],
                  leaf "," false 12 13 [], leaf "identifier" true 14 15 [],
                  leaf ")" false 15 16 []]],
            leaf "." false 16 17 [], leaf "property_identifier" true 17 24 ["property"]],
          branch "arguments" 24 26 ["arguments"]
            [leaf "(" false 24 25 [], leaf ")" false 25 26 []]],
        leaf ";" false 26 27 []]]

def whole : Node := accessed.root.preorder.getD 2 accessed.root

def member : Node := accessed.root.preorder.getD 3 accessed.root

/-- The call `u.old(f?.(x), g)`. -/
def site : Node := accessed.root.preorder.getD 4 accessed.root

def callee : Node := accessed.root.preorder.getD 5 accessed.root

/-- The optional call `f?.(x)`. -/
def optionalCall : Node := accessed.root.preorder.getD 9 accessed.root

def argument : Node := accessed.root.preorder.getD 13 accessed.root

def name : Node := accessed.root.preorder.getD 14 accessed.root

/-- The access by `.valueOf` around the site. -/
def access : Frame := ⟨.property false (.node name), [], []⟩

def context : Context := [access, ⟨.call false none [0], [], []⟩]

/-- What the site is read as. -/
def call : Expr :=
  .build (.call false none [0, 1, 0])
    [.operand (.node callee), .operand (.node optionalCall), .operand (.node argument)]

theorem surrounds : Node.Surrounds site context whole := by
  have hmember : member.construct? = some (.property false (.node name), [] ++ site :: []) := rfl
  have hwhole : whole.construct? = some (.call false none [0], [] ++ member :: []) := rfl
  exact .inside (.inside .here hmember .nil .nil) hwhole .nil .nil

theorem reads : Node.Reads site call := by
  have hsite : site.construct? =
      some (.call false none [0, 1, 0], [callee, optionalCall, argument]) := rfl
  exact .construct hsite (.cons (.operand _) (.cons (.operand _) (.cons (.operand _) .nil)))

theorem grammatical : (context.plug call).Grammatical := by decide +kernel

/-- A fragment that is weaker than an access. -/
def fallback : Fragment :=
  .binary (.call (.property (.node optionalCall) true "some") [.node argument]) .coalesce
    (.literal (.boolean false))

end Sample

/-- A fragment in parentheses takes the place of a call that is accessed. -/
theorem print_replaces_sample :
    Sample.fallback.print Sample.site = .ok "(f?.(x)?.some(g) ?? false)" ∧
      ∃ whole : Expr, whole.Grammatical ∧
        whole.tokens = Sample.context.opening ++
          ((Sample.fallback.layout (.ofSite Sample.site)).tokens ++ Sample.context.closing) ∧
        whole.bare = (Sample.context.plug Sample.fallback.toExpr).bare := by
  have hprint : Sample.fallback.print Sample.site = .ok "(f?.(x)?.some(g) ?? false)" := by
    decide +kernel
  obtain ⟨-, -, -, -, hreplaces, -⟩ :=
    print_replaces rfl Sample.surrounds Sample.reads Sample.grammatical hprint
  obtain ⟨whole, hwhole, htokens, hbare, -⟩ := hreplaces nofun
  exact ⟨hprint, whole, hwhole, htokens, hbare⟩

namespace Sample

/-- A tagged template, from a member of which `new` creates. -/
def created : SourceFile where
  load := 0
  path := ⟨"a.ts"⟩
  text := "new t`x`.b(y);"
  dialect := .typeScript
  tree := branch "program" 0 14 []
    [branch "expression_statement" 0 14 []
      [branch "new_expression" 0 13 []
        [leaf "new" false 0 3 [],
          branch "member_expression" 4 10 ["constructor"]
            [branch "call_expression" 4 8 ["object"]
              [leaf "identifier" true 4 5 ["function"],
                branch "template_string" 5 8 ["arguments"]
                  [leaf "`" false 5 6 [], leaf "string_fragment" true 6 7 [],
                    leaf "`" false 7 8 []]],
              leaf "." false 8 9 [], leaf "property_identifier" true 9 10 ["property"]],
          branch "arguments" 10 13 ["arguments"]
            [leaf "(" false 10 11 [], leaf "identifier" true 11 12 [], leaf ")" false 12 13 []]],
        leaf ";" false 13 14 []]]

def creation : Node := created.root.preorder.getD 2 created.root

def created.member : Node := created.root.preorder.getD 3 created.root

/-- The template, with its tag. -/
def template : Node := created.root.preorder.getD 4 created.root

def part : Node := created.root.preorder.getD 8 created.root

def input : Node := created.root.preorder.getD 10 created.root

def created.context : Context :=
  [⟨.property false (.node part), [], []⟩,
    ⟨.creation none (some [0, 0]), [], [.operand (.node input)]⟩]

/-- A call, which `new` takes the arguments of. -/
def made : Fragment := .call (.identifier "g") []

/-- What `new g().b(y)` is read as. -/
def misread : Expr :=
  .build (.call false none [0, 0])
    [.build (.property false (.node part))
      [.build (.creation none (some [0])) [.operand (.identifier "g")]],
      .operand (.node input)]

theorem created.surrounds : Node.Surrounds template created.context creation := by
  have hmember : created.member.construct? =
      some (.property false (.node part), [] ++ template :: []) := rfl
  have hcreation : creation.construct? =
      some (.creation none (some [0, 0]), [] ++ created.member :: [input]) := rfl
  exact .inside (.inside .here hmember .nil .nil) hcreation .nil (.cons (.operand _) .nil)

end Sample

/-- An optional call goes on into the access around its place, for its sign is not seen. And
`new` takes the arguments of a call that replaces a tagged template. -/
theorem print_misread_samples :
    (Node.Surrounds Sample.site Sample.context Sample.whole ∧
      (Fragment.node Sample.optionalCall).print Sample.site = .ok "f?.(x)" ∧
      Sample.context.head? = some Sample.access ∧ Sample.access.isPlainLink = true ∧
      (Sample.access.plug ((Fragment.node Sample.optionalCall).layout
        (.ofSite Sample.site))).InChain Node.isOptional) ∧
    (Node.Surrounds Sample.template Sample.created.context Sample.creation ∧
      (Sample.created.context.plug (.operand (.node Sample.template))).Grammatical ∧
      Sample.made.print Sample.template = .ok "g()" ∧
      Sample.misread.Grammatical ∧
      Sample.misread.tokens = Sample.created.context.opening ++
        ((Sample.made.layout (.ofSite Sample.template)).tokens ++
          Sample.created.context.closing) ∧
      Sample.misread.bare ≠ (Sample.created.context.plug Sample.made.toExpr).bare) := by
  refine ⟨⟨Sample.surrounds, by decide +kernel, rfl, rfl, ?_⟩,
    Sample.created.surrounds, by decide +kernel, by decide +kernel, by decide +kernel, rfl, nofun⟩
  have hslot : Slot.ofSite Sample.site = ⟨.member, none, true⟩ := by decide +kernel
  rw [Frame.inChain_plug rfl, hslot, inChain_layout]
  refine ⟨.link rfl, ?_⟩
  rw [← isOptionalChain_iff_inChain]
  decide +kernel

end Fragment

end CallMigration
