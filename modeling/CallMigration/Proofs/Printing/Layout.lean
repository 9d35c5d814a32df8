import CallMigration.Printing.Print
import CallMigration.Proofs.Printing.Unambiguous

/-!
# What a printed fragment says

The text of a fragment spells the tokens of an expression of the grammar. There is one such
expression, and without its parentheses it is the fragment.
-/

namespace CallMigration

/-! ## Spelling -/

/-- The text of an operand; a number that no literal denotes has none. -/
def Operand.spelling? : Operand → Option String
  | node n => some n.text
  | identifier name => some name
  | literal value => value.render.toOption

/-- The text of a token. A comma is followed by a blank, and a logical operator stands
between two. -/
def Token.spelling? : Token → Option String
  | operand o => o.spelling?
  | type n => some n.text
  | sign s =>
      some (if s = "," then ", " else if s ∈ ["??", "||", "&&"] then " " ++ s ++ " " else s)

/-- The text of tokens. -/
def spell? : List Token → Option String
  | [] => some ""
  | t :: ts => do
      let text ← t.spelling?
      let rest ← spell? ts
      pure (text ++ rest)

theorem spell?_append {ts us : List Token} {text rest : String} (hts : spell? ts = some text)
    (hus : spell? us = some rest) : spell? (ts ++ us) = some (text ++ rest) := by
  induction ts generalizing text with
  | nil =>
      cases hts
      simpa using hus
  | cons t ts ih =>
      simp only [spell?, Option.bind_eq_bind, Option.bind_eq_some_iff] at hts
      obtain ⟨first, hfirst, more, hmore, hpure⟩ := hts
      cases hpure
      simp [spell?, hfirst, ih hmore, String.append_assoc]

namespace Expr

/-- Put an expression in parentheses. -/
def enclose (needed : Bool) (e : Expr) : Expr := if needed then .build .paren [e] else e

theorem level_enclose (needed : Bool) (e : Expr) :
    (e.enclose needed).level = if needed then .primary else e.level := by
  cases needed <;> rfl

theorem bare_enclose (needed : Bool) (e : Expr) : (e.enclose needed).bare = e.bare := by
  cases needed with
  | false => rfl
  | true => exact bare_paren e

theorem tokens_enclose (needed : Bool) (e : Expr) :
    (e.enclose needed).tokens =
      if needed then .sign "(" :: (e.tokens ++ [.sign ")"]) else e.tokens := by
  cases needed with
  | false => rfl
  | true => simp [enclose, tokens_build, Shape.separators, interleave]

theorem Grammatical.enclose {e : Expr} (he : e.Grammatical) (needed : Bool) :
    (e.enclose needed).Grammatical := by
  cases needed with
  | false => exact he
  | true =>
      refine .build ⟨rfl, rfl, ?_⟩ (by simpa using he)
      intro part hpart
      obtain rfl : part = (e, 0) := by simpa using hpart
      exact ⟨Nat.zero_le _, List.not_mem_nil⟩

theorem spell?_enclose {e : Expr} {text : String} (he : spell? e.tokens = some text)
    (needed : Bool) :
    spell? (e.enclose needed).tokens = some (Fragment.parenthesize needed text) := by
  cases needed with
  | false => exact he
  | true =>
      have hclose : spell? [.sign ")"] = some ")" := by decide
      have hopen : spell? [.sign "("] = some "(" := by decide
      rw [tokens_enclose, if_pos rfl, Fragment.parenthesize, if_pos rfl, String.append_assoc]
      exact spell?_append hopen (spell?_append he hclose)

end Expr

namespace Fragment

/-! ## Fragments as expressions -/

/-- The numbers of commas after the arguments of a call. -/
def gapsAfter : Nat → List Nat
  | 0 => []
  | count + 1 => List.replicate count 1 ++ [0]

/-- The shape of a call with a number of arguments. -/
def callShape (count : Nat) : Shape := .call false none (0 :: gapsAfter count)

mutual

/-- The fragment as an expression, without parentheses. -/
def toExpr : Fragment → Expr
  | node n => .operand (.node n)
  | identifier name => .operand (.identifier name)
  | literal value => .operand (.literal value)
  | property object optional name =>
      .build (.property optional (.identifier name)) [object.toExpr]
  | call callee arguments =>
      .build (callShape arguments.length) (callee.toExpr :: toExprAll arguments)
  | binary left op right => .build (.binary op.token) [left.toExpr, right.toExpr]

def toExprAll : List Fragment → List Expr
  | [] => []
  | f :: fs => f.toExpr :: toExprAll fs

end

mutual

/-- The fragment as it is written, the parentheses around the whole apart. -/
def body : Fragment → Expr
  | node n => .operand (.node n)
  | identifier name => .operand (.identifier name)
  | literal value => .operand (.literal value)
  | property object optional name =>
      let slot : Slot := if object.isInteger then .any else .atLeast .member
      .build (.property optional (.identifier name))
        [(object.body.enclose (slot.needsParens object)).enclose object.isInteger]
  | call callee arguments =>
      .build (callShape arguments.length)
        (callee.body.enclose ((Slot.atLeast .member).needsParens callee) :: bodyAll arguments)
  | binary left op right =>
      .build (.binary op.token)
        [left.body.enclose ((Slot.operand op.precedence (some op.token)).needsParens left),
          right.body.enclose ((Slot.operand op.precedence.next (some op.token)).needsParens right)]

def bodyAll : List Fragment → List Expr
  | [] => []
  | f :: fs => f.body.enclose (Slot.any.needsParens f) :: bodyAll fs

end

/-- The fragment as it is written in a place. -/
def layout (slot : Slot) (f : Fragment) : Expr := f.body.enclose (slot.needsParens f)

theorem toExprAll_eq_map (fs : List Fragment) : toExprAll fs = fs.map toExpr := by
  induction fs with
  | nil => rfl
  | cons f fs ih => rw [toExprAll, ih, List.map_cons]

theorem bodyAll_eq_map (fs : List Fragment) : bodyAll fs = fs.map (layout .any) := by
  induction fs with
  | nil => rfl
  | cons f fs ih => rw [bodyAll, ih, List.map_cons, layout]

/-- Induction over fragments, with all arguments of a call at hand. -/
@[elab_as_elim]
theorem induction {motive : Fragment → Prop} (node : ∀ n, motive (node n))
    (identifier : ∀ name, motive (identifier name)) (literal : ∀ value, motive (literal value))
    (property : ∀ object optional name, motive object → motive (property object optional name))
    (call : ∀ callee arguments, motive callee → (∀ f ∈ arguments, motive f) →
      motive (call callee arguments))
    (binary : ∀ left op right, motive left → motive right → motive (binary left op right))
    (f : Fragment) : motive f :=
  match f with
  | .node n => node n
  | .identifier name => identifier name
  | .literal value => literal value
  | .property object optional name =>
      property object optional name
        (induction node identifier literal property call binary object)
  | .call callee arguments =>
      call callee arguments (induction node identifier literal property call binary callee)
        fun f _ => induction node identifier literal property call binary f
  | .binary left op right =>
      binary left op right (induction node identifier literal property call binary left)
        (induction node identifier literal property call binary right)

/-! ## Levels -/

theorem level_binary (op : LogicalOperator) : (Shape.binary op.token).level = op.precedence := by
  cases op <;> decide

theorem level_body (f : Fragment) : f.body.level = f.precedence := by
  cases f with
  | binary left op right => exact level_binary op
  | _ => rfl

theorem level_layout (slot : Slot) (f : Fragment) :
    (f.layout slot).level = if slot.needsParens f then .primary else f.precedence := by
  rw [layout, Expr.level_enclose, level_body]

/-- Only a binary operator can make its operand need parentheses for the operator there. -/
theorem needsParens_of_operator_none {slot : Slot} (hslot : slot.operator = none) (f : Fragment) :
    slot.needsParens f =
      (decide (f.precedence < slot.least) || (slot.endsChain && f.isOptionalChain)) := by
  have hmixes : Slot.mixesCoalesce f.operator? none = false := by
    unfold Slot.mixesCoalesce
    split <;> simp_all
  rw [Slot.needsParens, hslot, hmixes, Bool.or_false]

/-- What is written in a place is strong enough for it. -/
theorem least_le_level_layout (slot : Slot) (f : Fragment) :
    slot.least ≤ (f.layout slot).level := by
  rw [level_layout]
  split
  · cases slot.least <;> decide
  next hplain =>
    simp only [Slot.needsParens, Bool.or_eq_true, decide_eq_true_eq, not_or] at hplain
    exact Nat.not_lt.mp hplain.1.1

theorem mixesCoalesce_of_ofOperator {op : String}
    (hop : Precedence.ofOperator op ∈ [.disjunction, .conjunction]) :
    Slot.mixesCoalesce (some op) (some "??") = true := by
  unfold Precedence.ofOperator at hop
  split at hop
  next => simp at hop
  next => rfl
  next => rfl
  all_goals simp at hop

theorem mixesCoalesce_of_ofNode {n : Node}
    (hn : Precedence.ofNode n ∈ [.disjunction, .conjunction]) :
    Slot.mixesCoalesce (node n).operator? (some "??") = true := by
  by_cases hkind : n.kind = "binary_expression"
  · simp only [Precedence.ofNode, hkind] at hn
    cases hop : n.field? "operator" with
    | none => simp [hop] at hn
    | some op =>
        simp only [hop, Option.map_some, Option.getD_some] at hn
        simpa [operator?, hkind, hop] using mixesCoalesce_of_ofOperator hn
  · -- No other kind of node has one of the two levels.
    exfalso
    revert hn
    unfold Precedence.ofNode
    split <;> try split
    all_goals simp_all

/-- `||` and `&&` are seen by the test for mixed operators. -/
theorem mixesCoalesce_of_precedence {f : Fragment}
    (hf : f.precedence ∈ [.disjunction, .conjunction]) :
    Slot.mixesCoalesce f.operator? (some "??") = true := by
  cases f with
  | node n => exact mixesCoalesce_of_ofNode hf
  | binary left op right => exact mixesCoalesce_of_ofOperator hf
  | literal value =>
      rw [precedence] at hf
      split at hf <;> simp at hf
  | _ => simp [precedence] at hf

/-- What is written as an operand of `??` is not `||` or `&&`. -/
theorem level_layout_not_mixed {slot : Slot} (hslot : slot.operator = some "??") (f : Fragment) :
    (f.layout slot).level ∉ [.disjunction, .conjunction] := by
  rw [level_layout]
  split
  · decide
  next hplain =>
    intro hmem
    have hmixes := mixesCoalesce_of_precedence hmem
    simp [Slot.needsParens, hslot, hmixes] at hplain

/-- Between `??` and the level of its right operand there are only `||` and `&&`. -/
theorem bitOr_le_of_not_mixed {p : Precedence} (hp : .disjunction ≤ p)
    (hmixed : p ∉ [.disjunction, .conjunction]) : .bitOr ≤ p := by
  revert hp hmixed
  cases p <;> decide

/-! ## The written expression -/

theorem length_separators_callShape (count : Nat) :
    (callShape count).separators.length = count + 2 := by
  cases count <;> simp [callShape, Shape.separators, Shape.length_listSeparators, gapsAfter]

theorem isKnown_callShape (count : Nat) : (callShape count).isKnown = true := by
  cases count with
  | zero => decide
  | succ count =>
      have hlast : (0 :: (List.replicate count 1 ++ [0])).getLast? = some 0 := by
        rw [← List.cons_append, List.getLast?_concat]
      simp [callShape, Shape.isKnown, gapsAfter, hlast]

theorem fits_property {e : Expr} (he : .member ≤ e.level) (optional : Bool) (name : String) :
    (Shape.property optional (.identifier name)).Fits [e] := by
  refine .of_getElem rfl rfl ?_
  rintro (_ | i) e' he'
  · cases he'
    exact ⟨he, List.not_mem_nil⟩
  · cases he'

theorem fits_callShape {e : Expr} (he : .member ≤ e.level) {items : List Expr}
    (hitems : ∀ item ∈ items, .assignment ≤ item.level) :
    (callShape items.length).Fits (e :: items) := by
  refine .of_getElem (isKnown_callShape _) (length_separators_callShape _) ?_
  rintro (_ | i) e' he'
  · cases he'
    exact ⟨he, List.not_mem_nil⟩
  · exact ⟨hitems e' (List.mem_of_getElem? he'), List.not_mem_nil⟩

/-- The operands of a logical operator are as strong as the grammar asks, and the operands
of `??` are not mixed with it. -/
theorem fits_binary (left right : Fragment) (op : LogicalOperator) :
    (Shape.binary op.token).Fits
      [left.layout (.operand op.precedence (some op.token)),
        right.layout (.operand op.precedence.next (some op.token))] := by
  refine .of_getElem (by cases op <;> decide) rfl ?_
  have hleft := least_le_level_layout (.operand op.precedence (some op.token)) left
  have hright := least_le_level_layout (.operand op.precedence.next (some op.token)) right
  rintro (_ | _ | i) e he <;> cases he
  · cases op with
    | coalesce => exact ⟨hleft, level_layout_not_mixed rfl left⟩
    | disjunction => exact ⟨hleft, List.not_mem_nil⟩
    | conjunction => exact ⟨hleft, List.not_mem_nil⟩
  · cases op with
    | coalesce =>
        -- The slot asks for less than the grammar, by the two levels that `??` rules out.
        refine ⟨bitOr_le_of_not_mixed hright ?_, ?_⟩ <;> exact level_layout_not_mixed rfl right
    | disjunction => exact ⟨hright, List.not_mem_nil⟩
    | conjunction => exact ⟨hright, List.not_mem_nil⟩

/-- A fragment is written as an expression of the grammar. -/
theorem grammatical_body (f : Fragment) : f.body.Grammatical := by
  induction f using Fragment.induction with
  | node n => exact .operand _
  | identifier name => exact .operand _
  | literal value => exact .operand _
  | property object optional name ih =>
      rw [body]
      refine .build (fits_property ?_ optional name) (by simpa using (ih.enclose _).enclose _)
      -- An integer is always in parentheses, so its own level does not matter.
      cases hinteger : object.isInteger with
      | false => exact least_le_level_layout (.atLeast .member) object
      | true => exact (by decide : Precedence.member ≤ .primary)
  | call callee arguments ihcallee iharguments =>
      have hitems : ∀ item ∈ arguments.map (layout .any), .assignment ≤ item.level := by
        intro item hitem
        obtain ⟨f, -, rfl⟩ := List.mem_map.mp hitem
        exact least_le_level_layout .any f
      have hfits := fits_callShape (least_le_level_layout (.atLeast .member) callee) hitems
      rw [List.length_map] at hfits
      rw [body, bodyAll_eq_map]
      refine .build hfits ?_
      intro e he
      rcases List.mem_cons.mp he with rfl | he
      · exact ihcallee.enclose _
      · obtain ⟨f, hf, rfl⟩ := List.mem_map.mp he
        exact (iharguments f hf).enclose _
  | binary left op right ihleft ihright =>
      refine .build (fits_binary left right op) ?_
      intro e he
      simp only [List.mem_cons, List.not_mem_nil, or_false] at he
      obtain rfl | rfl := he
      · exact ihleft.enclose _
      · exact ihright.enclose _

/-- Without its parentheses a written fragment is the fragment. -/
theorem bare_body (f : Fragment) : f.body.bare = f.toExpr := by
  induction f using Fragment.induction with
  | node n => rfl
  | identifier name => rfl
  | literal value => rfl
  | property object optional name ih =>
      rw [body, Expr.bare_build (Or.inl (by simp)), toExpr]
      simp [Expr.bare_enclose, ih]
  | call callee arguments ihcallee iharguments =>
      rw [body, callShape, Expr.bare_build (Or.inl (by simp)), toExpr, bodyAll_eq_map,
        toExprAll_eq_map]
      simpa [layout, Expr.bare_enclose, ihcallee, callShape] using iharguments
  | binary left op right ihleft ihright =>
      rw [body, Expr.bare_build (Or.inl (by simp)), toExpr]
      simp [Expr.bare_enclose, ihleft, ihright]

theorem bare_toExpr (f : Fragment) : f.toExpr.bare = f.toExpr := by
  induction f using Fragment.induction with
  | node n => rfl
  | identifier name => rfl
  | literal value => rfl
  | property object optional name ih =>
      rw [toExpr, Expr.bare_build (Or.inl (by simp))]
      simp [ih]
  | call callee arguments ihcallee iharguments =>
      rw [toExpr, callShape, Expr.bare_build (Or.inl (by simp)), toExprAll_eq_map]
      simpa [ihcallee] using iharguments
  | binary left op right ihleft ihright =>
      rw [toExpr, Expr.bare_build (Or.inl (by simp))]
      simp [ihleft, ihright]

theorem grammatical_layout (slot : Slot) (f : Fragment) : (f.layout slot).Grammatical :=
  f.grammatical_body.enclose _

theorem bare_layout (slot : Slot) (f : Fragment) : (f.layout slot).bare = f.toExpr := by
  rw [layout, Expr.bare_enclose, bare_body]

/-! ## The written tokens -/

theorem interleave_arguments (items : List (List Token)) (gap : Nat) :
    interleave (Shape.listSeparators [] ")" (gap :: gapsAfter items.length)) items =
      Shape.commas gap ++ ([Token.sign ","].intercalate items ++ [.sign ")"]) := by
  induction items generalizing gap with
  | nil => simp [gapsAfter, Shape.listSeparators, interleave]
  | cons ts rest ih =>
      cases rest with
      | nil => simp [gapsAfter, Shape.listSeparators, interleave, Shape.commas]
      | cons us rest =>
          have hgaps : gapsAfter (ts :: us :: rest).length =
              1 :: gapsAfter (us :: rest).length := rfl
          rw [hgaps, Shape.listSeparators, interleave, ih 1, List.intercalate_cons_cons]
          · simp [Shape.commas]
          · exact List.cons_ne_nil _ _

theorem tokens_property (object : Fragment) (optional : Bool) (name : String) :
    (property object optional name).body.tokens =
      ((object.layout (if object.isInteger then .any else .atLeast .member)).enclose
          object.isInteger).tokens ++
        [.sign (if optional then "?." else "."), .operand (.identifier name)] := by
  simp [body, Expr.tokens_build, Shape.separators, interleave, layout]

theorem tokens_callShape (e : Expr) (items : List Expr) :
    (Expr.build (callShape items.length) (e :: items)).tokens =
      e.tokens ++ .sign "(" ::
        ([Token.sign ","].intercalate (items.map Expr.tokens) ++ [.sign ")"]) := by
  have harguments := interleave_arguments (items.map Expr.tokens) 0
  rw [List.length_map] at harguments
  rw [Expr.tokens_build, callShape, Shape.separators, List.map_cons, interleave,
    interleave_listSeparators _ _ (List.cons_ne_nil _ _)]
  simpa [Shape.optionalSign, Shape.typeTokens, Shape.commas] using harguments

theorem tokens_call (callee : Fragment) (arguments : List Fragment) :
    (call callee arguments).body.tokens =
      (callee.layout (.atLeast .member)).tokens ++ .sign "(" ::
        ([Token.sign ","].intercalate (arguments.map fun f => (f.layout .any).tokens) ++
          [.sign ")"]) := by
  have htokens := tokens_callShape (callee.layout (.atLeast .member)) (arguments.map (layout .any))
  rw [List.length_map, List.map_map] at htokens
  rw [body, bodyAll_eq_map]
  exact htokens

theorem tokens_binary (left right : Fragment) (op : LogicalOperator) :
    (binary left op right).body.tokens =
      (left.layout (.operand op.precedence (some op.token))).tokens ++ .sign op.token ::
        (right.layout (.operand op.precedence.next (some op.token))).tokens := by
  simp [body, Expr.tokens_build, Shape.separators, interleave, layout]

/-! ## The written text -/

theorem bind_eq_ok {ε α β : Type} {x : Except ε α} {f : α → Except ε β} {b : β}
    (hbind : x >>= f = .ok b) : ∃ a, x = .ok a ∧ f a = .ok b := by
  cases x with
  | error error => cases hbind
  | ok a => exact ⟨a, rfl, hbind⟩

theorem forall₂_of_renderAllIn {file : SourceFile} {fs : List Fragment} {texts : List String}
    (hspell : ∀ f ∈ fs, ∀ text, renderIn file .any f = .ok text →
      spell? (f.layout .any).tokens = some text)
    (hok : renderAllIn file fs = .ok texts) :
    List.Forall₂ (fun ts text => spell? ts = some text)
      (fs.map fun f => (f.layout .any).tokens) texts := by
  induction fs generalizing texts with
  | nil =>
      cases hok
      exact .nil
  | cons f fs ih =>
      rw [renderAllIn] at hok
      obtain ⟨text, htext, hok⟩ := bind_eq_ok hok
      obtain ⟨rest, hrest, hok⟩ := bind_eq_ok hok
      cases hok
      exact .cons (hspell f List.mem_cons_self text htext)
        (ih (fun g hg => hspell g (List.mem_cons_of_mem f hg)) hrest)

/-- Arguments are spelled with a comma and a blank between them. -/
theorem spell?_intercalate {items : List (List Token)} {texts : List String}
    (hitems : List.Forall₂ (fun ts text => spell? ts = some text) items texts) :
    spell? ([Token.sign ","].intercalate items) = some (", ".intercalate texts) := by
  induction hitems with
  | nil => rfl
  | @cons ts text items texts hts hitems ih =>
      cases hitems with
      | nil => simpa using hts
      | cons =>
          have hcomma : spell? [.sign ","] = some ", " := by decide
          rw [List.intercalate_cons_cons, String.intercalate_cons_cons]
          exact spell?_append (spell?_append hts hcomma) ih

theorem spell?_operand {o : Operand} {text : String} (ho : o.spelling? = some text) :
    spell? (Expr.operand o).tokens = some text := by
  simp [Expr.tokens, spell?, Token.spelling?, ho]

/-- The text of a fragment spells what is written. -/
theorem spell?_layout {file : SourceFile} {slot : Slot} {f : Fragment} {text : String}
    (hok : renderIn file slot f = .ok text) : spell? (f.layout slot).tokens = some text := by
  induction f using Fragment.induction generalizing slot text with
  | node n =>
      rw [renderIn] at hok
      obtain ⟨base, hbase, hok⟩ := bind_eq_ok hok
      cases hok
      apply Expr.spell?_enclose
      apply spell?_operand
      unfold embeddedText at hbase
      split at hbase <;> cases hbase
      rfl
  | identifier name =>
      rw [renderIn] at hok
      obtain ⟨base, hbase, hok⟩ := bind_eq_ok hok
      cases hok
      apply Expr.spell?_enclose
      apply spell?_operand
      unfold checkedName at hbase
      split at hbase <;> cases hbase
      rfl
  | literal value =>
      rw [renderIn] at hok
      obtain ⟨base, hbase, hok⟩ := bind_eq_ok hok
      cases hok
      apply Expr.spell?_enclose
      apply spell?_operand
      rw [Operand.spelling?, hbase]
      rfl
  | property object optional name ih =>
      rw [renderIn] at hok
      obtain ⟨-, hname, hok⟩ := bind_eq_ok hok
      obtain ⟨base, hbase, hok⟩ := bind_eq_ok hok
      cases hok
      apply Expr.spell?_enclose
      have hobject := Expr.spell?_enclose (ih hbase) object.isInteger
      have hlink : spell? [.sign (if optional then "?." else "."), .operand (.identifier name)] =
          some ((if optional then "?." else ".") ++ name) := by
        cases optional <;> simp [spell?, Token.spelling?, Operand.spelling?]
      rw [tokens_property, String.append_assoc]
      exact spell?_append hobject hlink
  | call callee arguments ihcallee iharguments =>
      rw [renderIn] at hok
      obtain ⟨base, hbase, hok⟩ := bind_eq_ok hok
      obtain ⟨texts, htexts, hok⟩ := bind_eq_ok hok
      cases hok
      apply Expr.spell?_enclose
      have hitems := forall₂_of_renderAllIn (fun f hf _ => iharguments f hf) htexts
      have hopen : spell? [.sign "("] = some "(" := by decide
      have hclose : spell? [.sign ")"] = some ")" := by decide
      rw [tokens_call, String.append_assoc, String.append_assoc]
      exact spell?_append (ihcallee hbase)
        (spell?_append hopen (spell?_append (spell?_intercalate hitems) hclose))
  | binary left op right ihleft ihright =>
      rw [renderIn] at hok
      obtain ⟨first, hfirst, hok⟩ := bind_eq_ok hok
      obtain ⟨second, hsecond, hok⟩ := bind_eq_ok hok
      cases hok
      apply Expr.spell?_enclose
      have hop : spell? [.sign op.token] = some (" " ++ op.token ++ " ") := by
        cases op <;> decide
      have hall := spell?_append (ihleft hfirst) (spell?_append hop (ihright hsecond))
      rw [tokens_binary]
      simpa [String.append_assoc] using hall

/-! ## The one reading -/

theorem map_toExpr_injective {fs gs : List Fragment}
    (hinjective : ∀ f ∈ fs, ∀ {g : Fragment}, f.toExpr = g.toExpr → f = g)
    (heq : fs.map toExpr = gs.map toExpr) : fs = gs := by
  induction fs generalizing gs with
  | nil => simpa using heq.symm
  | cons f fs ih =>
      cases gs with
      | nil => simp at heq
      | cons g gs =>
          obtain ⟨hhead, htail⟩ := List.cons.inj heq
          rw [hinjective f List.mem_cons_self hhead,
            ih (fun h hh => hinjective h (List.mem_cons_of_mem f hh)) htail]

/-- Different fragments are different expressions. -/
theorem toExpr_injective {f g : Fragment} (heq : f.toExpr = g.toExpr) : f = g := by
  induction f using Fragment.induction generalizing g with
  | node n => cases g <;> simp_all [toExpr]
  | identifier name => cases g <;> simp_all [toExpr]
  | literal value => cases g <;> simp_all [toExpr]
  | property object optional name ih =>
      cases g with
      | property object' optional' name' =>
          simp only [toExpr, Expr.build.injEq, Shape.property.injEq, Operand.identifier.injEq,
            List.cons.injEq, and_true] at heq
          obtain ⟨⟨rfl, rfl⟩, hobject⟩ := heq
          rw [ih hobject]
      | _ => simp [toExpr, callShape] at heq
  | call callee arguments ihcallee iharguments =>
      cases g with
      | call callee' arguments' =>
          simp only [toExpr, toExprAll_eq_map, Expr.build.injEq, List.cons.injEq] at heq
          obtain ⟨-, hcallee, harguments⟩ := heq
          rw [ihcallee hcallee, map_toExpr_injective iharguments harguments]
      | _ => simp [toExpr, callShape] at heq
  | binary left op right ihleft ihright =>
      cases g with
      | binary left' op' right' =>
          simp only [toExpr, Expr.build.injEq, Shape.binary.injEq, List.cons.injEq, and_true] at heq
          obtain ⟨hop, hleft, hright⟩ := heq
          have hop' : op = op' := by revert hop; cases op <;> cases op' <;> decide
          rw [hop', ihleft hleft, ihright hright]
      | _ => simp [toExpr, callShape] at heq

/-- The text of a fragment spells the tokens of an expression of the grammar. No other
expression has these tokens, and without its parentheses it is the fragment and no other. -/
theorem print_reading {f : Fragment} {site : Node} {text : String}
    (hprint : f.print site = .ok text) :
    let e := f.layout (.ofSite site)
    spell? e.tokens = some text ∧ e.Grammatical ∧
      (∀ e' : Expr, e'.Grammatical → e'.tokens = e.tokens → e' = e) ∧
      e.bare = f.toExpr ∧ ∀ g : Fragment, e.bare = g.toExpr → g = f := by
  intro e
  have hgrammatical : e.Grammatical := f.grammatical_layout _
  have hbare : e.bare = f.toExpr := f.bare_layout _
  refine ⟨spell?_layout hprint, hgrammatical, ?_, hbare, ?_⟩
  · intro e' he' htokens
    exact he'.eq_of_tokens_eq hgrammatical htokens
  · intro g hg
    exact toExpr_injective (hg.symm.trans hbare)

namespace Sample

def leaf (kind : String) (named : Bool) (start stop : Nat) (fields : List String) : Tree :=
  .node ⟨kind, named, false, ⟨start, stop⟩, fields⟩ []

def branch (kind : String) (start stop : Nat) (fields : List String) (children : List Tree) :
    Tree :=
  .node ⟨kind, true, false, ⟨start, stop⟩, fields⟩ children

def file : SourceFile where
  load := 0
  path := ⟨"a.ts"⟩
  text := "a || b;"
  dialect := .typeScript
  tree := branch "program" 0 7 []
    [branch "expression_statement" 0 7 []
      [branch "binary_expression" 0 6 []
        [leaf "identifier" true 0 1 ["left"], leaf "||" false 2 4 ["operator"],
          leaf "identifier" true 5 6 ["right"]],
        leaf ";" false 6 7 []]]

/-- The node `a || b`. -/
def disjunction : Node := file.root.preorder.getD 2 file.root

/-- Operands that need parentheses for their level, for the operator they meet and for
their sign, around one that needs none. -/
def fragment : Fragment :=
  .binary (.node disjunction) .coalesce
    (.binary (.call (.property (.literal (.integer (-1))) true "f")
        [.binary (.identifier "x") .disjunction (.identifier "y"), .identifier "z"])
      .coalesce (.literal (.boolean false)))

end Sample

/-- A fragment whose text has parentheses of every origin. -/
theorem print_reading_sample :
    Sample.fragment.print Sample.disjunction =
        .ok "(a || b) ?? ((-1)?.f(x || y, z) ?? false)" ∧
      ∀ e' : Expr, e'.Grammatical →
        e'.tokens = (Sample.fragment.layout (.ofSite Sample.disjunction)).tokens →
        e'.bare = Sample.fragment.toExpr := by
  have hprint : Sample.fragment.print Sample.disjunction =
      .ok "(a || b) ?? ((-1)?.f(x || y, z) ?? false)" := by decide +kernel
  obtain ⟨-, -, hunique, hbare, -⟩ := print_reading hprint
  refine ⟨hprint, ?_⟩
  intro e' he' htokens
  rw [hunique e' he' htokens, hbare]

end Fragment

end CallMigration
