import CallMigration.Proofs.Printing.Balance
import CallMigration.Proofs.Printing.Parts
import Mathlib.Data.List.Forall2

/-!
# Parentheses that are needed

Inside a written fragment every pair of parentheses is there for the grammar, but for the pair
around an integer that is accessed. Without the pair the tokens are those of no expression, or of
one that is another fragment: what is left in the place of the pair is not taken there, and no
other way to put parentheses into the fragment has the same tokens.
-/

namespace CallMigration

namespace Expr

/-! ## Parentheses around the whole -/

/-- Induction on the parentheses around an expression. -/
@[elab_as_elim]
theorem induction_enclosed {motive : Expr → Prop} (unenclosed : ∀ e, e.Unenclosed → motive e)
    (paren : ∀ e, motive e → motive (build .paren [e])) (e : Expr) : motive e := by
  by_cases henclosed : ∃ inner, e = build .paren [inner]
  · obtain ⟨inner, rfl⟩ := henclosed
    exact paren inner (induction_enclosed unenclosed paren inner)
  · exact unenclosed e (not_exists.mp henclosed)

theorem Unenclosed.plain {shape : Shape} {parts : List Expr}
    (he : (build shape parts).Unenclosed) : shape ≠ .paren ∨ parts.length ≠ 1 := by
  by_contra hnot
  simp only [not_or, not_not] at hnot
  obtain ⟨rfl, hlength⟩ := hnot
  obtain ⟨inner, rfl⟩ := List.length_eq_one_iff.mp hlength
  exact he inner rfl

theorem Unenclosed.eq_operand {e : Expr} (he : e.Unenclosed) {o : Operand}
    (hbare : e.bare = operand o) : e = operand o := by
  cases e with
  | operand o' => exact hbare
  | build shape parts =>
      rw [bare_build he.plain] at hbare
      cases hbare

theorem Unenclosed.exists_parts {e : Expr} (he : e.Unenclosed) {shape : Shape}
    {parts : List Expr} (hbare : e.bare = build shape parts) :
    ∃ parts', e = build shape parts' ∧ parts'.map bare = parts := by
  cases e with
  | operand o => cases hbare
  | build shape' parts' =>
      rw [bare_build he.plain] at hbare
      cases hbare
      exact ⟨parts', rfl, rfl⟩

/-! ## A fragment with parentheses -/

/-- The expression is the fragment, with parentheses around any of its parts. -/
def Writes (e : Expr) (f : Fragment) : Prop := e.bare = f.toExpr

namespace Unenclosed

variable {e : Expr} (he : e.Unenclosed)
include he

theorem writes_property {object : Fragment} {optional : Bool} {name : String}
    (hwrites : e.Writes (.property object optional name)) :
    ∃ o, e = build (.property optional (.identifier name)) [o] ∧ o.Writes object := by
  obtain ⟨parts, rfl, hparts⟩ := he.exists_parts hwrites
  obtain ⟨o, rest, rfl, ho, hrest⟩ := List.map_eq_cons_iff.mp hparts
  obtain rfl := List.map_eq_nil_iff.mp hrest
  exact ⟨o, rfl, ho⟩

theorem writes_call {callee : Fragment} {arguments : List Fragment}
    (hwrites : e.Writes (.call callee arguments)) :
    ∃ c items, e = build (Fragment.callShape items.length) (c :: items) ∧ c.Writes callee ∧
      List.Forall₂ Writes items arguments := by
  obtain ⟨parts, rfl, hparts⟩ := he.exists_parts hwrites
  obtain ⟨c, items, rfl, hc, hitems⟩ := List.map_eq_cons_iff.mp hparts
  rw [Fragment.toExprAll_eq_map] at hitems
  have hlength : items.length = arguments.length := by simpa using congrArg List.length hitems
  refine ⟨c, items, by rw [hlength], hc, ?_⟩
  rwa [← List.forall₂_eq_eq_eq, List.forall₂_map_left_iff, List.forall₂_map_right_iff] at hitems

theorem writes_binary {left right : Fragment} {op : LogicalOperator}
    (hwrites : e.Writes (.binary left op right)) :
    ∃ l r, e = build (.binary op.token) [l, r] ∧ l.Writes left ∧ r.Writes right := by
  obtain ⟨parts, rfl, hparts⟩ := he.exists_parts hwrites
  obtain ⟨l, rest, rfl, hl, hrest⟩ := List.map_eq_cons_iff.mp hparts
  obtain ⟨r, rest, rfl, hr, hrest⟩ := List.map_eq_cons_iff.mp hrest
  obtain rfl := List.map_eq_nil_iff.mp hrest
  exact ⟨l, r, rfl, hl, hr⟩

end Unenclosed

/-- Induction on the ways to put parentheses into a fragment. -/
@[elab_as_elim]
theorem Writes.induction {motive : Expr → Fragment → Prop}
    (paren : ∀ e f, e.Writes f → motive e f → motive (build .paren [e]) f)
    (operand : ∀ o f, (Expr.operand o).Writes f → motive (.operand o) f)
    (property : ∀ e object optional name,
      (build (.property optional (.identifier name)) [e]).Writes (.property object optional name) →
      motive e object →
      motive (build (.property optional (.identifier name)) [e]) (.property object optional name))
    (call : ∀ e items callee arguments,
      (build (Fragment.callShape items.length) (e :: items)).Writes (.call callee arguments) →
      List.Forall₂ Writes items arguments → motive e callee → List.Forall₂ motive items arguments →
      motive (build (Fragment.callShape items.length) (e :: items)) (.call callee arguments))
    (binary : ∀ l r left op right,
      (build (.binary op.token) [l, r]).Writes (.binary left op right) → l.Writes left →
      motive l left → motive r right →
      motive (build (.binary op.token) [l, r]) (.binary left op right))
    {e : Expr} {f : Fragment} (hwrites : e.Writes f) : motive e f := by
  -- The parentheses around the whole come first.
  have hall : ∀ {f : Fragment}, (∀ e : Expr, e.Unenclosed → e.Writes f → motive e f) →
      ∀ e : Expr, e.Writes f → motive e f := by
    intro f hplain e hwrites
    induction e using induction_enclosed with
    | unenclosed e he => exact hplain e he hwrites
    | paren e ih =>
        have hinner : e.Writes f := (bare_paren e).symm.trans hwrites
        exact paren e f hinner (ih hinner)
  have hoperand : ∀ {f : Fragment} {o : Operand}, f.toExpr = .operand o →
      ∀ e : Expr, e.Unenclosed → e.Writes f → motive e f := by
    intro f o hf e he hwrites
    obtain rfl := he.eq_operand (hwrites.trans hf)
    exact operand o f hwrites
  induction f using Fragment.induction generalizing e with
  | node n => exact hall (hoperand rfl) e hwrites
  | identifier name => exact hall (hoperand rfl) e hwrites
  | literal value => exact hall (hoperand rfl) e hwrites
  | property object optional name ihobject =>
      refine hall (fun e he hwrites => ?_) e hwrites
      obtain ⟨o, rfl, ho⟩ := he.writes_property hwrites
      exact property o object optional name hwrites (ihobject ho)
  | call callee arguments ihcallee iharguments =>
      refine hall (fun e he hwrites => ?_) e hwrites
      obtain ⟨c, items, rfl, hc, hitems⟩ := he.writes_call hwrites
      have hmotive : ∀ f ∈ arguments, ∀ e : Expr, e.Writes f → motive e f :=
        fun f hf _ => iharguments f hf
      have hboth := (List.forall₂_and_left arguments items).mpr ⟨hmotive, hitems.flip⟩
      exact call c items callee arguments hwrites hitems (ihcallee hc)
        (hboth.flip.imp fun e f h => h.1 e h.2)
  | binary left op right ihleft ihright =>
      refine hall (fun e he hwrites => ?_) e hwrites
      obtain ⟨l, r, rfl, hl, hr⟩ := he.writes_binary hwrites
      exact binary l r left op right hwrites hl (ihleft hl) (ihright hr)

/-! ## What the tokens tell -/

theorem tokens_property (e : Expr) (optional : Bool) (name : Operand) :
    (build (.property optional name) [e]).tokens =
      e.tokens ++ [.sign (if optional then "?." else "."), .operand name] := by
  simp [tokens_build, Shape.separators, interleave]

theorem tokens_binary (l r : Expr) (op : String) :
    (build (.binary op) [l, r]).tokens = l.tokens ++ .sign op :: r.tokens := by
  simp [tokens_build, Shape.separators, interleave]

theorem nesting_token (op : LogicalOperator) : (Token.sign op.token).nesting = 0 := by
  cases op <;> rfl

theorem nesting_link (optional : Bool) :
    (Token.sign (if optional then "?." else ".")).nesting = 0 := by
  cases optional <;> rfl

theorem forall_mem_of_forall₂ {p : List Token → Prop} {items : List Expr} {fs : List Fragment}
    (hitems : List.Forall₂ (fun e _ => p e.tokens) items fs) : ∀ ts ∈ items.map tokens, p ts := by
  induction hitems with
  | nil => simp
  | cons he _ ih => exact List.forall_mem_cons.mpr ⟨he, ih⟩

/-- The parentheses of a fragment match, wherever they are put. -/
theorem Writes.balanced {e : Expr} {f : Fragment} (hwrites : e.Writes f) : Balanced e.tokens := by
  refine Writes.induction ?paren ?operand ?property ?call ?binary hwrites
  case paren =>
    intro e f _ ih
    rw [tokens_paren]
    exact ih.enclose
  case operand => exact fun o f hf => .singleton rfl
  case property =>
    intro e object optional name _ ih
    rw [tokens_property]
    exact ih.append ((Balanced.singleton (nesting_link optional)).append (.singleton rfl))
  case call =>
    intro e items callee arguments _ _ ih ihitems
    rw [Fragment.tokens_callShape]
    exact ih.append (Balanced.intercalate (forall_mem_of_forall₂ ihitems)).enclose
  case binary =>
    intro l r left op right _ _ ihl ihr
    rw [tokens_binary]
    exact ihl.append ((Balanced.singleton (nesting_token op)).append ihr)

/-- Parentheses apart, there are as many tokens as in the fragment. -/
theorem Writes.weight_eq {e : Expr} {f : Fragment} (hwrites : e.Writes f) :
    weight e.tokens = weight f.toExpr.tokens := by
  refine Writes.induction ?paren ?operand ?property ?call ?binary hwrites
  case paren =>
    intro e f _ ih
    rw [tokens_paren, ← ih]
    simp
  case operand => exact fun o f hf => congrArg (fun e : Expr => weight e.tokens) hf
  case property =>
    intro e object optional name _ ih
    rw [Fragment.toExpr, tokens_property, tokens_property, weight_append, weight_append, ih]
  case call =>
    intro e items callee arguments _ _ ih ihitems
    have hlist : List.Forall₂ (fun ts us => weight ts = weight us) (items.map tokens)
        ((arguments.map Fragment.toExpr).map tokens) := by
      rw [List.map_map, List.forall₂_map_left_iff, List.forall₂_map_right_iff]
      exact ihitems
    have hcall := Fragment.tokens_callShape callee.toExpr (arguments.map Fragment.toExpr)
    rw [List.length_map] at hcall
    rw [Fragment.toExpr, Fragment.toExprAll_eq_map, hcall, Fragment.tokens_callShape]
    simp [ih, weight_intercalate hlist]
  case binary =>
    intro l r left op right _ _ ihl ihr
    rw [Fragment.toExpr, tokens_binary, tokens_binary]
    simp [ihl, ihr]

theorem Writes.tokens_ne_nil {e : Expr} {f : Fragment} (hwrites : e.Writes f) :
    e.tokens ≠ [] := by
  refine Writes.induction ?paren ?operand ?property ?call ?binary hwrites
  case paren => exact fun e f _ _ => tokens_paren e ▸ List.cons_ne_nil _ _
  case operand => exact fun o f _ => List.cons_ne_nil _ _
  case property => exact fun e object optional name _ _ => by simp [tokens_property]
  case call => exact fun e items callee arguments _ _ _ _ => by simp [Fragment.tokens_callShape]
  case binary => exact fun l r left op right _ _ _ _ => by simp [tokens_binary]

/-- Without parentheses around the whole an expression is one token, or is at depth zero again
after its first part. -/
theorem Unenclosed.exists_split {e : Expr} (he : e.Unenclosed) {f : Fragment}
    (hwrites : e.Writes f) :
    (∃ o, e = operand o) ∨
      ∃ ts us, e.tokens = ts ++ us ∧ ts ≠ [] ∧ us ≠ [] ∧ depth ts = 0 := by
  have hpart : ∀ {e : Expr} {g : Fragment}, e.Writes g → e.tokens ≠ [] ∧ depth e.tokens = 0 :=
    fun hwrites => ⟨hwrites.tokens_ne_nil, hwrites.balanced.depth_eq⟩
  cases f with
  | node n => exact .inl ⟨_, he.eq_operand hwrites⟩
  | identifier name => exact .inl ⟨_, he.eq_operand hwrites⟩
  | literal value => exact .inl ⟨_, he.eq_operand hwrites⟩
  | property object optional name =>
      obtain ⟨o, rfl, ho⟩ := he.writes_property hwrites
      exact .inr ⟨_, _, tokens_property _ _ _, (hpart ho).1, List.cons_ne_nil _ _, (hpart ho).2⟩
  | call callee arguments =>
      obtain ⟨c, items, rfl, hc, -⟩ := he.writes_call hwrites
      exact .inr ⟨_, _, Fragment.tokens_callShape _ _, (hpart hc).1, List.cons_ne_nil _ _,
        (hpart hc).2⟩
  | binary left op right =>
      obtain ⟨l, r, rfl, hl, -⟩ := he.writes_binary hwrites
      exact .inr ⟨_, _, tokens_binary _ _ _, (hpart hl).1, List.cons_ne_nil _ _, (hpart hl).2⟩

/-- Parentheses around the whole are seen in the tokens. -/
theorem Unenclosed.tokens_ne {e e' : Expr} (he : e.Unenclosed) {f : Fragment}
    (hwrites : e.Writes f) (hwrites' : e'.Writes f) : e.tokens ≠ (build .paren [e']).tokens := by
  rw [tokens_paren]
  intro htokens
  rcases he.exists_split hwrites with ⟨o, rfl⟩ | ⟨ts, us, hsplit, hts, hus, hdepth⟩
  · cases htokens
  · have hopen := hwrites'.balanced.one_le_depth hts hus (htokens.symm.trans hsplit)
    omega

theorem Writes.balanced_items {items : List Expr} {fs : List Fragment}
    (hitems : List.Forall₂ Writes items fs) :
    Balanced ([Token.sign ","].intercalate (items.map tokens)) :=
  .intercalate (forall_mem_of_forall₂ (hitems.imp fun _ _ => Writes.balanced))

theorem Writes.weight_items {items items' : List Expr} {fs : List Fragment}
    (hitems : List.Forall₂ Writes items fs) (hitems' : List.Forall₂ Writes items' fs) :
    List.Forall₂ (fun ts us => weight ts = weight us) (items.map tokens) (items'.map tokens) := by
  induction hitems generalizing items' with
  | nil =>
      cases hitems'
      exact .nil
  | cons he _ ih =>
      cases hitems' with
      | cons he' hrest' => exact .cons (he.weight_eq.trans he'.weight_eq.symm) (ih hrest')

theorem map_tokens_injective {items items' : List Expr} {fs : List Fragment}
    (hitems : List.Forall₂
      (fun e f => ∀ e' : Expr, e'.Writes f → e.tokens = e'.tokens → e = e') items fs)
    (hitems' : List.Forall₂ Writes items' fs) (htokens : items.map tokens = items'.map tokens) :
    items = items' := by
  induction hitems generalizing items' with
  | nil =>
      cases hitems'
      rfl
  | cons he _ ih =>
      cases hitems' with
      | cons he' hrest' =>
          obtain ⟨hhead, htail⟩ := List.cons.inj htokens
          rw [he _ he' hhead, ih hrest' htail]

/-- The tokens of a fragment with parentheses tell where the parentheses are. -/
theorem Writes.eq_of_tokens_eq {e : Expr} {f : Fragment} (hwrites : e.Writes f) :
    ∀ e' : Expr, e'.Writes f → e.tokens = e'.tokens → e = e' := by
  -- Where the one has no parentheses around the whole, the other has none.
  have hplain : ∀ {e e' : Expr} {f : Fragment}, e.Writes f → e'.Writes f →
      e.tokens = e'.tokens → e.Unenclosed → e'.Unenclosed := by
    rintro e e' f hwrites hwrites' htokens he inner rfl
    exact he.tokens_ne hwrites ((bare_paren inner).symm.trans hwrites') htokens
  refine Writes.induction ?paren ?operand ?property ?call ?binary hwrites
  case paren =>
    intro e f hwrites ih e' hwrites' htokens
    by_cases he' : e'.Unenclosed
    · exact absurd htokens.symm (he'.tokens_ne hwrites' hwrites)
    · obtain ⟨inner, rfl⟩ := not_forall_not.mp he'
      rw [tokens_paren, tokens_paren] at htokens
      have hinner := List.append_cancel_right (List.cons.inj htokens).2
      rw [ih inner ((bare_paren inner).symm.trans hwrites') hinner]
  case operand =>
    intro o f hwrites e' hwrites' htokens
    have he' := hplain hwrites hwrites' htokens fun _ => nofun
    exact (he'.eq_operand (hwrites'.trans hwrites.symm)).symm
  case property =>
    intro e object optional name hwrites ih e' hwrites' htokens
    have he' := hplain hwrites hwrites' htokens fun _ => nofun
    obtain ⟨o, rfl, ho⟩ := he'.writes_property hwrites'
    rw [tokens_property, tokens_property] at htokens
    rw [ih o ho (List.append_cancel_right htokens)]
  case call =>
    intro e items callee arguments hwrites hitems ih ihitems e' hwrites' htokens
    have he' := hplain hwrites hwrites' htokens fun _ => nofun
    obtain ⟨c, items', rfl, hc, hitems'⟩ := he'.writes_call hwrites'
    rw [Fragment.tokens_callShape, Fragment.tokens_callShape] at htokens
    obtain ⟨hhead, hlist⟩ := (Writes.balanced_items hitems).eq_of_append_eq
      (Writes.balanced_items hitems') htokens
    have hmap := eq_of_intercalate_eq (Writes.weight_items hitems hitems') hlist
    rw [ih c hc hhead, map_tokens_injective ihitems hitems' hmap]
  case binary =>
    intro l r left op right hwrites hl ihl ihr e' hwrites' htokens
    have he' := hplain hwrites hwrites' htokens fun _ => nofun
    obtain ⟨l', r', rfl, hl', hr'⟩ := he'.writes_binary hwrites'
    rw [tokens_binary, tokens_binary] at htokens
    have hweight : weight l.tokens = weight l'.tokens := hl.weight_eq.trans hl'.weight_eq.symm
    obtain ⟨hleft, hright⟩ := eq_of_weight_eq (nesting_token op) hweight htokens
    rw [ihl l' hl' hleft, ihr r' hr' hright]

end Expr

namespace Fragment

theorem precedence_of_operator? {f : Fragment} {op : String} (hop : f.operator? = some op) :
    f.precedence = .ofOperator op := by
  cases f with
  | node n =>
      simp only [operator?, Option.ite_none_right_eq_some, beq_iff_eq, Option.map_eq_some_iff] at hop
      obtain ⟨hkind, token, htoken, rfl⟩ := hop
      simp [precedence, Precedence.ofNode, hkind, htoken]
  | binary left op' right =>
      cases hop
      rfl
  | _ => cases hop

/-- Mixed operators are `??` inside another one, or `||` or `&&` inside `??`. -/
theorem mixesCoalesce_cases {inner outer : Option String}
    (hmixes : Slot.mixesCoalesce inner outer = true) :
    (inner = some "??" ∧ outer ≠ some "??") ∨
      (outer = some "??" ∧ ∃ op, inner = some op ∧
        Precedence.ofOperator op ∈ [.disjunction, .conjunction]) := by
  unfold Slot.mixesCoalesce at hmixes
  split at hmixes
  next => exact .inl ⟨rfl, by decide⟩
  next => exact .inl ⟨rfl, by decide⟩
  next => exact .inr ⟨rfl, _, rfl, by decide⟩
  next => exact .inr ⟨rfl, _, rfl, by decide⟩
  next => cases hmixes

/-! ## What a place does not take -/

/-- What is put in parentheses for its level is too weak for the place. -/
theorem not_takes_of_least {shape : Shape} {position : Nat} {least : Precedence}
    (hfloor : shape.floor position = .level least) {f : Fragment}
    (hparens : (Slot.atLeast least).needsParens f = true) : ¬shape.Takes position f.body := by
  rw [needsParens_atLeast, decide_eq_true_eq] at hparens
  rintro ⟨hadmits, -⟩
  rw [hfloor] at hadmits
  exact Nat.not_lt.mpr (f.level_body ▸ hadmits) hparens

theorem least_le_of_takes_operand {op : LogicalOperator} {least : Precedence} {position : Nat}
    (hplace : (position, least) ∈ [(0, op.precedence), (1, op.precedence.next)]) {e : Expr}
    (htakes : (Shape.binary op.token).Takes position e) : least ≤ e.level := by
  simp only [List.mem_cons, List.not_mem_nil, or_false, Prod.mk.injEq] at hplace
  obtain ⟨rfl, rfl⟩ | ⟨rfl, rfl⟩ := hplace <;> cases op <;>
    exact Nat.le_trans (by decide) htakes.1

/-- What is put in parentheses as an operand is too weak for its side of the operator, or not mixed
with it. -/
theorem not_takes_operand {op : LogicalOperator} {least : Precedence} {position : Nat}
    (hplace : (position, least) ∈ [(0, op.precedence), (1, op.precedence.next)]) {f : Fragment}
    (hparens : (Slot.operand least (some op.token)).needsParens f = true) :
    ¬(Shape.binary op.token).Takes position f.body := by
  intro htakes
  have hleast := f.level_body ▸ least_le_of_takes_operand hplace htakes
  simp only [Slot.needsParens, Slot.operand, Bool.false_and, Bool.or_false, Bool.or_eq_true]
    at hparens
  rcases hparens with hweak | hmixes
  · exact Nat.not_lt.mpr hleast (of_decide_eq_true hweak)
  · rcases mixesCoalesce_cases hmixes with ⟨hop, hother⟩ | ⟨hop, ⟨token, htoken, hmixed⟩⟩
    · -- `??` is weaker than what stands next to `||` and `&&`.
      have hweaker : Precedence.coalesce < least := by
        simp only [List.mem_cons, List.not_mem_nil, or_false, Prod.mk.injEq] at hplace
        revert hother
        obtain ⟨-, rfl⟩ | ⟨-, rfl⟩ := hplace <;> cases op <;> decide
      rw [precedence_of_operator? hop] at hleast
      exact Nat.not_lt.mpr hleast hweaker
    · -- `||` and `&&` are excluded next to `??`.
      obtain rfl : op = .coalesce := by revert hop; cases op <;> decide
      refine htakes.2 ?_
      rw [level_body, precedence_of_operator? htoken]
      exact hmixed

/-- What is put in parentheses for its slot is not taken without them. -/
theorem not_takes_of_ofPart {shape : Shape} {position : Nat} {slot : Slot}
    (hslot : Slot.OfPart shape position slot) {f : Fragment}
    (hparens : slot.needsParens f = true) : ¬shape.Takes position f.body := by
  cases hslot with
  | object | callee | argument => exact not_takes_of_least rfl hparens
  | left | right => exact not_takes_operand (by simp) hparens

/-! ## Every pair counts -/

/-- Inside a printed fragment no pair of parentheses can be left out, but for the pair around an
integer that is accessed by name. Without the pair the tokens are those of no expression of the
grammar, or of one that is another fragment. -/
theorem print_pair_needed {f : Fragment} {site : Node} {text : String}
    (hprint : f.print site = .ok text) {frame : Frame} {outer : Context} {inner : Expr}
    (hpair : f.layout (.ofSite site) =
      Context.plug (frame :: outer) (.build .paren [inner]))
    (hinteger : ∀ (object : Fragment) (optional : Bool) (name : Operand),
      object.isInteger = true → inner = object.body → frame.shape ≠ .property optional name) :
    let opening := Context.opening (frame :: outer)
    let closing := Context.closing (frame :: outer)
    spell? (opening ++ .sign "(" :: (inner.tokens ++ .sign ")" :: closing)) = some text ∧
      ∀ e : Expr, e.Grammatical → e.tokens = opening ++ (inner.tokens ++ closing) →
        e.bare ≠ f.toExpr := by
  intro opening closing
  have hlayout : (Context.plug (frame :: outer) (.build .paren [inner])).Grammatical :=
    hpair ▸ f.grammatical_layout (.ofSite site)
  have htokens := Context.tokens_plug hlayout
  refine ⟨?_, ?_⟩
  · rw [← spell?_layout hprint, hpair, htokens, Expr.tokens_paren]
    simp [opening, closing]
  · intro e he hdropped hwrites
    -- The one way to put the parentheses of these tokens into the fragment is to drop the pair.
    have hbare : (Context.plug (frame :: outer) inner).Writes f := by
      rw [Expr.Writes, ← f.bare_layout (.ofSite site), hpair]
      exact Context.bare_plug_congr _ (Expr.bare_paren inner).symm
    have heq : e = Context.plug (frame :: outer) inner :=
      Expr.Writes.eq_of_tokens_eq hwrites _ hbare (hdropped.trans (htokens inner).symm)
    have htakes := Frame.takes_of_grammatical (Context.grammatical_of_plug (heq ▸ he))
    generalize hpart : Expr.build .paren [inner] = part at hpair
    cases stands_of_layout hpair with
    | enclosed g _ => exact g.unenclosed_body inner hpart.symm
    | slotted g hslot =>
        obtain ⟨hneeded, rfl⟩ := Expr.eq_of_enclose_eq_paren g.unenclosed_body hpart.symm
        exact not_takes_of_ofPart hslot hneeded htakes
    | integer g hg hshape =>
        cases hpart
        exact hinteger g _ _ hg rfl hshape

namespace Sample

/-- The right operand of the fragment. -/
def rightOperand : Fragment :=
  .binary (.call (.property (.literal (.integer (-1))) true "f")
      [.binary (.identifier "x") .disjunction (.identifier "y"), .identifier "z"])
    .coalesce (.literal (.boolean false))

/-- What stands around the right operand. -/
def leftOfOperator : Frame := ⟨.binary "??", [.build .paren [.operand (.node disjunction)]], []⟩

theorem layout_fragment :
    fragment.layout (.ofSite disjunction) =
      Context.plug [leftOfOperator] (.build .paren [rightOperand.body]) := by
  have hwhole : (Slot.ofSite disjunction).needsParens fragment = false := by decide +kernel
  have hleft : (Slot.operand .coalesce (some "??")).needsParens (node disjunction) = true := by
    decide +kernel
  have hright : (Slot.operand .disjunction (some "??")).needsParens rightOperand = true := by
    decide
  have hbody : fragment.body = .build (.binary "??")
      [(Expr.operand (.node disjunction)).enclose
          ((Slot.operand .coalesce (some "??")).needsParens (node disjunction)),
        rightOperand.body.enclose
          ((Slot.operand .disjunction (some "??")).needsParens rightOperand)] := by
    rw [fragment, body]
    rfl
  rw [layout, hwhole, hbody, hleft, hright]
  rfl

end Sample

/-- The pair around the right operand of a fragment: without it the operators group to the left. -/
theorem print_pair_needed_sample :
    spell? (Sample.leftOfOperator.opening ++
        .sign "(" :: (Sample.rightOperand.body.tokens ++ [.sign ")"])) =
      some "(a || b) ?? ((-1)?.f(x || y, z) ?? false)" ∧
      ∀ e : Expr, e.Grammatical →
        e.tokens = Sample.leftOfOperator.opening ++ Sample.rightOperand.body.tokens →
        e.bare ≠ Sample.fragment.toExpr := by
  have hprint : Sample.fragment.print Sample.disjunction =
      .ok "(a || b) ?? ((-1)?.f(x || y, z) ?? false)" := by decide +kernel
  obtain ⟨htext, hneeded⟩ := print_pair_needed hprint Sample.layout_fragment nofun
  refine ⟨htext, ?_⟩
  intro e he htokens
  have hclosing : Context.closing [Sample.leftOfOperator] = [] := rfl
  have hopening : Context.opening [Sample.leftOfOperator] = Sample.leftOfOperator.opening := rfl
  exact hneeded e he (by rw [htokens, hclosing, hopening, List.append_nil])

end Fragment

end CallMigration
