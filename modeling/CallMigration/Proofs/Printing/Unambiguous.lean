import CallMigration.Proofs.Printing.Grammar
import Mathlib.Order.Filter.AtTopBot.Basic

/-!
# Expressions are read in one way

A reader takes tokens from the left: it reads an operand or what a sign opens, then goes on
as long as the next token continues the expression in its place. On the tokens of an
expression of the grammar it arrives at that expression, so that no two expressions of the
grammar have the same tokens.

The argument is by induction on the expression, shape by shape, for any place that admits
it and any tokens after it. Those tokens must not continue the last part of the expression,
though they may continue the expression as a whole.
-/

namespace CallMigration

/-! ## Tokens after an expression -/

/-- The signs that continue an expression: the level of the longer expression, and the
weakest level of what is continued. -/
def extensions : List (String × Precedence × Precedence) :=
  [("(", .member, .member), ("[", .member, .member), (".", .member, .member),
    ("?.", .member, .member), ("!", .member, .member), ("++", .update, .leftHandSide),
    ("--", .update, .leftHandSide), ("as", .relational, .relational),
    ("satisfies", .relational, .relational), ("?", .conditional, .coalesce)] ++
    productions.map fun p => (p.1, p.2.own, p.2.left)

/-- The levels of a token that continues an expression. -/
def Token.extension? : Token → Option (Precedence × Precedence)
  | operand _ => none
  | type _ => some (.member, .member)
  | sign s => extensions.lookup s

/-- Whether a token is taken into an expression of the given level, in a place with this
floor. -/
def Floor.continues : Floor → Token → Precedence → Bool
  | level least, t, found => t.extension?.any fun (own, left) => least ≤ own && left ≤ found
  | target, .sign s, _ => s == "." || s == "[" || s == "!"
  | target, _, _ => false

/-! ## A reader

The reader takes fuel, one unit for each step. How much it needs does not matter: what it
reads is what it reads with any fuel from some amount on.
-/

/-- The tokens after a sign, if they start with it. -/
def after? (s : String) : List Token → Option (List Token)
  | .sign t :: rest => if t = s then some rest else none
  | _ => none

/-- The type arguments in front of tokens. -/
def splitTypes : List Token → Option Node × List Token
  | .type types :: rest => (some types, rest)
  | rest => (none, rest)

/-- What is read in places of the four kinds. -/
structure Reader where
  /-- An expression from the front of the tokens, as long as the floor allows. -/
  parse : Floor → List Token → Option (Expr × List Token)
  /-- What goes on from an expression. -/
  extend : Floor → Expr → List Token → Option (Expr × List Token)
  /-- The name, the index or the arguments of a link, and what goes on from there. -/
  link : Floor → Expr → Bool → List Token → Option (Expr × List Token)
  /-- The items of a list up to the sign that closes it, after a number of commas. -/
  items : String → Nat → List Token → Option (List Nat × List Expr × List Token)

namespace Reader

variable (r : Reader)

def parseNext (floor : Floor) : List Token → Option (Expr × List Token)
  | .operand o :: rest => r.extend floor (.operand o) rest
  | .sign s :: rest =>
      if s = "(" then do
        let (e, rest) ← r.parse (.level .comma) rest
        let rest ← after? ")" rest
        r.extend floor (.build .paren [e]) rest
      else if s = "[" then do
        let (gaps, items, rest) ← r.items "]" 0 rest
        r.extend floor (.build (.list gaps) items) rest
      else if s = "new" then do
        let (e, rest) ← r.parse .target rest
        let (types, rest) := splitTypes rest
        match after? "(" rest with
        | some rest => do
            let (gaps, items, rest) ← r.items ")" 0 rest
            r.extend floor (.build (.creation types (some gaps)) (e :: items)) rest
        | none => r.extend floor (.build (.creation types none) [e]) rest
      else do
        let (e, rest) ← r.parse (.level .unary) rest
        r.extend floor (.build (.prefixed s) [e]) rest
  | _ => none

def extendNext (floor : Floor) (e : Expr) : List Token → Option (Expr × List Token)
  | [] => some (e, [])
  | t :: rest =>
      if floor.continues t e.level then
        match t with
        | .operand _ => none
        | .type _ => r.link floor e false (t :: rest)
        | .sign s =>
            if s = "." then r.link floor e false rest
            else if s = "?." then r.link floor e true rest
            else if s = "[" ∨ s = "(" then r.link floor e false (t :: rest)
            else if s = "!" then r.extend floor (.build .assertion [e]) rest
            else if s ∈ updateOperators then r.extend floor (.build (.postfixed s) [e]) rest
            else if s = "as" ∨ s = "satisfies" then
              match rest with
              | .type type :: rest => r.extend floor (.build (.cast s type) [e]) rest
              | _ => none
            else if s = "?" then do
              let (yes, rest) ← r.parse (.level .assignment) rest
              let rest ← after? ":" rest
              let (no, rest) ← r.parse (.level .assignment) rest
              r.extend floor (.build .choice [e, yes, no]) rest
            else do
              let (right, rest) ← r.parse ((Shape.binary s).floor 1) rest
              r.extend floor (.build (.binary s) [e, right]) rest
      else some (e, t :: rest)

def linkNext (floor : Floor) (e : Expr) (optional : Bool) :
    List Token → Option (Expr × List Token)
  | .operand name :: rest => r.extend floor (.build (.property optional name) [e]) rest
  | .type types :: rest => do
      let rest ← after? "(" rest
      let (gaps, items, rest) ← r.items ")" 0 rest
      r.extend floor (.build (.call optional (some types) gaps) (e :: items)) rest
  | .sign s :: rest =>
      if s = "[" then do
        let (i, rest) ← r.parse (.level .comma) rest
        let rest ← after? "]" rest
        r.extend floor (.build (.index optional) [e, i]) rest
      else do
        let (gaps, items, rest) ← r.items ")" 0 rest
        r.extend floor (.build (.call optional none gaps) (e :: items)) rest
  | [] => none

def itemsNext (close : String) (count : Nat) (ts : List Token) :
    Option (List Nat × List Expr × List Token) :=
  if (after? "," ts).isSome then r.items close (count + 1) ts.tail
  else if (after? close ts).isSome then some ([count], [], ts.tail)
  else do
    let (e, rest) ← r.parse (.level .assignment) ts
    let (gaps, items, rest) ← r.items close 0 rest
    some (count :: gaps, e :: items, rest)

/-- A reader that takes one step and leaves what follows to `r`. -/
def next : Reader := ⟨r.parseNext, r.extendNext, r.linkNext, r.itemsNext⟩

end Reader

/-- The reader that takes at most so many steps in a row. -/
def reader : Nat → Reader
  | 0 => ⟨fun _ _ => none, fun _ _ _ => none, fun _ _ _ _ => none, fun _ _ _ => none⟩
  | fuel + 1 => (reader fuel).next

/-! ## One step of the reader -/

section

variable (fuel : Nat)

@[simp]
theorem reader_succ_parse : (reader (fuel + 1)).parse = (reader fuel).parseNext := rfl

@[simp]
theorem reader_succ_extend : (reader (fuel + 1)).extend = (reader fuel).extendNext := rfl

@[simp]
theorem reader_succ_link : (reader (fuel + 1)).link = (reader fuel).linkNext := rfl

@[simp]
theorem reader_succ_items : (reader (fuel + 1)).items = (reader fuel).itemsNext := rfl

end

open Filter

/-- With enough fuel, this is what is read. -/
def Parses (floor : Floor) (ts : List Token) (found : Expr × List Token) : Prop :=
  ∀ᶠ fuel in atTop, (reader fuel).parse floor ts = some found

def Extends (floor : Floor) (e : Expr) (ts : List Token) (found : Expr × List Token) : Prop :=
  ∀ᶠ fuel in atTop, (reader fuel).extend floor e ts = some found

def Links (floor : Floor) (e : Expr) (optional : Bool) (ts : List Token)
    (found : Expr × List Token) : Prop :=
  ∀ᶠ fuel in atTop, (reader fuel).link floor e optional ts = some found

def ParsesItems (close : String) (count : Nat) (ts : List Token)
    (found : List Nat × List Expr × List Token) : Prop :=
  ∀ᶠ fuel in atTop, (reader fuel).items close count ts = some found

theorem Parses.unique {floor : Floor} {ts : List Token} {found found' : Expr × List Token}
    (h : Parses floor ts found) (h' : Parses floor ts found') : found = found' := by
  obtain ⟨fuel, hfound, hfound'⟩ := (Eventually.and h h').exists
  exact Option.some.inj (hfound.symm.trans hfound')

/-- A step takes one unit of fuel. -/
theorem eventually_succ {p q : Nat → Prop} (hp : ∀ᶠ fuel in atTop, p fuel)
    (hstep : ∀ fuel, p fuel → q (fuel + 1)) : ∀ᶠ fuel in atTop, q fuel := by
  rw [← map_add_atTop_eq_nat 1, eventually_map]
  exact hp.mono hstep

section Steps

variable {floor : Floor} {found : Expr × List Token}

theorem parses_operand {o : Operand} {rest : List Token}
    (hextends : Extends floor (.operand o) rest found) :
    Parses floor (.operand o :: rest) found := by
  refine eventually_succ hextends ?_
  intro fuel hextend
  simpa [Reader.parseNext] using hextend

theorem extends_stop {e : Expr} {t : Token} (rest : List Token)
    (hstop : floor.continues t e.level = false) :
    Extends floor e (t :: rest) (e, t :: rest) := by
  refine eventually_succ (.of_forall fun _ => trivial) ?_
  intro fuel _
  simp [Reader.extendNext, hstop]

theorem extends_nil (e : Expr) : Extends floor e [] (e, []) := by
  refine eventually_succ (.of_forall fun _ => trivial) ?_
  intro fuel _
  rfl

theorem links_property {e : Expr} {optional : Bool} {name : Operand} {rest : List Token}
    (hextends : Extends floor (.build (.property optional name) [e]) rest found) :
    Links floor e optional (.operand name :: rest) found := by
  refine eventually_succ hextends ?_
  intro fuel hextend
  simpa [Reader.linkNext] using hextend

theorem parses_paren {e : Expr} {ts rest : List Token}
    (he : Parses (.level .comma) ts (e, .sign ")" :: rest))
    (hextends : Extends floor (.build .paren [e]) rest found) :
    Parses floor (.sign "(" :: ts) found := by
  refine eventually_succ (Eventually.and he hextends) ?_
  rintro fuel ⟨he, hextend⟩
  simp [Reader.parseNext, he, after?, hextend]

theorem parses_list {gaps : List Nat} {items : List Expr} {ts rest : List Token}
    (hitems : ParsesItems "]" 0 ts (gaps, items, rest))
    (hextends : Extends floor (.build (.list gaps) items) rest found) :
    Parses floor (.sign "[" :: ts) found := by
  refine eventually_succ (Eventually.and hitems hextends) ?_
  rintro fuel ⟨hitems, hextend⟩
  simp [Reader.parseNext, hitems, hextend]

theorem parses_prefixed {op : String} (hop : op ∈ prefixOperators) {e : Expr}
    {ts rest : List Token} (he : Parses (.level .unary) ts (e, rest))
    (hextends : Extends floor (.build (.prefixed op) [e]) rest found) :
    Parses floor (.sign op :: ts) found := by
  have hparen : op ≠ "(" := by rintro rfl; exact absurd hop (by decide)
  have hbracket : op ≠ "[" := by rintro rfl; exact absurd hop (by decide)
  have hnew : op ≠ "new" := by rintro rfl; exact absurd hop (by decide)
  refine eventually_succ (Eventually.and he hextends) ?_
  rintro fuel ⟨he, hextend⟩
  simp [Reader.parseNext, he, hparen, hbracket, hnew, hextend]

theorem parses_creation_none {e : Expr} {types : Option Node} {ts rest rest' : List Token}
    (he : Parses .target ts (e, rest)) (htypes : splitTypes rest = (types, rest'))
    (hafter : after? "(" rest' = none)
    (hextends : Extends floor (.build (.creation types none) [e]) rest' found) :
    Parses floor (.sign "new" :: ts) found := by
  refine eventually_succ (Eventually.and he hextends) ?_
  rintro fuel ⟨he, hextend⟩
  simp [Reader.parseNext, he, htypes, hafter, hextend]

theorem parses_creation_some {e : Expr} {types : Option Node} {gaps : List Nat}
    {items : List Expr} {ts rest rest' rest'' : List Token} (he : Parses .target ts (e, rest))
    (htypes : splitTypes rest = (types, .sign "(" :: rest'))
    (hitems : ParsesItems ")" 0 rest' (gaps, items, rest''))
    (hextends : Extends floor (.build (.creation types (some gaps)) (e :: items)) rest'' found) :
    Parses floor (.sign "new" :: ts) found := by
  refine eventually_succ (Eventually.and he (Eventually.and hitems hextends)) ?_
  rintro fuel ⟨he, hitems, hextend⟩
  simp [Reader.parseNext, he, htypes, hitems, after?, hextend]

theorem extends_dot {e : Expr} {rest : List Token}
    (hgo : floor.continues (.sign ".") e.level = true) (hlinks : Links floor e false rest found) :
    Extends floor e (.sign "." :: rest) found := by
  refine eventually_succ hlinks ?_
  intro fuel hlink
  simp [Reader.extendNext, hgo, hlink]

theorem extends_question {e : Expr} {rest : List Token}
    (hgo : floor.continues (.sign "?.") e.level = true) (hlinks : Links floor e true rest found) :
    Extends floor e (.sign "?." :: rest) found := by
  refine eventually_succ hlinks ?_
  intro fuel hlink
  simp [Reader.extendNext, hgo, hlink]

theorem extends_link {e : Expr} {t : Token} {rest : List Token}
    (ht : t = .sign "[" ∨ t = .sign "(" ∨ ∃ n, t = .type n)
    (hgo : floor.continues t e.level = true) (hlinks : Links floor e false (t :: rest) found) :
    Extends floor e (t :: rest) found := by
  refine eventually_succ hlinks ?_
  intro fuel hlink
  obtain rfl | rfl | ⟨n, rfl⟩ := ht <;>
    simp [Reader.extendNext, hgo, hlink]

theorem extends_assertion {e : Expr} {rest : List Token}
    (hgo : floor.continues (.sign "!") e.level = true)
    (hextends : Extends floor (.build .assertion [e]) rest found) :
    Extends floor e (.sign "!" :: rest) found := by
  refine eventually_succ hextends ?_
  intro fuel hextend
  simp [Reader.extendNext, hgo, hextend]

theorem extends_postfixed {e : Expr} {op : String} (hop : op ∈ updateOperators)
    {rest : List Token} (hgo : floor.continues (.sign op) e.level = true)
    (hextends : Extends floor (.build (.postfixed op) [e]) rest found) :
    Extends floor e (.sign op :: rest) found := by
  have hother : op ≠ "." ∧ op ≠ "?." ∧ op ≠ "[" ∧ op ≠ "(" ∧ op ≠ "!" := by
    clear hgo hextends
    revert op
    decide
  refine eventually_succ hextends ?_
  intro fuel hextend
  simp [Reader.extendNext, hgo, hop, hother, hextend]

theorem extends_cast {e : Expr} {word : String} (hword : word = "as" ∨ word = "satisfies")
    {type : Node} {rest : List Token} (hgo : floor.continues (.sign word) e.level = true)
    (hextends : Extends floor (.build (.cast word type) [e]) rest found) :
    Extends floor e (.sign word :: .type type :: rest) found := by
  refine eventually_succ hextends ?_
  intro fuel hextend
  obtain rfl | rfl := hword <;>
    simp [Reader.extendNext, hgo, updateOperators, hextend]

theorem extends_choice {e yes no : Expr} {ts rest rest' : List Token}
    (hyes : Parses (.level .assignment) ts (yes, .sign ":" :: rest))
    (hno : Parses (.level .assignment) rest (no, rest'))
    (hgo : floor.continues (.sign "?") e.level = true)
    (hextends : Extends floor (.build .choice [e, yes, no]) rest' found) :
    Extends floor e (.sign "?" :: ts) found := by
  refine eventually_succ (Eventually.and hyes (Eventually.and hno hextends)) ?_
  rintro fuel ⟨hyes, hno, hextend⟩
  simp [Reader.extendNext, hgo, updateOperators, hyes, hno, after?, hextend]

theorem extends_binary {e right : Expr} {op : String} {production : Production}
    (hop : (op, production) ∈ productions) {ts rest : List Token}
    (hright : Parses ((Shape.binary op).floor 1) ts (right, rest))
    (hgo : floor.continues (.sign op) e.level = true)
    (hextends : Extends floor (.build (.binary op) [e, right]) rest found) :
    Extends floor e (.sign op :: ts) found := by
  have hother : op ∉ [".", "?.", "[", "(", "!", "++", "--", "as", "satisfies", "?"] := by
    have hall : ∀ p ∈ productions,
        p.1 ∉ [".", "?.", "[", "(", "!", "++", "--", "as", "satisfies", "?"] := by decide
    exact hall _ hop
  simp only [List.mem_cons, List.not_mem_nil, or_false, not_or] at hother
  refine eventually_succ (Eventually.and hright hextends) ?_
  rintro fuel ⟨hright, hextend⟩
  simp [Reader.extendNext, hgo, updateOperators, hother, hright, hextend]

theorem links_index {e i : Expr} {optional : Bool} {ts rest : List Token}
    (hi : Parses (.level .comma) ts (i, .sign "]" :: rest))
    (hextends : Extends floor (.build (.index optional) [e, i]) rest found) :
    Links floor e optional (.sign "[" :: ts) found := by
  refine eventually_succ (Eventually.and hi hextends) ?_
  rintro fuel ⟨hi, hextend⟩
  simp [Reader.linkNext, hi, after?, hextend]

theorem links_call {gaps : List Nat} {items : List Expr} {ts rest : List Token} {e : Expr}
    {optional : Bool} {types : Option Node} (hitems : ParsesItems ")" 0 ts (gaps, items, rest))
    (hextends : Extends floor (.build (.call optional types gaps) (e :: items)) rest found) :
    Links floor e optional (Shape.typeTokens types ++ .sign "(" :: ts) found := by
  refine eventually_succ (Eventually.and hitems hextends) ?_
  rintro fuel ⟨hitems, hextend⟩
  cases types <;>
    simp [Reader.linkNext, Shape.typeTokens, hitems, after?, hextend]

end Steps

/-! ## Where an expression ends -/

/-- The tokens do not continue an expression in a place that asks for this level. -/
def Ends (least : Precedence) (ts : List Token) : Prop :=
  ∀ t ∈ ts.head?, ∀ levels ∈ t.extension?, levels.1 < least

/-- The tokens do not continue a part at the end of an expression of this level: they
build something weaker, or take the expression as a whole. -/
def Follows (level : Precedence) (ts : List Token) : Prop :=
  ∀ t ∈ ts.head?, ∀ levels ∈ t.extension?, levels.1 < level ∨ levels.2 ≤ level

/-- The least level of what is read in a place. -/
def Floor.bound : Floor → Precedence
  | level least => least
  | target => .member

theorem ends_nil (least : Precedence) : Ends least [] := by
  intro t ht
  simp at ht

theorem ends_cons {t : Token} (ht : t.extension? = none) (least : Precedence) (ts : List Token) :
    Ends least (t :: ts) := by
  intro t' ht' levels hlevels
  rw [List.head?_cons, Option.mem_some] at ht'
  subst ht'
  rw [ht] at hlevels
  simp at hlevels

theorem follows_cons {t : Token} {own left level : Precedence}
    (ht : t.extension? = some (own, left)) (hle : left ≤ level) (ts : List Token) :
    Follows level (t :: ts) := by
  intro t' ht' levels hlevels
  rw [List.head?_cons, Option.mem_some] at ht'
  subst ht'
  rw [ht, Option.mem_some] at hlevels
  subst hlevels
  exact Or.inr hle

theorem Ends.follows {least level : Precedence} {ts : List Token} (hends : Ends least ts)
    (hle : least ≤ level) : Follows level ts := by
  intro t ht levels hlevels
  exact Or.inl (Nat.lt_of_lt_of_le (hends t ht levels hlevels) hle)

theorem mem_of_lookup {α : Type} {table : List (String × α)} {key : String} {value : α}
    (hlookup : table.lookup key = some value) : (key, value) ∈ table := by
  obtain ⟨before, after, heq, -⟩ := List.lookup_eq_some_iff.mp hlookup
  simp [heq]

theorem mem_extensions_of_extension? {t : Token} {levels : Precedence × Precedence}
    (ht : t.extension? = some levels) : levels ∈ extensions.map (·.2) := by
  cases t with
  | operand o => cases ht
  | type n =>
      cases ht
      decide
  | sign s => exact List.mem_map.mpr ⟨(s, levels), mem_of_lookup ht, rfl⟩

theorem extends_of_ends {floor : Floor} {ts : List Token} (hends : Ends floor.bound ts)
    (e : Expr) : Extends floor e ts (e, ts) := by
  cases ts with
  | nil => exact extends_nil e
  | cons t rest =>
      apply extends_stop
      have hends : ∀ levels ∈ t.extension?, levels.1 < floor.bound := hends t rfl
      cases floor with
      | level least =>
          cases ht : t.extension? with
          | none => simp [Floor.continues, ht]
          | some levels =>
              have hlt : ¬least ≤ levels.1 := Nat.not_le.mpr (hends levels ht)
              simp [Floor.continues, ht, hlt]
      | target =>
          cases t with
          | operand o => rfl
          | type n => rfl
          | sign s =>
              -- The three signs that continue a target make a member expression.
              by_contra hgo
              simp only [Floor.continues, Bool.not_eq_false, Bool.or_eq_true, beq_iff_eq] at hgo
              obtain (rfl | rfl) | rfl := hgo <;> exact absurd (hends _ rfl) (by decide)

/-- The place at the end of a shape that ends with a part. -/
def Shape.lastFloor? : Shape → Option Floor
  | prefixed op => some ((prefixed op).floor 0)
  | creation types none => some ((creation types none).floor 0)
  | binary op => some ((binary op).floor 1)
  | choice => some (choice.floor 2)
  | _ => none

/-- What follows an expression does not continue its last part. -/
theorem Follows.ends {shape : Shape} (hknown : shape.isKnown = true) {floor : Floor}
    (hlast : shape.lastFloor? = some floor) {ts : List Token} (hfollows : Follows shape.level ts) :
    Ends floor.bound ts := by
  intro t ht levels hlevels
  have hor := hfollows t ht levels hlevels
  have hmem := mem_extensions_of_extension? hlevels
  cases shape with
  | prefixed op =>
      have hall : ∀ levels ∈ extensions.map (·.2), ∀ op ∈ prefixOperators,
          levels.1 < (Shape.prefixed op).level ∨ levels.2 ≤ (Shape.prefixed op).level →
            levels.1 < .unary := by decide
      cases hlast
      exact hall levels hmem op (of_decide_eq_true hknown) hor
  | creation types gaps =>
      cases gaps with
      | none =>
          have hall : ∀ levels ∈ extensions.map (·.2),
              levels.1 < .leftHandSide ∨ levels.2 ≤ .leftHandSide → levels.1 < .member := by decide
          cases hlast
          exact hall levels hmem hor
      | some gaps => cases hlast
  | binary op =>
      have hall : ∀ levels ∈ extensions.map (·.2), ∀ p ∈ productions,
          levels.1 < p.2.own ∨ levels.2 ≤ p.2.own → levels.1 < p.2.right := by decide
      obtain ⟨production, hop⟩ := Option.isSome_iff_exists.mp hknown
      cases hlast
      rw [Shape.level_of_production? hop] at hor
      rw [Shape.floor_right_of_production? hop]
      exact hall levels hmem (op, production) (mem_of_lookup hop) hor
  | choice =>
      have hall : ∀ levels ∈ extensions.map (·.2),
          levels.1 < .conditional ∨ levels.2 ≤ .conditional → levels.1 < .assignment := by decide
      cases hlast
      exact hall levels hmem hor
  | _ => cases hlast

/-! ## Joints -/

/-- The first token after the first part of a shape that starts with a part. -/
def Shape.joint? : Shape → Option Token
  | postfixed op | binary op => some (.sign op)
  | property optional _ => some (.sign (if optional then "?." else "."))
  | index optional => some (if optional then .sign "?." else .sign "[")
  | call optional types _ => some (if optional then .sign "?." else types.elim (.sign "(") .type)
  | assertion => some (.sign "!")
  | cast word _ => some (.sign word)
  | choice => some (.sign "?")
  | _ => none

/-- A joint continues exactly what the shape takes as its first part. -/
theorem Shape.extension?_joint {shape : Shape} (hknown : shape.isKnown = true) {t : Token}
    (hjoint : shape.joint? = some t) :
    ∃ left, t.extension? = some (shape.level, left) ∧ shape.floor 0 = .level left := by
  cases shape with
  | postfixed op =>
      have hall : ∀ op ∈ updateOperators,
          (Token.sign op).extension? = some (.update, .leftHandSide) := by decide
      cases hjoint
      exact ⟨_, hall op (of_decide_eq_true hknown), rfl⟩
  | binary op =>
      have hall : ∀ p ∈ productions, (Token.sign p.1).extension? = some (p.2.own, p.2.left) := by
        decide
      obtain ⟨production, hop⟩ := Option.isSome_iff_exists.mp hknown
      cases hjoint
      refine ⟨production.left, ?_, floor_left_of_production? hop⟩
      rw [level_of_production? hop]
      exact hall (op, production) (mem_of_lookup hop)
  | property optional name => cases hjoint; cases optional <;> exact ⟨_, rfl, rfl⟩
  | index optional => cases hjoint; cases optional <;> exact ⟨_, rfl, rfl⟩
  | call optional types gaps =>
      cases hjoint
      cases optional <;> cases types <;> exact ⟨_, rfl, rfl⟩
  | assertion => cases hjoint; exact ⟨_, rfl, rfl⟩
  | cast word type =>
      have hword : word = "as" ∨ word = "satisfies" := by simpa [isKnown] using hknown
      cases hjoint
      obtain rfl | rfl := hword <;> exact ⟨_, rfl, rfl⟩
  | choice => cases hjoint; exact ⟨_, rfl, rfl⟩
  | _ => cases hjoint

theorem Operand.member_le_level_of_isTarget {o : Operand} (ho : o.isTarget = true) :
    .member ≤ o.level := by
  cases o with
  | node n =>
      rcases Bool.or_eq_true_iff.mp ho with hprimary | htagged
      · rw [level, of_decide_eq_true hprimary]
        decide
      · have hkind : n.kind = "call_expression" := by
          simpa using (Bool.and_eq_true_iff.mp htagged).1
        simp only [level, Precedence.ofNode, hkind]
        decide
  | identifier name => exact (by decide : Precedence.member ≤ .primary)
  | literal value =>
      have hsign : value.isNegative = false := by simpa [isTarget] using ho
      simp only [level, hsign]
      decide

theorem Expr.member_le_level_of_isTarget {e : Expr} (he : e.isTarget = true) :
    .member ≤ e.level := by
  cases e with
  | operand o => exact Operand.member_le_level_of_isTarget he
  | build shape parts =>
      cases shape with
      | paren => exact (by decide : Precedence.member ≤ .primary)
      | list gaps => exact (by decide : Precedence.member ≤ .primary)
      | creation types gaps =>
          cases gaps with
          | none => cases he
          | some gaps => exact Nat.le_refl _
      | property optional name => exact Nat.le_refl _
      | index optional => exact Nat.le_refl _
      | assertion => exact Nat.le_refl _
      | _ => cases he

/-! ## Reading back -/

/-- Wherever an expression may stand, reading its tokens gets to it, and reads on. -/
def Expr.ReadsBack (e : Expr) : Prop :=
  ∀ floor rest found, Floor.Admits floor e → Follows e.level rest →
    Extends floor e rest found → Parses floor (e.tokens ++ rest) found

namespace Expr.ReadsBack

/-- A part is read up to tokens that do not continue it. -/
theorem parses {e : Expr} (he : e.ReadsBack) {floor : Floor} (hadmits : floor.Admits e)
    {rest : List Token} (hends : Ends floor.bound rest) :
    Parses floor (e.tokens ++ rest) (e, rest) := by
  have hfollows : Follows e.level rest := by
    cases floor with
    | level least => exact hends.follows hadmits
    | target =>
        rcases hadmits with htarget | hnew
        · exact hends.follows (Expr.member_le_level_of_isTarget htarget)
        · -- No token builds an expression of the level of `new` without arguments.
          have hall : ∀ levels ∈ extensions.map (·.2),
              levels.1 < .member → levels.1 < .leftHandSide := by decide
          rw [hnew]
          intro t ht levels hlevels
          exact Or.inl
            (hall levels (mem_extensions_of_extension? hlevels) (hends t ht levels hlevels))
  exact he floor rest _ hadmits hfollows (extends_of_ends hends e)

/-- The first part of a shape that starts with a part is read up to the joint, and the
joint is taken. -/
theorem parses_joint {shape : Shape} (hknown : shape.isKnown = true) {t : Token}
    (hjoint : shape.joint? = some t) {l : Expr} (hl : l.ReadsBack) (htakes : shape.Takes 0 l)
    {floor : Floor} {parts : List Expr} (hadmits : floor.Admits (.build shape (l :: parts)))
    (ts : List Token) :
    (∀ {found}, Extends floor l (t :: ts) found → Parses floor (l.tokens ++ t :: ts) found) ∧
      floor.continues t l.level = true := by
  obtain ⟨left, hextension, hfloor⟩ := Shape.extension?_joint hknown hjoint
  have hmem := mem_extensions_of_extension? hextension
  have hleft : left ≤ l.level := by
    have hadmitted := htakes.1
    rwa [hfloor] at hadmitted
  suffices hall : floor.Admits l ∧ floor.continues t l.level = true from
    ⟨fun hextends => hl floor _ _ hall.1 (follows_cons hextension hleft ts) hextends, hall.2⟩
  cases floor with
  | level least =>
      -- What a token builds is never stronger than what it continues.
      have hown : ∀ levels ∈ extensions.map (·.2), levels.1 ≤ levels.2 := by decide
      have hleast : least ≤ shape.level := hadmits
      refine ⟨Nat.le_trans hleast (Nat.le_trans (hown _ hmem) hleft), ?_⟩
      simp [Floor.continues, hextension, hleast, hleft]
  | target =>
      rcases hadmits with htarget | hnew
      · -- Only plain links and assertions stay targets.
        cases shape with
        | property optional name =>
            cases optional
            · cases hjoint
              exact ⟨Or.inl htarget, rfl⟩
            · cases htarget
        | index optional =>
            cases optional
            · cases hjoint
              exact ⟨Or.inl htarget, rfl⟩
            · cases htarget
        | assertion =>
            cases hjoint
            exact ⟨Or.inl htarget, rfl⟩
        | paren => cases hjoint
        | list gaps => cases hjoint
        | creation types gaps => cases hjoint
        | _ => cases htarget
      · -- `new` without arguments starts with a sign and has no joint.
        have hlevel : ∀ levels ∈ extensions.map (·.2), levels.1 ≠ .leftHandSide := by decide
        exact absurd hnew (hlevel _ hmem)

/-- The object of an access by index or of a call is read up to the link. -/
theorem parses_link {shape : Shape} (hknown : shape.isKnown = true) {optional : Bool} {t : Token}
    (ht : t = .sign "[" ∨ t = .sign "(" ∨ ∃ n, t = .type n)
    (hjoint : shape.joint? = some (if optional then .sign "?." else t)) {l : Expr}
    (hl : l.ReadsBack) (htakes : shape.Takes 0 l) {floor : Floor} {parts : List Expr}
    (hadmits : floor.Admits (.build shape (l :: parts))) {ts : List Token}
    {found : Expr × List Token} (hlinks : Links floor l optional (t :: ts) found) :
    Parses floor (l.tokens ++ (Shape.optionalSign optional ++ t :: ts)) found := by
  cases optional with
  | false =>
      obtain ⟨hparses, hgo⟩ := parses_joint hknown hjoint hl htakes hadmits ts
      exact hparses (extends_link ht hgo hlinks)
  | true =>
      obtain ⟨hparses, hgo⟩ := parses_joint hknown hjoint hl htakes hadmits (t :: ts)
      exact hparses (extends_question hgo hlinks)

end Expr.ReadsBack

/-! ## Lists -/

theorem interleave_listSeparators (opening : List Token) (close : String) {gaps : List Nat}
    (hgaps : gaps ≠ []) (parts : List (List Token)) :
    interleave (Shape.listSeparators opening close gaps) parts =
      opening ++ interleave (Shape.listSeparators [] close gaps) parts := by
  match gaps, hgaps with
  | [gap], _ => cases parts <;> simp [Shape.listSeparators, interleave]
  | gap :: _ :: _, _ => cases parts <;> simp [Shape.listSeparators, interleave]

theorem parsesItems_commas {close : String} {count gap : Nat} {ts : List Token}
    {found : List Nat × List Expr × List Token}
    (hitems : ParsesItems close (count + gap) ts found) :
    ParsesItems close count (Shape.commas gap ++ ts) found := by
  induction gap generalizing count with
  | zero => exact hitems
  | succ gap ih =>
      rw [← Nat.add_assoc, Nat.add_right_comm] at hitems
      refine eventually_succ (ih hitems) ?_
      intro fuel hitems
      have hcons : Shape.commas (gap + 1) ++ ts = .sign "," :: (Shape.commas gap ++ ts) := by
        simp [Shape.commas, List.replicate_succ]
      rw [hcons]
      simpa [Reader.itemsNext, after?] using hitems

theorem parsesItems_close {close : String} (hclose : close ≠ ",") (count : Nat)
    (rest : List Token) : ParsesItems close count (.sign close :: rest) ([count], [], rest) := by
  refine eventually_succ (.of_forall fun _ => trivial) ?_
  intro fuel _
  simp [Reader.itemsNext, after?, hclose]

/-- Whether an expression can start with a token. -/
def Token.begins : Token → Bool
  | operand _ => true
  | type _ => false
  | sign s => s ∈ ["(", "[", "new"] ++ prefixOperators

theorem parsesItems_cons {close : String} (hclose : close = ")" ∨ close = "]") {e : Expr}
    {t : Token} {ts rest : List Token} (ht : t.begins = true)
    (he : Parses (.level .assignment) (t :: ts) (e, rest)) {gaps : List Nat}
    {items : List Expr} {rest' : List Token}
    (hitems : ParsesItems close 0 rest (gaps, items, rest')) (count : Nat) :
    ParsesItems close count (t :: ts) (count :: gaps, e :: items, rest') := by
  have hcomma : after? "," (t :: ts) = none := by
    cases t with
    | operand o => rfl
    | type n => rfl
    | sign s =>
        have hne : s ≠ "," := by rintro rfl; exact absurd ht (by decide)
        simp [after?, hne]
  have hend : after? close (t :: ts) = none := by
    cases t with
    | operand o => rfl
    | type n => rfl
    | sign s =>
        have hne : s ≠ close := by
          rintro rfl
          obtain rfl | rfl := hclose <;> exact absurd ht (by decide)
        simp [after?, hne]
  refine eventually_succ (Eventually.and he hitems) ?_
  rintro fuel ⟨he, hitems⟩
  simp [Reader.itemsNext, hcomma, hend, he, hitems]

theorem Shape.length_listSeparators (opening : List Token) (close : String) (gaps : List Nat) :
    (listSeparators opening close gaps).length = gaps.length := by
  induction gaps generalizing opening with
  | nil => rfl
  | cons gap gaps ih =>
      cases gaps with
      | nil => rfl
      | cons gap' gaps =>
          rw [listSeparators, List.length_cons, ih, List.length_cons (a := gap)]
          exact List.cons_ne_nil _ _

/-- A shape starts with a part, or with a token that an expression can start with. -/
theorem Shape.separators_cases {shape : Shape} (hknown : shape.isKnown = true)
    (hne : shape.separators ≠ []) :
    (∃ s ss, shape.separators = [] :: s :: ss) ∨
      ∃ t ts ss, shape.separators = (t :: ts) :: ss ∧ t.begins = true := by
  cases shape with
  | paren => exact Or.inr ⟨_, _, _, rfl, rfl⟩
  | list gaps =>
      cases gaps with
      | nil => exact absurd rfl hne
      | cons gap gaps => cases gaps <;> exact Or.inr ⟨_, _, _, rfl, rfl⟩
  | prefixed op =>
      have hop : op ∈ prefixOperators := of_decide_eq_true hknown
      exact Or.inr ⟨_, _, _, rfl, decide_eq_true (List.mem_append_right _ hop)⟩
  | creation types gaps =>
      cases gaps <;> exact Or.inr ⟨_, _, _, rfl, rfl⟩
  | call optional types gaps =>
      cases gaps with
      | nil => simp [isKnown] at hknown
      | cons gap gaps => cases gaps <;> exact Or.inl ⟨_, _, rfl⟩
  | _ => exact Or.inl ⟨_, _, rfl⟩

theorem Expr.Grammatical.exists_tokens_eq_cons {e : Expr} (he : e.Grammatical) :
    ∃ t ts, e.tokens = t :: ts ∧ t.begins = true := by
  induction he with
  | operand o => exact ⟨_, _, rfl, rfl⟩
  | @build shape parts hfits hparts ih =>
      have hlength := hfits.length
      have hne : shape.separators ≠ [] := by
        rintro hnil
        simp [hnil] at hlength
      rw [tokens_build]
      rcases shape.separators_cases hfits.known hne with ⟨s, ss, heq⟩ | ⟨t, ts, ss, heq, ht⟩
      · -- The first token is that of the first part.
        cases parts with
        | nil => simp [heq] at hlength
        | cons l ls =>
            obtain ⟨t, ts, htokens, ht⟩ := ih l List.mem_cons_self
            simp only [heq, List.map_cons, interleave, htokens]
            exact ⟨t, _, rfl, ht⟩
      · rw [heq]
        cases parts <;> exact ⟨t, _, rfl, ht⟩

/-- The tokens after an item of a list do not continue it. -/
theorem ends_items {close : String} (hclose : close = ")" ∨ close = "]") {gap : Nat}
    {gaps : List Nat} (hgap : gaps = [] ∨ 0 < gap) (parts : List (List Token)) (rest : List Token)
    (least : Precedence) :
    Ends least (interleave (Shape.listSeparators [] close (gap :: gaps)) parts ++ rest) := by
  have hcons : ∃ s ts, interleave (Shape.listSeparators [] close (gap :: gaps)) parts ++ rest =
      .sign s :: ts ∧ (s = close ∨ s = ",") := by
    cases gap with
    | zero =>
        obtain rfl : gaps = [] := by simpa using hgap
        cases parts <;> exact ⟨close, _, rfl, Or.inl rfl⟩
    | succ gap => cases gaps <;> cases parts <;> exact ⟨",", _, rfl, Or.inr rfl⟩
  obtain ⟨s, ts, heq, hs⟩ := hcons
  rw [heq]
  apply ends_cons
  obtain rfl | rfl := hs
  · obtain rfl | rfl := hclose <;> decide
  · decide

/-- The items of a list are read back, with the commas between them. -/
theorem parsesItems_items {close : String} (hclose : close = ")" ∨ close = "]")
    {items : List Expr} (hitems : ∀ e ∈ items, e.Grammatical ∧ e.ReadsBack ∧ .assignment ≤ e.level)
    {gap : Nat} {gaps : List Nat} (hlength : gaps.length = items.length)
    (hgaps : gaps.dropLast.all (0 < ·) = true) (rest : List Token) :
    ParsesItems close 0
      (interleave (Shape.listSeparators [] close (gap :: gaps)) (items.map Expr.tokens) ++ rest)
      (gap :: gaps, items, rest) := by
  induction items generalizing gap gaps with
  | nil =>
      obtain rfl : gaps = [] := List.length_eq_zero_iff.mp hlength
      have hne : close ≠ "," := by obtain rfl | rfl := hclose <;> decide
      rw [List.map_nil, Shape.listSeparators, interleave, List.nil_append, List.append_assoc,
        List.singleton_append]
      apply parsesItems_commas
      rw [Nat.zero_add]
      exact parsesItems_close hne gap rest
  | cons e items ih =>
      match gaps, hlength with
      | gap' :: gaps, hlength =>
          obtain ⟨hgrammatical, hreads, hlevel⟩ := hitems e List.mem_cons_self
          have hgap' : gaps = [] ∨ 0 < gap' := by
            cases gaps with
            | nil => exact Or.inl rfl
            | cons gap'' gaps =>
                right
                simpa using (List.all_eq_true.mp hgaps) gap' (by simp)
          have hrest : gaps.dropLast.all (0 < ·) = true := by
            cases gaps with
            | nil => rfl
            | cons gap'' gaps => simp_all
          have hends := ends_items hclose hgap' (items.map Expr.tokens) rest .assignment
          have hadmits : (Floor.level .assignment).Admits e := hlevel
          have hparse := hreads.parses hadmits hends
          have hmore : ParsesItems close 0 _ (gap' :: gaps, items, rest) :=
            ih (fun e he => hitems e (List.mem_cons_of_mem _ he)) (by simpa using hlength) hrest
          obtain ⟨t, ts, htokens, ht⟩ := hgrammatical.exists_tokens_eq_cons
          rw [htokens, List.cons_append] at hparse
          rw [List.map_cons, Shape.listSeparators, interleave, List.nil_append, List.append_assoc,
            List.append_assoc, htokens, List.cons_append]
          · apply parsesItems_commas
            rw [Nat.zero_add]
            exact parsesItems_cons hclose ht hparse hmore gap
          · exact List.cons_ne_nil _ _

theorem parsesItems_gaps {close : String} (hclose : close = ")" ∨ close = "]")
    {items : List Expr} (hitems : ∀ e ∈ items, e.Grammatical ∧ e.ReadsBack ∧ .assignment ≤ e.level)
    {gaps : List Nat} (hlength : gaps.length = items.length + 1)
    (hgaps : gaps.tail.dropLast.all (0 < ·) = true) (rest : List Token) :
    ParsesItems close 0
      (interleave (Shape.listSeparators [] close gaps) (items.map Expr.tokens) ++ rest)
      (gaps, items, rest) := by
  match gaps, hlength with
  | gap :: gaps, hlength =>
      exact parsesItems_items hclose hitems (Nat.succ.inj hlength) hgaps rest

/-! ## Every shape is read back -/

namespace Expr

theorem readsBack_operand (o : Operand) : (Expr.operand o).ReadsBack := by
  intro floor rest found _ _ hextends
  exact parses_operand hextends

theorem readsBack_paren {e : Expr} (he : e.ReadsBack) : (build .paren [e]).ReadsBack := by
  intro floor rest found _ _ hextends
  have hparses : Parses (.level .comma) (e.tokens ++ .sign ")" :: rest) _ :=
    he.parses (Nat.zero_le _) (ends_cons (by decide) _ _)
  simpa [tokens_build, interleave, Shape.separators] using parses_paren hparses hextends

theorem readsBack_prefixed {op : String} {e : Expr} (hfits : (Shape.prefixed op).Fits [e])
    (he : e.ReadsBack) : (build (.prefixed op) [e]).ReadsBack := by
  intro floor rest found _ hfollows hextends
  have hparses : Parses (.level .unary) (e.tokens ++ rest) (e, rest) :=
    he.parses (hfits.takes_getElem (i := 0) rfl).1 (hfollows.ends hfits.known rfl)
  simpa [tokens_build, interleave, Shape.separators] using
    parses_prefixed (of_decide_eq_true hfits.known) hparses hextends

theorem readsBack_postfixed {op : String} {e : Expr} (hfits : (Shape.postfixed op).Fits [e])
    (he : e.ReadsBack) : (build (.postfixed op) [e]).ReadsBack := by
  intro floor rest found hadmits _ hextends
  obtain ⟨hparses, hgo⟩ := he.parses_joint hfits.known rfl (hfits.takes_getElem (i := 0) rfl)
    hadmits rest
  have hop := extends_postfixed (of_decide_eq_true hfits.known) hgo hextends
  simpa [tokens_build, interleave, Shape.separators] using hparses hop

theorem readsBack_property {optional : Bool} {name : Operand} {e : Expr}
    (hfits : (Shape.property optional name).Fits [e]) (he : e.ReadsBack) :
    (build (.property optional name) [e]).ReadsBack := by
  intro floor rest found hadmits _ hextends
  obtain ⟨hparses, hgo⟩ := he.parses_joint hfits.known rfl (hfits.takes_getElem (i := 0) rfl)
    hadmits (.operand name :: rest)
  have hlink : Extends floor e
      (.sign (if optional then "?." else ".") :: .operand name :: rest) found := by
    cases optional with
    | false => exact extends_dot hgo (links_property hextends)
    | true => exact extends_question hgo (links_property hextends)
  simpa [tokens_build, interleave, Shape.separators] using hparses hlink

theorem readsBack_index {optional : Bool} {e i : Expr} (hfits : (Shape.index optional).Fits [e, i])
    (he : e.ReadsBack) (hi : i.ReadsBack) : (build (.index optional) [e, i]).ReadsBack := by
  intro floor rest found hadmits _ hextends
  have hindex : Parses (.level .comma) (i.tokens ++ .sign "]" :: rest) _ :=
    hi.parses (Nat.zero_le _) (ends_cons (by decide) _ _)
  have hparses := he.parses_link hfits.known (Or.inl rfl) rfl (hfits.takes_getElem (i := 0) rfl)
    hadmits (links_index hindex hextends)
  simpa [tokens_build, interleave, Shape.separators] using hparses

theorem readsBack_assertion {e : Expr} (hfits : Shape.assertion.Fits [e]) (he : e.ReadsBack) :
    (build .assertion [e]).ReadsBack := by
  intro floor rest found hadmits _ hextends
  obtain ⟨hparses, hgo⟩ := he.parses_joint hfits.known rfl (hfits.takes_getElem (i := 0) rfl)
    hadmits rest
  simpa [tokens_build, interleave, Shape.separators] using
    hparses (extends_assertion hgo hextends)

theorem readsBack_binary {op : String} {e r : Expr} (hfits : (Shape.binary op).Fits [e, r])
    (he : e.ReadsBack) (hr : r.ReadsBack) : (build (.binary op) [e, r]).ReadsBack := by
  intro floor rest found hadmits hfollows hextends
  obtain ⟨production, hop⟩ := Option.isSome_iff_exists.mp hfits.known
  obtain ⟨hparses, hgo⟩ := he.parses_joint hfits.known rfl (hfits.takes_getElem (i := 0) rfl)
    hadmits (r.tokens ++ rest)
  have hright := hr.parses (hfits.takes_getElem (i := 1) rfl).1 (hfollows.ends hfits.known rfl)
  simpa [tokens_build, interleave, Shape.separators] using
    hparses (extends_binary (mem_of_lookup hop) hright hgo hextends)

theorem readsBack_cast {word : String} {type : Node} {e : Expr}
    (hfits : (Shape.cast word type).Fits [e]) (he : e.ReadsBack) :
    (build (.cast word type) [e]).ReadsBack := by
  intro floor rest found hadmits _ hextends
  have hword : word = "as" ∨ word = "satisfies" := by simpa [Shape.isKnown] using hfits.known
  obtain ⟨hparses, hgo⟩ := he.parses_joint hfits.known rfl (hfits.takes_getElem (i := 0) rfl)
    hadmits (.type type :: rest)
  simpa [tokens_build, interleave, Shape.separators] using
    hparses (extends_cast hword hgo hextends)

theorem readsBack_choice {e yes no : Expr} (hfits : Shape.choice.Fits [e, yes, no])
    (he : e.ReadsBack) (hyes : yes.ReadsBack) (hno : no.ReadsBack) :
    (build .choice [e, yes, no]).ReadsBack := by
  intro floor rest found hadmits hfollows hextends
  obtain ⟨hparses, hgo⟩ := he.parses_joint hfits.known rfl (hfits.takes_getElem (i := 0) rfl)
    hadmits (yes.tokens ++ .sign ":" :: (no.tokens ++ rest))
  have hfirst : Parses (.level .assignment) (yes.tokens ++ .sign ":" :: (no.tokens ++ rest)) _ :=
    hyes.parses (hfits.takes_getElem (i := 1) rfl).1 (ends_cons (by decide) _ _)
  have hsecond : Parses (.level .assignment) (no.tokens ++ rest) _ :=
    hno.parses (hfits.takes_getElem (i := 2) rfl).1 (hfollows.ends hfits.known rfl)
  simpa [tokens_build, interleave, Shape.separators] using
    hparses (extends_choice hfirst hsecond hgo hextends)

theorem readsBack_list {gaps : List Nat} {items : List Expr} (hfits : (Shape.list gaps).Fits items)
    (hitems : ∀ e ∈ items, e.Grammatical ∧ e.ReadsBack) : (build (.list gaps) items).ReadsBack := by
  intro floor rest found _ _ hextends
  have hlength : gaps.length = items.length + 1 := by
    rw [← Shape.length_listSeparators [.sign "["] "]" gaps]
    exact hfits.length
  have hlevel : ∀ e ∈ items, .assignment ≤ e.level := by
    intro e he
    obtain ⟨i, hi⟩ := List.mem_iff_getElem?.mp he
    exact (hfits.takes_getElem hi).1
  have hparses := parsesItems_gaps (Or.inr rfl)
    (fun e he => ⟨(hitems e he).1, (hitems e he).2, hlevel e he⟩) hlength hfits.known rest
  have hne : gaps ≠ [] := List.ne_nil_of_length_eq_add_one hlength
  rw [tokens_build, Shape.separators, interleave_listSeparators _ _ hne]
  exact parses_list hparses hextends

/-- The arguments of a call or of `new` are read back. -/
theorem parsesItems_arguments {shape : Shape} {gaps : List Nat} {e : Expr} {items : List Expr}
    (hshape : (∃ optional types, shape = .call optional types gaps) ∨
      ∃ types, shape = .creation types (some gaps))
    (hfits : shape.Fits (e :: items)) (hitems : ∀ e ∈ items, e.Grammatical ∧ e.ReadsBack)
    (rest : List Token) :
    gaps ≠ [] ∧ ParsesItems ")" 0
      (interleave (Shape.listSeparators [] ")" gaps) (items.map Expr.tokens) ++ rest)
      (gaps, items, rest) := by
  have hlength : gaps.length = items.length + 1 := by
    have hlength := hfits.length
    rcases hshape with ⟨optional, types, rfl⟩ | ⟨types, rfl⟩ <;>
      simpa [Shape.separators, Shape.length_listSeparators] using hlength
  have hgaps : gaps.tail.dropLast.all (0 < ·) = true := by
    have hknown : gaps.tail.dropLast.all (· == 1) = true := by
      have hknown := hfits.known
      rcases hshape with ⟨optional, types, rfl⟩ | ⟨types, rfl⟩ <;>
        exact (Bool.and_eq_true_iff.mp (Bool.and_eq_true_iff.mp hknown).1).2
    rw [List.all_eq_true] at hknown ⊢
    intro gap hgap
    have hone : gap = 1 := by simpa using hknown gap hgap
    simp [hone]
  have hlevel : ∀ e ∈ items, .assignment ≤ e.level := by
    intro e he
    obtain ⟨i, hi⟩ := List.mem_iff_getElem?.mp he
    have htakes := hfits.takes_getElem (i := i + 1) hi
    rcases hshape with ⟨optional, types, rfl⟩ | ⟨types, rfl⟩ <;> exact htakes.1
  exact ⟨List.ne_nil_of_length_eq_add_one hlength, parsesItems_gaps (Or.inl rfl)
    (fun e he => ⟨(hitems e he).1, (hitems e he).2, hlevel e he⟩) hlength hgaps rest⟩

theorem readsBack_call {optional : Bool} {types : Option Node} {gaps : List Nat} {e : Expr}
    {items : List Expr} (hfits : (Shape.call optional types gaps).Fits (e :: items))
    (he : e.ReadsBack) (hitems : ∀ e ∈ items, e.Grammatical ∧ e.ReadsBack) :
    (build (.call optional types gaps) (e :: items)).ReadsBack := by
  intro floor rest found hadmits _ hextends
  obtain ⟨hne, hparses⟩ := parsesItems_arguments (Or.inl ⟨optional, types, rfl⟩) hfits hitems rest
  rw [tokens_build, Shape.separators, List.map_cons, interleave, interleave_listSeparators _ _ hne]
  have htakes := hfits.takes_getElem (i := 0) rfl
  have hlinks := links_call hparses hextends
  cases types with
  | none =>
      have hlink := he.parses_link hfits.known (Or.inr (Or.inl rfl)) rfl htakes hadmits hlinks
      simpa [Shape.typeTokens] using hlink
  | some n =>
      have hlink := he.parses_link hfits.known (Or.inr (Or.inr ⟨n, rfl⟩)) rfl htakes hadmits hlinks
      simpa [Shape.typeTokens] using hlink

/-- A target is read up to type arguments or arguments, which `new` takes. -/
theorem ReadsBack.parses_target {e : Expr} (he : e.ReadsBack) (htarget : e.isTarget = true)
    {t : Token} (ht : t = .sign "(" ∨ ∃ n, t = .type n) (ts : List Token) :
    Parses .target (e.tokens ++ t :: ts) (e, t :: ts) := by
  have hextension : t.extension? = some (.member, .member) := by
    obtain rfl | ⟨n, rfl⟩ := ht <;> rfl
  have hstop : Floor.target.continues t e.level = false := by
    obtain rfl | ⟨n, rfl⟩ := ht <;> rfl
  have hfollows := follows_cons hextension (member_le_level_of_isTarget htarget) ts
  exact he .target _ _ (Or.inl htarget) hfollows (extends_stop ts hstop)

theorem isTarget_of_takes {e : Expr} {types : Option Node} {gaps : Option (List Nat)}
    (htakes : (Shape.creation types gaps).Takes 0 e) (hsome : types.isSome ∨ gaps.isSome) :
    e.isTarget = true := by
  rcases htakes.1 with htarget | hnew
  · exact htarget
  · have hexcluded : Precedence.leftHandSide ∈ (Shape.creation types gaps).excluded 0 := by
      cases types <;> cases gaps <;> simp_all [Shape.excluded]
    exact absurd (hnew ▸ hexcluded) htakes.2

/-- What does not continue a member expression starts with neither type arguments nor
arguments. -/
theorem split_of_ends {rest : List Token} (hends : Ends .member rest) :
    splitTypes rest = (none, rest) ∧ after? "(" rest = none := by
  match rest, hends with
  | [], _ => exact ⟨rfl, rfl⟩
  | .operand o :: _, _ => exact ⟨rfl, rfl⟩
  | .type n :: _, hends => exact absurd (hends _ rfl _ rfl) (by decide)
  | .sign s :: _, hends =>
      refine ⟨rfl, if_neg ?_⟩
      rintro rfl
      exact absurd (hends _ rfl _ rfl) (by decide)

theorem readsBack_creation_none {types : Option Node} {e : Expr}
    (hfits : (Shape.creation types none).Fits [e]) (he : e.ReadsBack) :
    (build (.creation types none) [e]).ReadsBack := by
  intro floor rest found _ hfollows hextends
  have hends : Ends .member rest := hfollows.ends hfits.known rfl
  obtain ⟨hsplit, hafter⟩ := split_of_ends hends
  have htakes := hfits.takes_getElem (i := 0) rfl
  cases types with
  | none =>
      have hparses : Parses .target (e.tokens ++ rest) _ := he.parses htakes.1 hends
      simpa [tokens_build, interleave, Shape.separators, Shape.typeTokens] using
        parses_creation_none hparses hsplit hafter hextends
  | some n =>
      have htarget := isTarget_of_takes htakes (Or.inl rfl)
      have hparses := he.parses_target htarget (Or.inr ⟨n, rfl⟩) rest
      simpa [tokens_build, interleave, Shape.separators, Shape.typeTokens] using
        parses_creation_none hparses rfl hafter hextends

theorem readsBack_creation_some {types : Option Node} {gaps : List Nat} {e : Expr}
    {items : List Expr} (hfits : (Shape.creation types (some gaps)).Fits (e :: items))
    (he : e.ReadsBack) (hitems : ∀ e ∈ items, e.Grammatical ∧ e.ReadsBack) :
    (build (.creation types (some gaps)) (e :: items)).ReadsBack := by
  intro floor rest found _ _ hextends
  obtain ⟨hne, hparses⟩ := parsesItems_arguments (Or.inr ⟨types, rfl⟩) hfits hitems rest
  have htarget := isTarget_of_takes (hfits.takes_getElem (i := 0) rfl) (Or.inr rfl)
  rw [tokens_build, Shape.separators, List.map_cons, interleave, interleave_listSeparators _ _ hne]
  cases types with
  | none =>
      have hobject := he.parses_target htarget (Or.inl rfl)
        (interleave (Shape.listSeparators [] ")" gaps) (items.map Expr.tokens) ++ rest)
      simpa [Shape.typeTokens] using parses_creation_some hobject rfl hparses hextends
  | some n =>
      have hobject := he.parses_target htarget (Or.inr ⟨n, rfl⟩)
        (.sign "(" ::
          (interleave (Shape.listSeparators [] ")" gaps) (items.map Expr.tokens) ++ rest))
      simpa [Shape.typeTokens] using parses_creation_some hobject rfl hparses hextends

theorem exists_parts_eq_cons {shape : Shape} {gaps : List Nat} {parts : List Expr}
    (hshape : (∃ optional types, shape = .call optional types gaps) ∨
      ∃ types, shape = .creation types (some gaps))
    (hfits : shape.Fits parts) : ∃ e items, parts = e :: items := by
  apply List.exists_cons_of_ne_nil
  rintro rfl
  have hgaps : gaps = [] := by
    have hlength := hfits.length
    rcases hshape with ⟨optional, types, rfl⟩ | ⟨types, rfl⟩ <;>
      simpa [Shape.separators, ← List.length_eq_zero_iff, Shape.length_listSeparators] using hlength
  have hknown := hfits.known
  rcases hshape with ⟨optional, types, rfl⟩ | ⟨types, rfl⟩ <;> simp [hgaps, Shape.isKnown] at hknown

/-- Reading the tokens of an expression of the grammar gets to the expression. -/
theorem Grammatical.readsBack {e : Expr} (he : e.Grammatical) : e.ReadsBack := by
  induction he with
  | operand o => exact readsBack_operand o
  | @build shape parts hfits hparts ih =>
      -- The separators of a shape tell how many parts it has.
      have hone : shape.separators.length = 2 → ∃ e, parts = [e] := by
        intro htwo
        exact List.length_eq_one_iff.mp (by simpa [htwo] using hfits.length.symm)
      have htwo : shape.separators.length = 3 → ∃ e e', parts = [e, e'] := by
        intro hthree
        exact List.length_eq_two.mp (by simpa [hthree] using hfits.length.symm)
      have htail : ∀ {e : Expr} {items : List Expr}, parts = e :: items →
          ∀ item ∈ items, item.Grammatical ∧ item.ReadsBack := by
        rintro e items rfl item hitem
        have hmem := List.mem_cons_of_mem e hitem
        exact ⟨hparts item hmem, ih item hmem⟩
      cases shape with
      | paren =>
          obtain ⟨e, rfl⟩ := hone rfl
          exact readsBack_paren (ih e (by simp))
      | list gaps => exact readsBack_list hfits fun e he => ⟨hparts e he, ih e he⟩
      | prefixed op =>
          obtain ⟨e, rfl⟩ := hone rfl
          exact readsBack_prefixed hfits (ih e (by simp))
      | postfixed op =>
          obtain ⟨e, rfl⟩ := hone rfl
          exact readsBack_postfixed hfits (ih e (by simp))
      | property optional name =>
          obtain ⟨e, rfl⟩ := hone rfl
          exact readsBack_property hfits (ih e (by simp))
      | index optional =>
          obtain ⟨e, i, rfl⟩ := htwo rfl
          exact readsBack_index hfits (ih e (by simp)) (ih i (by simp))
      | call optional types gaps =>
          obtain ⟨e, items, rfl⟩ := exists_parts_eq_cons (Or.inl ⟨optional, types, rfl⟩) hfits
          exact readsBack_call hfits (ih e (by simp)) (htail rfl)
      | assertion =>
          obtain ⟨e, rfl⟩ := hone rfl
          exact readsBack_assertion hfits (ih e (by simp))
      | creation types gaps =>
          cases gaps with
          | none =>
              obtain ⟨e, rfl⟩ := hone rfl
              exact readsBack_creation_none hfits (ih e (by simp))
          | some gaps =>
              obtain ⟨e, items, rfl⟩ := exists_parts_eq_cons (Or.inr ⟨types, rfl⟩) hfits
              exact readsBack_creation_some hfits (ih e (by simp)) (htail rfl)
      | binary op =>
          obtain ⟨e, r, rfl⟩ := htwo rfl
          exact readsBack_binary hfits (ih e (by simp)) (ih r (by simp))
      | cast word type =>
          obtain ⟨e, rfl⟩ := hone rfl
          exact readsBack_cast hfits (ih e (by simp))
      | choice =>
          have hthree : parts.length = 3 := Nat.succ.inj hfits.length.symm
          obtain ⟨e, yes, no, rfl⟩ := List.length_eq_three.mp hthree
          exact readsBack_choice hfits (ih e (by simp)) (ih yes (by simp)) (ih no (by simp))

/-- No two expressions of the grammar have the same tokens. -/
theorem Grammatical.eq_of_tokens_eq {e e' : Expr} (he : e.Grammatical) (he' : e'.Grammatical)
    (htokens : e.tokens = e'.tokens) : e = e' := by
  have hparses : ∀ {e : Expr}, e.Grammatical → Parses (.level .comma) (e.tokens ++ []) (e, []) := by
    intro e he
    exact he.readsBack.parses (Nat.zero_le _) (ends_nil _)
  have hfirst := hparses he
  rw [htokens] at hfirst
  exact congrArg Prod.fst (hfirst.unique (hparses he'))

end Expr

end CallMigration
