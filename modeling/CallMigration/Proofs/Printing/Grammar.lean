import CallMigration.Printing.Precedence
import Mathlib.Data.List.Basic

/-!
# The grammar of expressions

Expressions as trees over tokens, where a name, a literal and a node of the file are one
token each. A tree is built from shapes, such as an access or a binary operator, and the
grammar says of each shape how strong its parts have to be and which of them it takes in
parentheses only.
-/

namespace CallMigration

/-! ## Tokens -/

/-- An expression that is read as one token. -/
inductive Operand where
  | node (n : Node)
  | identifier (name : String)
  | literal (value : Literal)
deriving Inhabited

/-- A unit of a written expression. -/
inductive Token where
  | operand (o : Operand)
  /-- A type, or a list of type arguments. -/
  | type (n : Node)
  /-- Punctuation, an operator or a keyword. -/
  | sign (text : String)
deriving Inhabited

/-- Whether a node is a template with a tag in front of it. -/
def Node.isTagged (n : Node) : Bool :=
  n.kind == "call_expression" && ((n.field? "arguments").any fun a => a.kind != "arguments")

namespace Operand

/-- The level of an operand. A negative number is a unary expression. -/
def level : Operand → Precedence
  | node n => .ofNode n
  | identifier _ => .primary
  | literal value => if value.isNegative then .unary else .primary

/-- Whether the operand can be what `new` creates from, as no call can. -/
def isTarget : Operand → Bool
  | node n => Precedence.ofNode n = .primary || n.isTagged
  | identifier _ => true
  | literal value => !value.isNegative

end Operand

/-! ## Operators -/

/-- How a binary expression is derived: its own level, and the weakest levels of what
stands to the left and to the right of its operator. -/
structure Production where
  own : Precedence
  left : Precedence
  right : Precedence
deriving DecidableEq

/-- The binary operators. All but `**` group to the left. -/
def productions : List (String × Production) :=
  [("??", ⟨.coalesce, .coalesce, .bitOr⟩),
    ("||", ⟨.disjunction, .disjunction, .conjunction⟩),
    ("&&", ⟨.conjunction, .conjunction, .bitOr⟩),
    ("|", ⟨.bitOr, .bitOr, .bitXor⟩),
    ("^", ⟨.bitXor, .bitXor, .bitAnd⟩),
    ("&", ⟨.bitAnd, .bitAnd, .equality⟩),
    ("==", ⟨.equality, .equality, .relational⟩),
    ("!=", ⟨.equality, .equality, .relational⟩),
    ("===", ⟨.equality, .equality, .relational⟩),
    ("!==", ⟨.equality, .equality, .relational⟩),
    ("<", ⟨.relational, .relational, .shift⟩),
    (">", ⟨.relational, .relational, .shift⟩),
    ("<=", ⟨.relational, .relational, .shift⟩),
    (">=", ⟨.relational, .relational, .shift⟩),
    ("instanceof", ⟨.relational, .relational, .shift⟩),
    ("in", ⟨.relational, .relational, .shift⟩),
    ("<<", ⟨.shift, .shift, .additive⟩),
    (">>", ⟨.shift, .shift, .additive⟩),
    (">>>", ⟨.shift, .shift, .additive⟩),
    ("+", ⟨.additive, .additive, .multiplicative⟩),
    ("-", ⟨.additive, .additive, .multiplicative⟩),
    ("*", ⟨.multiplicative, .multiplicative, .exponentiation⟩),
    ("/", ⟨.multiplicative, .multiplicative, .exponentiation⟩),
    ("%", ⟨.multiplicative, .multiplicative, .exponentiation⟩),
    ("**", ⟨.exponentiation, .update, .exponentiation⟩)]

/-- The production of a binary operator. -/
def production? (op : String) : Option Production := productions.lookup op

/-- The operators that stand before their only operand. -/
def prefixOperators : List String :=
  ["+", "-", "~", "!", "typeof", "void", "delete", "await", "++", "--"]

/-- The operators that count up or down, before or after their operand. -/
def updateOperators : List String := ["++", "--"]

/-! ## Trees -/

/-- A way to make an expression from parts. The gaps of a list are the numbers of commas
before, between and after its items. -/
inductive Shape where
  | paren
  | list (gaps : List Nat)
  | prefixed (op : String)
  | postfixed (op : String)
  | property (optional : Bool) (name : Operand)
  | index (optional : Bool)
  | call (optional : Bool) (types : Option Node) (gaps : List Nat)
  /-- `!` after an operand. -/
  | assertion
  /-- `new`, with or without arguments. -/
  | creation (types : Option Node) (gaps : Option (List Nat))
  | binary (op : String)
  /-- `as` or `satisfies`, and the type. -/
  | cast (word : String) (type : Node)
  | choice
deriving Inhabited

/-- An expression as the grammar sees it. -/
inductive Expr where
  | operand (o : Operand)
  | build (shape : Shape) (parts : List Expr)
deriving Inhabited

/-- Write parts between separators, the first separator before the first part. -/
def interleave : List (List Token) → List (List Token) → List Token
  | [], _ => []
  | s :: _, [] => s
  | s :: ss, p :: ps => s ++ (p ++ interleave ss ps)

namespace Shape

def commas (count : Nat) : List Token := List.replicate count (.sign ",")

/-- What is written before, between and after the items of a list. -/
def listSeparators (opening : List Token) (close : String) : List Nat → List (List Token)
  | [] => []
  | [gap] => [opening ++ commas gap ++ [.sign close]]
  | gap :: gaps => (opening ++ commas gap) :: listSeparators [] close gaps

/-- The token of a link, if it has one. -/
def optionalSign (optional : Bool) : List Token := if optional then [.sign "?."] else []

def typeTokens (types : Option Node) : List Token := types.toList.map .type

/-- What is written before, between and after the parts. -/
def separators : Shape → List (List Token)
  | paren => [[.sign "("], [.sign ")"]]
  | list gaps => listSeparators [.sign "["] "]" gaps
  | prefixed op => [[.sign op], []]
  | postfixed op => [[], [.sign op]]
  | property optional name => [[], [.sign (if optional then "?." else "."), .operand name]]
  | index optional => [[], optionalSign optional ++ [.sign "["], [.sign "]"]]
  | call optional types gaps =>
      [] :: listSeparators (optionalSign optional ++ typeTokens types ++ [.sign "("]) ")" gaps
  | assertion => [[], [.sign "!"]]
  | creation types none => [[.sign "new"], typeTokens types]
  | creation types (some gaps) =>
      [.sign "new"] :: listSeparators (typeTokens types ++ [.sign "("]) ")" gaps
  | binary op => [[], [.sign op], []]
  | cast word type => [[], [.sign word, .type type]]
  | choice => [[], [.sign "?"], [.sign ":"], []]

/-- The level of what is built. -/
def level : Shape → Precedence
  | paren | list _ => .primary
  | prefixed op => if op ∈ updateOperators then .update else .unary
  | postfixed _ => .update
  | property .. | index _ | call .. | assertion | creation _ (some _) => .member
  | creation _ none => .leftHandSide
  | binary op => ((production? op).map Production.own).getD .comma
  | cast .. => .relational
  | choice => .conditional

end Shape

namespace Expr

/-- The level of an expression. -/
def level : Expr → Precedence
  | operand o => o.level
  | build shape _ => shape.level

mutual

/-- The tokens of an expression, in writing order. -/
def tokens : Expr → List Token
  | operand o => [.operand o]
  | build shape parts => interleave shape.separators (tokensAll parts)

def tokensAll : List Expr → List (List Token)
  | [] => []
  | e :: es => e.tokens :: tokensAll es

end

theorem tokensAll_eq_map (es : List Expr) : tokensAll es = es.map tokens := by
  induction es with
  | nil => rfl
  | cons e es ih => rw [tokensAll, ih, List.map_cons]

theorem tokens_build (shape : Shape) (parts : List Expr) :
    (build shape parts).tokens = interleave shape.separators (parts.map tokens) := by
  rw [tokens, tokensAll_eq_map]

/-- Whether `new` can create from the expression: no call and no optional link is met on
the way down through objects. -/
def isTarget : Expr → Bool
  | operand o => o.isTarget
  | build .paren _ | build (.list _) _ | build (.creation _ (some _)) _ => true
  | build (.property false _) (e :: _) | build (.index false) (e :: _)
  | build .assertion (e :: _) => e.isTarget
  | _ => false

end Expr

/-! ## Derivations -/

/-- What a place asks of an expression: a least level, or that `new` can create from it. -/
inductive Floor where
  | level (least : Precedence)
  | target
deriving DecidableEq

/-- Whether an expression meets a floor. In the place of a target, `new` without arguments
may follow `new`. -/
def Floor.Admits : Floor → Expr → Prop
  | level least, e => least ≤ e.level
  | target, e => e.isTarget = true ∨ e.level = .leftHandSide

instance (floor : Floor) (e : Expr) : Decidable (floor.Admits e) :=
  match floor with
  | .level least => inferInstanceAs (Decidable (least ≤ e.level))
  | .target => inferInstanceAs (Decidable (e.isTarget = true ∨ e.level = .leftHandSide))

namespace Operand

/-- Whether the operand can name a property. -/
def isName : Operand → Bool
  | node n => n.kind == "property_identifier" || n.kind == "private_property_identifier"
  | identifier _ => true
  | literal _ => false

end Operand

namespace Shape

/-- Whether the signs of a shape exist. A list may have holes, a list of arguments may
not, and both may end with a comma. -/
def isKnown : Shape → Bool
  | prefixed op => op ∈ prefixOperators
  | postfixed op => op ∈ updateOperators
  | property _ name => name.isName
  | binary op => (production? op).isSome
  | cast word _ => word == "as" || word == "satisfies"
  | list gaps => gaps.tail.dropLast.all (0 < ·)
  | call _ _ gaps | creation _ (some gaps) =>
      gaps.head? == some 0 && gaps.tail.dropLast.all (· == 1) && gaps.getLast?.all (· ≤ 1)
  | _ => true

/-- What a shape asks of the part at a position. -/
def floor : Shape → Nat → Floor
  | paren, _ | index _, _ + 1 => .level .comma
  | list _, _ | call .., _ + 1 | creation .., _ + 1 | choice, _ + 1 => .level .assignment
  | prefixed _, _ => .level .unary
  | postfixed _, _ => .level .leftHandSide
  | property .., _ | assertion, _ | index _, 0 | call .., 0 => .level .member
  | creation .., 0 => .target
  | binary op, 0 => .level (((production? op).map Production.left).getD .comma)
  | binary op, _ + 1 => .level (((production? op).map Production.right).getD .comma)
  | cast .., _ => .level .relational
  | choice, 0 => .level .coalesce

/-- The levels that are taken in parentheses only, though they are strong enough: `??` is
not mixed with `||` and `&&`, and arguments belong to the innermost `new`. -/
def excluded : Shape → Nat → List Precedence
  | binary "??", _ => [.disjunction, .conjunction]
  | creation none none, _ => []
  | creation .., 0 => [.leftHandSide]
  | _, _ => []

section Binary

variable {op : String} {production : Production} (hop : production? op = some production)
include hop

theorem level_of_production? : (binary op).level = production.own := by
  rw [level, hop, Option.map_some, Option.getD_some]

theorem floor_left_of_production? : (binary op).floor 0 = .level production.left := by
  rw [floor, hop, Option.map_some, Option.getD_some]

theorem floor_right_of_production? : (binary op).floor 1 = .level production.right := by
  rw [floor, hop, Option.map_some, Option.getD_some]

end Binary

theorem excluded_binary {op : String} (hop : op ≠ "??") (position : Nat) :
    (binary op).excluded position = [] := by
  simp [excluded, hop]

/-- Whether a shape takes an expression at a position. -/
def Takes (shape : Shape) (position : Nat) (e : Expr) : Prop :=
  (shape.floor position).Admits e ∧ e.level ∉ shape.excluded position

instance (shape : Shape) (position : Nat) (e : Expr) : Decidable (shape.Takes position e) :=
  inferInstanceAs (Decidable (_ ∧ _))

/-- Whether parts can be put together in a shape. -/
structure Fits (shape : Shape) (parts : List Expr) : Prop where
  known : shape.isKnown = true
  length : shape.separators.length = parts.length + 1
  takes : ∀ part ∈ parts.zipIdx, shape.Takes part.2 part.1

instance (shape : Shape) (parts : List Expr) : Decidable (shape.Fits parts) :=
  decidable_of_iff
    (shape.isKnown = true ∧ shape.separators.length = parts.length + 1 ∧
      ∀ part ∈ parts.zipIdx, shape.Takes part.2 part.1)
    ⟨fun h => ⟨h.1, h.2.1, h.2.2⟩, fun h => ⟨h.known, h.length, h.takes⟩⟩

theorem Fits.of_getElem {shape : Shape} {parts : List Expr} (hknown : shape.isKnown = true)
    (hlength : shape.separators.length = parts.length + 1)
    (htakes : ∀ i e, parts[i]? = some e → shape.Takes i e) : shape.Fits parts :=
  ⟨hknown, hlength, fun part hpart => htakes part.2 part.1 (List.mem_zipIdx_iff_getElem?.mp hpart)⟩

theorem Fits.takes_getElem {shape : Shape} {parts : List Expr} (hfits : shape.Fits parts)
    {i : Nat} {e : Expr} (he : parts[i]? = some e) : shape.Takes i e :=
  hfits.takes (e, i) (List.mem_zipIdx_iff_getElem?.mpr he)

end Shape

namespace Expr

/-- The expressions of the grammar. -/
inductive Grammatical : Expr → Prop
  | operand (o : Operand) : Grammatical (.operand o)
  | build {shape : Shape} {parts : List Expr} (hfits : shape.Fits parts)
      (hparts : ∀ e ∈ parts, Grammatical e) : Grammatical (.build shape parts)

mutual

def decideGrammatical : (e : Expr) → Decidable e.Grammatical
  | operand o => .isTrue (.operand o)
  | build shape parts =>
      match (inferInstance : Decidable (shape.Fits parts)), decideAllGrammatical parts with
      | .isTrue hfits, .isTrue hparts => .isTrue (.build hfits hparts)
      | .isFalse hfits, _ => .isFalse fun h => hfits (by cases h; assumption)
      | _, .isFalse hparts => .isFalse fun h => hparts (by cases h; assumption)

def decideAllGrammatical : (es : List Expr) → Decidable (∀ e ∈ es, e.Grammatical)
  | [] => .isTrue (by simp)
  | e :: es =>
      match decideGrammatical e, decideAllGrammatical es with
      | .isTrue h, .isTrue hs => .isTrue (List.forall_mem_cons.mpr ⟨h, hs⟩)
      | .isFalse h, _ => .isFalse fun hall => h (hall e List.mem_cons_self)
      | _, .isFalse hs => .isFalse fun hall => hs (List.forall_mem_cons.mp hall).2

end

instance : DecidablePred Grammatical := decideGrammatical

/-! ## Parentheses -/

mutual

/-- The expression with all parentheses dropped. -/
def bare : Expr → Expr
  | operand o => operand o
  | build .paren [e] => e.bare
  | build shape parts => build shape (bareAll parts)

def bareAll : List Expr → List Expr
  | [] => []
  | e :: es => e.bare :: bareAll es

end

theorem bareAll_eq_map (es : List Expr) : bareAll es = es.map bare := by
  induction es with
  | nil => rfl
  | cons e es ih => rw [bareAll, ih, List.map_cons]

@[simp]
theorem bare_paren (e : Expr) : (build .paren [e]).bare = e.bare := by
  rw [bare]

theorem bare_build {shape : Shape} {parts : List Expr}
    (hplain : shape ≠ .paren ∨ parts.length ≠ 1) :
    (build shape parts).bare = build shape (parts.map bare) := by
  rw [bare, bareAll_eq_map]
  rintro e rfl rfl
  simp at hplain

end Expr

end CallMigration
