import CallMigration.Proofs.Decimal.Whole
import CallMigration.Proofs.Printing.Edges

/-!
# Numerals before a dot

After a numeral that has digits and underscores only, a `.` is read as its decimal point.
The test for integers keeps the integer literals and the number nodes that a fragment
accesses away from the dot. It misses a whole floating-point literal and a node that only
ends with a numeral, and it is not made at a site that is accessed itself.
-/

namespace CallMigration

/-! ## Operands that end with a numeral -/

namespace Operand

/-- Whether the text of an operand ends with a numeral of digits and underscores only. -/
def endsInNumeral : Operand → Bool
  | node n =>
      n.preorder.any fun m =>
        m.kind == "number" && m.span.stop == n.span.stop && Text.isNumeral m.text.toList
  | identifier _ => false
  | literal value =>
      value.render.toOption.any fun text => Text.isNumeral (Decimal.splitSign text.toList).2

end Operand

namespace Literal

/-- Whether a literal is within the range of its type. -/
def IsProper : Literal → Prop
  | number value => value.IsProper
  | _ => True

/-- Whether a literal is a whole number. -/
def IsWhole : Literal → Prop
  | integer _ => True
  | number value => value.IsWhole
  | _ => False

/-- A literal is written as a numeral just when it is a whole number. -/
theorem endsInNumeral_iff {value : Literal} (hvalue : value.IsProper) :
    (Operand.literal value).endsInNumeral = true ↔ value.IsWhole := by
  cases value with
  | boolean value => cases value <;> simp [IsWhole] <;> decide
  | integer value =>
      refine iff_of_true ?_ trivial
      cases value with
      | ofNat n => exact Binary64.isNumeral_unsigned_toString n
      | negSucc n =>
          change Text.isNumeral (Decimal.splitSign ("-" ++ (n + 1).repr).toList).2 = true
          simpa [Decimal.splitSign, Nat.repr_eq_ofList_toDigits] using
            Text.isNumeral_toDigits (n + 1)
  | number value =>
      cases hfinite : value.isFinite with
      | true =>
          rw [IsWhole, ← Binary64.isNumeral_render_iff hvalue]
          simp [Operand.endsInNumeral, render, hfinite, Except.toOption]
      | false =>
          refine iff_of_false ?_ ?_
          · simp [Operand.endsInNumeral, render, hfinite, Except.toOption]
          · cases value <;> simp_all [Binary64.isFinite, IsWhole, Binary64.IsWhole]
  | text value =>
      refine iff_of_false ?_ id
      simp [Operand.endsInNumeral, render, Except.toOption, Text.literal, Decimal.splitSign,
        Text.isNumeral]

end Literal

/-! ## Tokens without a numeral before a dot -/

/-- Whether a token ends with a numeral of digits and underscores only. -/
def Token.endsInNumeral : Token → Bool
  | operand o => o.endsInNumeral
  | _ => false

/-- No numeral stands directly before a dot. -/
def Undotted (ts : List Token) : Prop :=
  ts.IsChain fun t u => t.endsInNumeral = true → u ≠ .sign "."

namespace Undotted

variable {ts us : List Token}

theorem append_sign_iff {s : String} (hs : s ≠ ".") :
    Undotted (ts ++ .sign s :: us) ↔ Undotted ts ∧ Undotted us := by
  unfold Undotted
  rw [List.isChain_append, List.isChain_cons]
  refine ⟨fun h => ⟨h.1, h.2.1.2⟩, fun h => ⟨h.1, ⟨nofun, h.2⟩, ?_⟩⟩
  rintro t - u hu -
  cases hu
  simpa using hs

theorem append_dot_iff :
    Undotted (ts ++ .sign "." :: us) ↔
      (Undotted ts ∧ Undotted us) ∧ ts.getLast?.any Token.endsInNumeral = false := by
  unfold Undotted
  rw [List.isChain_append, List.isChain_cons]
  constructor
  · rintro ⟨hts, ⟨-, hus⟩, hdot⟩
    refine ⟨⟨hts, hus⟩, (Option.any_eq_false _ _).mpr fun t ht => ?_⟩
    simpa using hdot t ht
  · rintro ⟨⟨hts, hus⟩, hlast⟩
    refine ⟨hts, ⟨nofun, hus⟩, ?_⟩
    intro t ht u _ hnumeral
    have hfalse := (Option.any_eq_false _ _).mp hlast t ht
    simp_all

theorem enclose_iff (needed : Bool) (e : Expr) :
    Undotted (e.enclose needed).tokens ↔ Undotted e.tokens := by
  cases needed with
  | false => rfl
  | true =>
      rw [Expr.tokens_enclose, if_pos rfl, ← List.nil_append (Token.sign "(" :: _),
        append_sign_iff (by decide), append_sign_iff (by decide)]
      simp [Undotted]

theorem intercalate_iff {items : List (List Token)} :
    Undotted ([Token.sign ","].intercalate items) ↔ ∀ ts ∈ items, Undotted ts := by
  induction items with
  | nil => simp [Undotted]
  | cons ts rest ih =>
      cases rest with
      | nil => simp
      | cons us rest =>
          rw [List.intercalate_cons_cons, List.append_assoc, List.singleton_append,
            append_sign_iff (by decide), ih]
          exact List.forall_mem_cons.symm

end Undotted

namespace Fragment

/-! ## The accesses of a fragment -/

/-- Whether one fragment is a part of another, or all of it. -/
inductive Part (f : Fragment) : Fragment → Prop
  | whole : Part f f
  | object {object : Fragment} {optional : Bool} {name : String} (h : Part f object) :
      Part f (.property object optional name)
  | callee {callee : Fragment} {arguments : List Fragment} (h : Part f callee) :
      Part f (.call callee arguments)
  | argument {callee a : Fragment} {arguments : List Fragment} (ha : a ∈ arguments)
      (h : Part f a) : Part f (.call callee arguments)
  | left {left right : Fragment} {op : LogicalOperator} (h : Part f left) :
      Part f (.binary left op right)
  | right {left right : Fragment} {op : LogicalOperator} (h : Part f right) :
      Part f (.binary left op right)

/-- Whether what is written for a fragment in a place ends with a numeral. -/
def endsInNumeral (slot : Slot) (f : Fragment) : Bool :=
  (f.layout slot).tokens.getLast?.any Token.endsInNumeral

/-- Whether the object of an access is kept away from the dot: it is seen to be an integer, or
does not end with a numeral. -/
def TakesDot (object : Fragment) : Prop :=
  object.isInteger = false → object.endsInNumeral (.atLeast .member) = false

/-- All accesses of a fragment with a dot keep their object away from it. -/
def DotsTaken (f : Fragment) : Prop :=
  ∀ object name, Part (.property object false name) f → object.TakesDot

theorem dotsTaken_property {object : Fragment} {optional : Bool} {name : String} :
    (property object optional name).DotsTaken ↔
      object.DotsTaken ∧ (optional = false → object.TakesDot) := by
  constructor
  · intro h
    refine ⟨fun object' name' hpart => h object' name' (.object hpart), ?_⟩
    rintro rfl
    exact h object name .whole
  · rintro ⟨hparts, hobject⟩ object' name' hpart
    cases hpart with
    | whole => exact hobject rfl
    | object hpart => exact hparts object' name' hpart

theorem dotsTaken_call {callee : Fragment} {arguments : List Fragment} :
    (call callee arguments).DotsTaken ↔ callee.DotsTaken ∧ ∀ f ∈ arguments, f.DotsTaken := by
  constructor
  · intro h
    exact ⟨fun object name hpart => h object name (.callee hpart),
      fun f hf object name hpart => h object name (.argument hf hpart)⟩
  · rintro ⟨hcallee, harguments⟩ object name hpart
    cases hpart with
    | callee hpart => exact hcallee object name hpart
    | argument hf hpart => exact harguments _ hf object name hpart

theorem dotsTaken_binary {left right : Fragment} {op : LogicalOperator} :
    (binary left op right).DotsTaken ↔ left.DotsTaken ∧ right.DotsTaken := by
  constructor
  · intro h
    exact ⟨fun object name hpart => h object name (.left hpart),
      fun object name hpart => h object name (.right hpart)⟩
  · rintro ⟨hleft, hright⟩ object name hpart
    cases hpart with
    | left hpart => exact hleft object name hpart
    | right hpart => exact hright object name hpart

/-- An integer is written in parentheses, so that no numeral is left before its dot. -/
theorem takesDot_iff (object : Fragment) :
    ((object.layout (if object.isInteger then .any else .atLeast .member)).enclose
        object.isInteger).tokens.getLast?.any Token.endsInNumeral = false ↔ object.TakesDot := by
  unfold TakesDot endsInNumeral
  cases hinteger : object.isInteger with
  | false => simp [Expr.enclose]
  | true =>
      rw [Expr.tokens_enclose, if_pos rfl, ← List.cons_append, List.getLast?_concat]
      simp [Token.endsInNumeral]

/-- No numeral stands before a dot of a fragment when every access keeps its object away. -/
theorem undotted_body (f : Fragment) : Undotted f.body.tokens ↔ f.DotsTaken := by
  induction f using Fragment.induction with
  | node n => exact iff_of_true (List.isChain_singleton _) nofun
  | identifier name => exact iff_of_true (List.isChain_singleton _) nofun
  | literal value => exact iff_of_true (List.isChain_singleton _) nofun
  | property object optional name ih =>
      have hname : Undotted [.operand (.identifier name)] := List.isChain_singleton _
      have hobject : Undotted ((object.layout (if object.isInteger then .any
          else .atLeast .member)).enclose object.isInteger).tokens ↔ object.DotsTaken := by
        rw [Undotted.enclose_iff, layout, Undotted.enclose_iff, ih]
      rw [tokens_property, dotsTaken_property]
      cases optional with
      | true =>
          rw [if_pos (rfl : true = true), Undotted.append_sign_iff (by decide), hobject]
          simp [hname]
      | false =>
          rw [if_neg (by decide : ¬false = true), Undotted.append_dot_iff, hobject, takesDot_iff]
          simp [hname]
  | call callee arguments ihcallee iharguments =>
      have hclose : Undotted [] := List.isChain_nil
      rw [tokens_call, dotsTaken_call, Undotted.append_sign_iff (by decide),
        Undotted.append_sign_iff (by decide), layout, Undotted.enclose_iff, ihcallee,
        Undotted.intercalate_iff, List.forall_mem_map]
      refine and_congr Iff.rfl ((and_iff_left hclose).trans (forall₂_congr fun f hf => ?_))
      rw [layout, Undotted.enclose_iff, iharguments f hf]
  | binary left op right ihleft ihright =>
      rw [tokens_binary, dotsTaken_binary, Undotted.append_sign_iff (by cases op <;> decide),
        layout, layout, Undotted.enclose_iff, Undotted.enclose_iff, ihleft, ihright]

/-- In the place of an object only literals and nodes can end with a numeral, where they have
no parentheses. -/
theorem endsInNumeral_iff {slot : Slot} (hslot : .member ≤ slot.least) (f : Fragment) :
    f.endsInNumeral slot = true ↔ slot.needsParens f = false ∧
      ((∃ value, f = .literal value ∧ (Operand.literal value).endsInNumeral = true) ∨
        ∃ n, f = .node n ∧ (Operand.node n).endsInNumeral = true) := by
  unfold endsInNumeral
  rw [layout, Expr.tokens_enclose]
  cases hparens : slot.needsParens f with
  | true =>
      rw [if_pos rfl, ← List.cons_append, List.getLast?_concat]
      simp [Token.endsInNumeral]
  | false =>
      rw [if_neg (by decide)]
      cases f with
      | node n => simp [body, Expr.tokens, Token.endsInNumeral]
      | identifier name => simp [body, Expr.tokens, Token.endsInNumeral, Operand.endsInNumeral]
      | literal value => simp [body, Expr.tokens, Token.endsInNumeral]
      | property object optional name =>
          simp [tokens_property, Token.endsInNumeral, Operand.endsInNumeral]
      | call callee arguments =>
          rw [tokens_call, ← List.cons_append, ← List.append_assoc, List.getLast?_concat]
          simp [Token.endsInNumeral]
      | binary left op right =>
          -- A binary operator is too weak for the place.
          exfalso
          have hweak : op.precedence < .member := by cases op <;> decide
          have hlevel : op.precedence < slot.least := Nat.lt_of_lt_of_le hweak hslot
          simp [Slot.needsParens, precedence, hlevel] at hparens

end Fragment

/-- The dot of an access whose object the node is. -/
def Node.dotAfter (n : Node) : List Token :=
  if (Text.sliceFrom n.file.text n.span.stop).toList.head? = some '.' then [.sign "."] else []

namespace Fragment

/-- In a replacement and before a dot that follows it no numeral of digits and underscores
stands before a dot, just when the object of every access with a dot is seen to be an integer
or does not end with a numeral, and the replacement does not end with one where a dot follows.
In the place of an object only literals and nodes without parentheses can end with a numeral,
and a literal does when it is a whole number. -/
theorem print_undotted {f : Fragment} {site : Node} {text : String}
    (hprint : f.print site = .ok text) :
    let tokens := (f.layout (.ofSite site)).tokens
    spell? tokens = some text ∧
    (Undotted (tokens ++ site.dotAfter) ↔
      (∀ object name, Part (.property object false name) f → object.isInteger = false →
        object.endsInNumeral (.atLeast .member) = false) ∧
      (site.dotAfter ≠ [] → f.endsInNumeral (.ofSite site) = false)) ∧
    (∀ (slot : Slot) (g : Fragment), .member ≤ slot.least →
      (g.endsInNumeral slot = true ↔ slot.needsParens g = false ∧
        ((∃ value, g = .literal value ∧ (Operand.literal value).endsInNumeral = true) ∨
          ∃ n, g = .node n ∧ (Operand.node n).endsInNumeral = true))) ∧
    ∀ value : Literal, value.IsProper →
      ((Operand.literal value).endsInNumeral = true ↔ value.IsWhole) := by
  intro tokens
  refine ⟨spell?_layout hprint, ?_, fun slot g hslot => endsInNumeral_iff hslot g,
    fun value => Literal.endsInNumeral_iff⟩
  have htokens : Undotted tokens ↔ f.DotsTaken := by
    rw [← undotted_body]
    exact Undotted.enclose_iff _ _
  unfold Node.dotAfter
  split
  · rw [Undotted.append_dot_iff, htokens]
    simp [Undotted, DotsTaken, TakesDot, endsInNumeral, tokens]
  · rw [List.append_nil, htokens]
    simp [DotsTaken, TakesDot]

namespace Sample

/-- A call whose result is accessed. -/
def read : SourceFile where
  load := 0
  path := ⟨"a.ts"⟩
  text := "a.old(x).y;"
  dialect := .typeScript
  tree := branch "program" 0 11 []
    [branch "expression_statement" 0 11 []
      [branch "member_expression" 0 10 []
        [branch "call_expression" 0 8 ["object"]
          [branch "member_expression" 0 5 ["function"]
            [leaf "identifier" true 0 1 ["object"], leaf "." false 1 2 [],
              leaf "property_identifier" true 2 5 ["property"]],
            branch "arguments" 5 8 ["arguments"]
              [leaf "(" false 5 6 [], leaf "identifier" true 6 7 [], leaf ")" false 7 8 []]],
          leaf "." false 8 9 [],
          leaf "property_identifier" true 9 10 ["property"]],
        leaf ";" false 10 11 []]]

/-- The call before the dot. -/
def read.call : Node := read.root.preorder.getD 3 read.root

/-- The argument of the call. -/
def read.argument : Node := read.root.preorder.getD 8 read.root

/-- The number three, which is read from `3.0`. -/
def three : Literal := .number (.finite false (3 * 2 ^ 51) (-51))

theorem isProper_three : three.IsProper := by
  have hread : Toml.number? "3.0".toList = some (.finite false (3 * 2 ^ 51) (-51)) := by
    decide +kernel
  exact Binary64.isProper_of_number? hread

end Sample

/-- An access to a whole floating-point literal has a numeral before its dot. -/
theorem print_undotted_sample :
    (property (.literal Sample.three) false "f").print Sample.read.argument = .ok "3.f" ∧
      ¬Undotted (((property (.literal Sample.three) false "f").layout
        (.ofSite Sample.read.argument)).tokens ++ Sample.read.argument.dotAfter) := by
  have hprint : (property (.literal Sample.three) false "f").print Sample.read.argument =
      .ok "3.f" := by decide +kernel
  obtain ⟨-, hundotted, hplace, hwhole⟩ := print_undotted hprint
  refine ⟨hprint, fun hall => ?_⟩
  have hnumeral : (Operand.literal Sample.three).endsInNumeral = true :=
    (hwhole Sample.three Sample.isProper_three).mpr (Dvd.intro_left 3 rfl)
  have hends : (literal Sample.three).endsInNumeral (.atLeast .member) = true :=
    (hplace (.atLeast .member) (literal Sample.three) (by decide)).mpr
      ⟨by decide +kernel, Or.inl ⟨_, rfl, hnumeral⟩⟩
  have hkept := (hundotted.mp hall).1 _ _ .whole rfl
  exact absurd hends (hkept ▸ nofun)

/-- A numeral stands before a dot of the fragment, and before the dot after the site. -/
theorem print_dotted :
    (property (.literal Sample.three) false "f").print Sample.read.argument = .ok "3.f" ∧
      (literal (.integer 1)).print Sample.read.call = .ok "1" ∧
      Text.sliceFrom Sample.read.call.file.text Sample.read.call.span.stop = ".y;" ∧
      ¬Undotted (((literal (.integer 1)).layout (.ofSite Sample.read.call)).tokens ++
        Sample.read.call.dotAfter) := by
  refine ⟨by decide +kernel, by decide +kernel, by decide +kernel, ?_⟩
  have hdot : Sample.read.call.dotAfter = [.sign "."] := if_pos (by decide +kernel)
  rw [hdot]
  intro hundotted
  exact (List.isChain_cons_cons.mp hundotted).1 (by decide) rfl

end Fragment

end CallMigration
