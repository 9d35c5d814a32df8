import CallMigration.Proofs.Migration.Untracked
import CallMigration.Proofs.Printing.Edges

/-!
# How a replacement begins

A migrated call begins with its subject, or with a parenthesis around it. At the start of a
statement and as the body of an arrow function some beginnings are read as something else: a
block or a declaration, or a continuation of the statement before. Neither the printer nor
the migration looks for these.
-/

namespace CallMigration

namespace Text

/-- The first token of a text as far as its characters tell: a word, or a single character. -/
def lead (text : String) : String :=
  match text.toList with
  | [] => ""
  | c :: cs =>
      if continuesIdentifier c then String.ofList ((c :: cs).takeWhile continuesIdentifier)
      else String.ofList [c]

theorem takeWhile_append_of_head {p : Char → Bool} (cs : List Char) {rest : List Char}
    (hrest : ∀ c ∈ rest.head?, p c = false) : (cs ++ rest).takeWhile p = cs.takeWhile p := by
  have hstop : rest.takeWhile p = [] := by
    cases rest with
    | nil => rfl
    | cons c rest => simp [hrest c rfl]
  rw [List.takeWhile_append, hstop, List.append_nil]
  split
  next hall => exact ((List.takeWhile_prefix p).eq_of_length hall).symm
  next => rfl

/-- What goes on with a character that belongs to no word does not change the first token. -/
theorem lead_append {s rest : String} (hs : s ≠ "")
    (hrest : ∀ c ∈ rest.toList.head?, continuesIdentifier c = false) :
    lead (s ++ rest) = lead s := by
  cases hlist : s.toList with
  | nil => exact absurd (String.toList_eq_nil_iff.mp hlist) hs
  | cons c cs =>
      have hword := takeWhile_append_of_head (c :: cs) hrest
      rw [List.cons_append] at hword
      simp only [lead, String.toList_append, hlist, List.cons_append, hword]

theorem lead_of_head {text : String} {c : Char} (hhead : text.toList.head? = some c)
    (hc : continuesIdentifier c = false) : lead text = String.ofList [c] := by
  obtain ⟨cs, hlist⟩ := List.head?_eq_some_iff.mp hhead
  simp [lead, hlist, hc]

end Text

/-! ## Places where a beginning counts -/

namespace Node

/-- The statement that starts where the node starts and is an expression. -/
def openedStatement? (n : Node) : Option Node :=
  n.ancestors.find? fun m => m.kind == "expression_statement" && m.span.start == n.span.start

/-- Whether the node is the whole body of an arrow function. -/
def isArrowBody (n : Node) : Bool :=
  n.parent?.any fun parent =>
    parent.kind == "arrow_function" && (parent.field? "body").any fun body => body.same n

/-- The construct before the node under the same parent. -/
def priorSibling? (n : Node) : Option Node :=
  n.parent?.bind fun parent =>
    (parent.constructs.filter fun sibling => sibling.span.stop ≤ n.span.start).getLast?

/-- The statements and declarations that end with a semicolon. -/
def semicolonKinds : List String :=
  ["expression_statement", "lexical_declaration", "variable_declaration", "return_statement",
    "throw_statement", "break_statement", "continue_statement", "debugger_statement",
    "import_statement", "import_alias", "type_alias_declaration", "function_signature"]

/-- Whether the semicolon at the end of a statement is left out. A statement that ends with
another one leaves it out when that one does. -/
def leavesOutSemicolon (n : Node) : Bool :=
  n.fold fun m below =>
    if m.kind ∈ semicolonKinds || (m.kind == "export_statement" && (m.field? "declaration").isNone)
    then !m.hasToken ";"
    else below.getLast?.any fun last => last.answer ()

/-- Whether a statement comes after a statement that only a line break ends. -/
def followsLineBreak (n : Node) : Bool :=
  n.priorSibling?.any fun prior =>
    prior.leavesOutSemicolon &&
      (Text.slice n.file.text prior.span.stop n.span.start).toList.contains '\n'

/-- The first tokens that change how the text around the node is read: those of a block, a
function and a class where these are statements or a body, and those that go on with the
statement before. -/
def misreadLeads (n : Node) : List String :=
  (if n.openedStatement?.isSome || n.isArrowBody then ["\x7b", "function", "class"] else []) ++
    if n.openedStatement?.any followsLineBreak then ["(", "[", "`"] else []

end Node

namespace Migration

/-- Whether a replacement starts with its subject as it stands in the file, without a
parenthesis before it. -/
def startsBare (slot : Slot) (subject : Node) (f : Fragment) : Bool :=
  !slot.needsParens f && !(Slot.atLeast .member).needsParens (.node subject) &&
    !(Fragment.node subject).isInteger

end Migration

namespace Fragment

/-- In parentheses that are needed or not, a node is one token or starts with a parenthesis. -/
theorem exists_tokens_nodeObject (subject : Node) (after : List Token) :
    let slot : Slot := if (node subject).isInteger then .any else .atLeast .member
    ∃ rest, (((node subject).layout slot).enclose (node subject).isInteger).tokens ++ after =
      if (Slot.atLeast .member).needsParens (node subject) || (node subject).isInteger then
        .sign "(" :: rest
      else .operand (.node subject) :: after := by
  intro slot
  cases hinteger : (node subject).isInteger with
  | true =>
      simp only [Expr.tokens_enclose, Bool.or_true, if_true]
      exact ⟨_, rfl⟩
  | false =>
      have hslot : slot = .atLeast .member := by simp [slot, hinteger]
      rw [hslot, Expr.enclose, if_neg (by decide), layout, Expr.tokens_enclose, Bool.or_false]
      split
      · exact ⟨_, rfl⟩
      · exact ⟨[], rfl⟩

end Fragment

namespace Migration

/-- The tokens of a replacement start with the subject and the sign of the access, or with a
parenthesis. -/
theorem exists_tokens_replacementCall (m : Migration) (subject : Node) (others : List Node)
    (nullable : Bool) (slot : Slot) :
    let f := m.replacementCall subject others nullable
    ∃ rest, (f.layout slot).tokens =
      if startsBare slot subject f then
        .operand (.node subject) :: .sign (if nullable then "?." else ".") :: rest
      else .sign "(" :: rest := by
  intro f
  let access := Fragment.property (.node subject) nullable m.replacement
  let call := Fragment.call access (others.map .node)
  have haccess : access.layout (.atLeast .member) = access.body := rfl
  have hcall : call.layout (.operand LogicalOperator.coalesce.precedence
      (some LogicalOperator.coalesce.token)) = call.body := rfl
  -- Neither the access nor the call is in parentheses, so the subject comes first.
  have hbody : ∃ after, f.body.tokens =
      ((Fragment.layout (if (Fragment.node subject).isInteger then .any else .atLeast .member)
        (.node subject)).enclose (Fragment.node subject).isInteger).tokens ++
          .sign (if nullable then "?." else ".") :: after := by
    have htokens := Fragment.tokens_call access (others.map .node)
    rw [haccess, Fragment.tokens_property, List.append_assoc] at htokens
    cases nullable with
    | false => exact ⟨_, htokens⟩
    | true =>
        have hbinary := Fragment.tokens_binary call (.literal m.fallback) .coalesce
        rw [hcall, htokens, List.append_assoc] at hbinary
        exact ⟨_, hbinary⟩
  obtain ⟨after, hafter⟩ := hbody
  obtain ⟨rest, hrest⟩ := Fragment.exists_tokens_nodeObject subject
    (.sign (if nullable then "?." else ".") :: after)
  rw [Fragment.layout, Expr.tokens_enclose, hafter, hrest, startsBare]
  cases slot.needsParens f with
  | true => exact ⟨_, rfl⟩
  | false =>
    cases (Slot.atLeast .member).needsParens (.node subject) <;>
      cases (Fragment.node subject).isInteger <;> exact ⟨_, rfl⟩

/-- The first token of a replacement is that of its subject, or a parenthesis. -/
theorem lead_replacementCall {m : Migration} {subject : Node} {others : List Node}
    {nullable : Bool} {file : SourceFile} {slot : Slot} {text : String}
    (hok : (m.replacementCall subject others nullable).renderIn file slot = .ok text) :
    Text.lead text =
      if startsBare slot subject (m.replacementCall subject others nullable) then
        if subject.text = "" then (if nullable then "?" else ".") else Text.lead subject.text
      else "(" := by
  have hspell := Fragment.spell?_layout hok
  obtain ⟨rest, htokens⟩ := exists_tokens_replacementCall m subject others nullable slot
  rw [htokens] at hspell
  split
  next hbare =>
    rw [if_pos hbare] at hspell
    obtain ⟨s, more, hs, hmore, rfl⟩ := exists_of_spell?_cons hspell
    obtain ⟨sign, last, hsign, -, rfl⟩ := exists_of_spell?_cons hmore
    cases hs
    have hhead : (sign ++ last).toList.head? = some (if nullable then '?' else '.') := by
      cases nullable <;> cases hsign <;> rw [String.toList_append] <;> rfl
    have hplain : Text.continuesIdentifier (if nullable then '?' else '.') = false := by
      cases nullable <;> decide +kernel
    split
    next hempty =>
      rw [hempty, String.empty_append, Text.lead_of_head hhead hplain]
      cases nullable <;> rfl
    next hne =>
      refine Text.lead_append hne ?_
      intro c hc
      cases hhead.symm.trans hc
      exact hplain
  next hbare =>
    rw [if_neg hbare] at hspell
    obtain ⟨s, more, hs, -, rfl⟩ := exists_of_spell?_cons hspell
    have hopen : (Token.sign "(").spelling? = some "(" := by decide
    cases hopen.symm.trans hs
    have hhead : ("(" ++ more).toList.head? = some '(' := by simp
    exact Text.lead_of_head hhead (by decide +kernel)

/-- Among the first tokens that are misread are neither nothing nor the sign of an access. -/
theorem not_mem_misreadLeads (n : Node) :
    "" ∉ n.misreadLeads ∧ "." ∉ n.misreadLeads ∧ "?" ∉ n.misreadLeads := by
  unfold Node.misreadLeads
  split <;> split <;> decide

/-- A replacement begins with a token that is misread in its place just when it starts with its
subject as it stands and this begins so, or starts with a parenthesis where the statement
before is ended by a line break alone. As a statement of its own and as the body of an arrow
function it starts with the subject as it stands unless this is too weak to be accessed, or an
integer. -/
theorem transform_opening {migrations : List Migration} {policy : NullabilityPolicy}
    {p : Program} {n : Node} {f : Fragment} {text : String}
    (hsome : transform migrations policy p n = .ok (some f)) (hprint : f.print n = .ok text) :
    ∃ m subject others nullable, forNode? migrations n = some m ∧
      (callArguments? n).bind m.splitArguments? = some (subject, others) ∧
      f = m.replacementCall subject others nullable ∧
      (Text.lead text ∈ n.misreadLeads ↔
        Text.lead (if startsBare (.ofSite n) subject f then subject.text else "(") ∈
          n.misreadLeads) ∧
      ∀ parent, n.parent? = some parent →
        parent.kind = "expression_statement" ∨ parent.kind = "arrow_function" →
        (startsBare (.ofSite n) subject f = true ↔
          .member ≤ Precedence.ofNode subject ∧ (Fragment.node subject).isInteger = false) := by
  obtain ⟨m, subject, others, nullable, hm, hsplit, -, rfl⟩ := transform_eq_some hsome
  refine ⟨m, subject, others, nullable, hm, hsplit, rfl, ?_, ?_⟩
  · obtain ⟨hnothing, hdot, hquestion⟩ := not_mem_misreadLeads n
    rw [lead_replacementCall hprint]
    split
    · split
      next hempty =>
        rw [hempty]
        refine iff_of_false ?_ hnothing
        cases nullable
        · exact hdot
        · exact hquestion
      next => rfl
    · have hparen : Text.lead "(" = "(" := by decide +kernel
      rw [hparen]
  · intro parent hparent hkind
    have hslot : Slot.ofSite n = .any := by
      rcases hkind with hkind | hkind <;> simp [Slot.ofSite, hparent, hkind]
    have hwhole : Slot.any.needsParens (m.replacementCall subject others nullable) = false := by
      cases nullable <;> rfl
    have hlevel : (Slot.atLeast .member).needsParens (.node subject) = false ↔
        .member ≤ Precedence.ofNode subject := by
      simp only [Slot.atLeast, Fragment.needsParens_of_operator_none, Bool.false_and, Bool.or_false,
        decide_eq_false_iff_not]
      exact Nat.not_lt
    rw [startsBare, hslot, hwhole, ← hlevel]
    simp

namespace Sample

/-- A call of `u.old` with an argument of two characters. -/
def oldCall (start : Nat) (fields : List String) (argument : Tree) : Tree :=
  branch "call_expression" start (start + 9) fields
    [branch "member_expression" start (start + 5) ["function"]
      [leaf "identifier" true start (start + 1) ["object"],
        leaf "." false (start + 1) (start + 2) [],
        leaf "property_identifier" true (start + 2) (start + 5) ["property"]],
      branch "arguments" (start + 5) (start + 9) ["arguments"]
        [leaf "(" false (start + 5) (start + 6) [], argument,
          leaf ")" false (start + 8) (start + 9) []]]

def emptyObject (start : Nat) : Tree :=
  branch "object" start (start + 2) []
    [leaf "\x7b" false start (start + 1) [], leaf "\x7d" false (start + 1) (start + 2) []]

def emptyArray (start : Nat) : Tree :=
  branch "array" start (start + 2) []
    [leaf "[" false start (start + 1) [], leaf "]" false (start + 1) (start + 2) []]

/-- Calls as a statement, as the body of an arrow function and after a statement without a
semicolon. -/
def opened : SourceFile where
  load := 0
  path := ⟨"a.ts"⟩
  text := "u.old(\x7b\x7d);\n() => u.old(\x7b\x7d);\nf\nu.old([]);"
  dialect := .typeScript
  tree := branch "program" 0 40 []
    [branch "expression_statement" 0 10 []
      [oldCall 0 [] (emptyObject 6), leaf ";" false 9 10 []],
      branch "expression_statement" 11 27 []
        [branch "arrow_function" 11 26 []
          [branch "formal_parameters" 11 13 ["parameters"]
            [leaf "(" false 11 12 [], leaf ")" false 12 13 []],
            leaf "=>" false 14 16 [], oldCall 17 ["body"] (emptyObject 23)],
          leaf ";" false 26 27 []],
      branch "expression_statement" 28 29 [] [leaf "identifier" true 28 29 []],
      branch "expression_statement" 30 40 []
        [oldCall 30 [] (emptyArray 36), leaf ";" false 39 40 []]]

def opened.program : Program := ⟨[opened], ⟨true, []⟩⟩

def opened.node (index : Nat) : Node := opened.root.preorder.getD index opened.root

/-- `old` becomes `some` on the first argument. -/
def fromOld : Migration := ⟨"old", "some", 0, .boolean false⟩

/-- The replacement on the subject at an index. -/
def opened.replacement (index : Nat) : Fragment :=
  fromOld.replacementCall (opened.node index) [] false

end Sample

/-- The call that is a statement begins with the brace of its subject. -/
theorem transform_opening_sample :
    (Sample.opened.replacement 7).print (Sample.opened.node 2) = .ok "\x7b\x7d.some()" ∧
      Text.lead (Sample.opened.node 7).text ∈ (Sample.opened.node 2).misreadLeads ∧
      Text.lead "\x7b\x7d.some()" ∈ (Sample.opened.node 2).misreadLeads := by
  have hsome : transform [Sample.fromOld] .nullOnly Sample.opened.program (Sample.opened.node 2) =
      .ok (some (Sample.opened.replacement 7)) :=
    transform_of_call (by decide +kernel) rfl (by decide +kernel)
  have hprint : (Sample.opened.replacement 7).print (Sample.opened.node 2) =
      .ok "\x7b\x7d.some()" := by decide +kernel
  have hsubject : Text.lead (Sample.opened.node 7).text ∈ (Sample.opened.node 2).misreadLeads := by
    decide +kernel
  obtain ⟨m, subject, others, nullable, -, -, heq, hlead, -⟩ := transform_opening hsome hprint
  obtain rfl : Sample.opened.node 7 = subject := by
    cases nullable <;> simp_all [Sample.opened.replacement, replacementCall]
  refine ⟨hprint, hsubject, hlead.mpr ?_⟩
  rw [if_pos (by decide +kernel)]
  exact hsubject

open Sample in
/-- The replacements begin with a brace at a statement and a body, and with a bracket after a
statement that only a line break ends. -/
theorem transform_misread :
    (transform [fromOld] .nullOnly opened.program (opened.node 2) =
        .ok (some (opened.replacement 7)) ∧
      (opened.replacement 7).print (opened.node 2) = .ok "\x7b\x7d.some()" ∧
      Text.lead "\x7b\x7d.some()" ∈ (opened.node 2).misreadLeads) ∧
    (transform [fromOld] .nullOnly opened.program (opened.node 11) =
        .ok (some (opened.replacement 16)) ∧
      (opened.replacement 16).print (opened.node 11) = .ok "\x7b\x7d.some()" ∧
      Text.lead "\x7b\x7d.some()" ∈ (opened.node 11).misreadLeads) ∧
    transform [fromOld] .nullOnly opened.program (opened.node 20) =
        .ok (some (opened.replacement 25)) ∧
      (opened.replacement 25).print (opened.node 20) = .ok "[].some()" ∧
      Text.lead "[].some()" ∈ (opened.node 20).misreadLeads := by
  refine ⟨⟨?_, ?_, ?_⟩, ⟨?_, ?_, ?_⟩, ?_, ?_, ?_⟩
  · exact transform_of_call (by decide +kernel) rfl (by decide +kernel)
  · decide +kernel
  · decide +kernel
  · exact transform_of_call (by decide +kernel) rfl (by decide +kernel)
  · decide +kernel
  · decide +kernel
  · exact transform_of_call (by decide +kernel) rfl (by decide +kernel)
  · decide +kernel
  · decide +kernel

end Migration

end CallMigration
