import CallMigration.Proofs.Migration.Valid
import CallMigration.Proofs.Printing.Parts

/-!
# Written replacements

A migration moves a call of its member onto the subject when an argument list holds the subject
and no spread hides which argument it is. The replacement is then written with the source of the
subject first and those of the other arguments after it, all of them and in their order. The
arguments are what the list holds besides tokens and comments. A comment in the style of markup
is of a kind of its own and counts as an argument.
-/

namespace CallMigration

namespace Fragment

variable {site : SourceFile} {slot : Slot}

theorem renderIn_node {n : Node} (hfile : n.file.same site = true) :
    renderIn site slot (.node n) =
      .ok (parenthesize (slot.needsParens (.node n)) n.text) := by
  rw [renderIn, embeddedText, if_pos hfile]
  rfl

theorem renderAllIn_nodes {ns : List Node} (hfile : ∀ n ∈ ns, n.file.same site = true) :
    renderAllIn site (ns.map Fragment.node) =
      .ok (ns.map fun n => parenthesize (Slot.any.needsParens (.node n)) n.text) := by
  induction ns with
  | nil => rw [List.map_nil, renderAllIn, List.map_nil]
  | cons n ns ih =>
      obtain ⟨hn, hns⟩ := List.forall_mem_cons.mp hfile
      rw [List.map_cons, renderAllIn, renderIn_node hn, ih hns]
      rfl

/-- As the object of an access a node is in parentheses once or not at all. -/
theorem renderIn_nodeProperty {n : Node} (optional : Bool) {name : String}
    (hfile : n.file.same site = true) (hname : Text.isIdentifier name = true) :
    ∃ receiver, renderIn site (.atLeast .member) (.property (.node n) optional name) =
      .ok (parenthesize receiver n.text ++ (if optional then "?." else ".") ++ name) := by
  rw [renderIn, checkedName, if_pos hname, renderIn_node hfile]
  cases hinteger : (node n).isInteger with
  | false => exact ⟨_, rfl⟩
  | true =>
      have hbare := needsParens_any_of_isInteger hinteger
      exact ⟨true, by rw [if_pos rfl, hbare]; rfl⟩

theorem renderIn_call {callee : Fragment} {arguments : List Fragment} {base : String}
    {parts : List String} (hcallee : renderIn site (.atLeast .member) callee = .ok base)
    (harguments : renderAllIn site arguments = .ok parts) :
    renderIn site slot (.call callee arguments) =
      .ok (parenthesize (slot.needsParens (.call callee arguments))
        (base ++ "(" ++ ", ".intercalate parts ++ ")")) := by
  rw [renderIn, hcallee, harguments]
  rfl

/-- Neither a call before `??` nor a literal after it is in parentheses. -/
theorem needsParens_operand_coalesce (callee : Fragment) (arguments : List Fragment)
    (value : Literal) :
    (Slot.operand LogicalOperator.coalesce.precedence (some "??")).needsParens
        (.call callee arguments) = false ∧
      (Slot.operand LogicalOperator.coalesce.precedence.next (some "??")).needsParens
        (.literal value) = false := by
  refine ⟨rfl, ?_⟩
  have hlevel : (Fragment.literal value).precedence = .unary ∨
      (Fragment.literal value).precedence = .primary := ite_eq_or_eq _ _ _
  rcases hlevel with hlevel | hlevel <;>
  · rw [Slot.needsParens, hlevel]
    rfl

theorem renderIn_coalesce {callee : Fragment} {arguments : List Fragment} {base : String}
    {parts : List String} {value : Literal} {fallback : String}
    (hcallee : renderIn site (.atLeast .member) callee = .ok base)
    (harguments : renderAllIn site arguments = .ok parts)
    (hfallback : value.render = .ok fallback) :
    renderIn site slot (.binary (.call callee arguments) .coalesce (.literal value)) =
      .ok (parenthesize
        (slot.needsParens (.binary (.call callee arguments) .coalesce (.literal value)))
        (base ++ "(" ++ ", ".intercalate parts ++ ")" ++ " " ++ "??" ++ " " ++ fallback)) := by
  obtain ⟨hleft, hright⟩ := needsParens_operand_coalesce callee arguments value
  rw [renderIn, LogicalOperator.token, renderIn_call hcallee harguments, hleft, renderIn,
    hfallback]
  dsimp only [Bind.bind, Except.bind]
  rw [hright]
  rfl

end Fragment

namespace Migration

variable {migrations : List Migration} {policy : NullabilityPolicy} {p : Program} {m : Migration}
  {n subject : Node} {before after : List Node}

/-! ## Calls that are moved -/

/-- The last migration listed for a name. -/
def IsLast (migrations : List Migration) (name : String) (m : Migration) : Prop :=
  m.deprecated = name ∧
    ∃ earlier later, migrations = earlier ++ m :: later ∧ ∀ l ∈ later, l.deprecated ≠ name

/-- A migration moves the call at a node onto one of its arguments. -/
structure Moves (migrations : List Migration) (n : Node) (m : Migration) (before : List Node)
    (subject : Node) (after : List Node) : Prop where
  call : n.kind = "call_expression"
  member : ∃ callee name, n.field? "function" = some callee ∧ callee.kind = "member_expression" ∧
    callee.field? "property" = some name ∧ IsLast migrations name.text m
  arguments : ∃ list, n.field? "arguments" = some list ∧ list.kind = "arguments" ∧
    list.constructs = before ++ subject :: after
  position : before.length = m.subjectArgument
  plain : ∀ a ∈ before ++ [subject], a.kind ≠ "spread_element"

theorem find?_eq_some_iff_isLast {name : String} :
    find? migrations name = some m ↔ IsLast migrations name m := by
  rw [find?, List.find?_eq_some_iff_append, IsLast, beq_iff_eq]
  refine and_congr_right fun _ => ?_
  constructor
  · rintro ⟨later, earlier, hlist, hlater⟩
    refine ⟨earlier.reverse, later.reverse, ?_, ?_⟩
    · rw [← List.reverse_reverse migrations, hlist]
      simp
    · simpa using hlater
  · rintro ⟨earlier, later, rfl, hlater⟩
    exact ⟨later.reverse, earlier.reverse, by simp, by simpa using hlater⟩

theorem forNode?_eq_some_iff :
    forNode? migrations n = some m ↔ n.kind = "call_expression" ∧
      ∃ callee name, n.field? "function" = some callee ∧ callee.kind = "member_expression" ∧
        callee.field? "property" = some name ∧ IsLast migrations name.text m := by
  rw [forNode?_eq_some_iff_find?]
  constructor
  · rintro ⟨_, ⟨hcall, callee, name, hcallee, hkind, hname, rfl⟩, hfind⟩
    exact ⟨hcall, callee, name, hcallee, hkind, hname, find?_eq_some_iff_isLast.mp hfind⟩
  · rintro ⟨hcall, callee, name, hcallee, hkind, hname, hlast⟩
    exact ⟨name.text, ⟨hcall, callee, name, hcallee, hkind, hname, rfl⟩,
      find?_eq_some_iff_isLast.mpr hlast⟩

/-- The subject is the argument that has as many before it as the migration says. -/
theorem splitArguments?_eq_some_iff {arguments others : List Node} :
    m.splitArguments? arguments = some (subject, others) ↔
      ∃ before after, arguments = before ++ subject :: after ∧ before.length = m.subjectArgument ∧
        (∀ a ∈ before ++ [subject], a.kind ≠ "spread_element") ∧ others = before ++ after := by
  constructor
  · intro hsplit
    unfold splitArguments? at hsplit
    split at hsplit
    · cases hsplit
    next hplain =>
      split at hsplit
      next found hfound =>
        cases hsplit
        obtain ⟨hlt, hget⟩ := List.getElem?_eq_some_iff.mp hfound
        have htake := List.take_append_getElem hlt
        rw [hget] at htake
        refine ⟨arguments.take m.subjectArgument, arguments.drop (m.subjectArgument + 1), ?_,
          List.length_take_of_le hlt.le, ?_, List.eraseIdx_eq_take_drop_succ _ _⟩
        · rw [← hget, ← List.drop_eq_getElem_cons hlt, List.take_append_drop]
        · rw [htake]
          simpa only [List.any_eq_true, beq_iff_eq, not_exists, not_and] using hplain
      next => cases hsplit
  · rintro ⟨before, after, rfl, hlength, hplain, rfl⟩
    have htake : (before ++ subject :: after).take (m.subjectArgument + 1) =
        before ++ [subject] := by
      rw [← hlength, List.take_append, List.take_of_length_le (Nat.le_succ _)]
      simp
    have hspread : ¬(before ++ [subject]).any (·.kind == "spread_element") = true := by
      simpa only [List.any_eq_true, beq_iff_eq, not_exists, not_and] using hplain
    unfold splitArguments?
    rw [htake, if_neg hspread, ← hlength, List.getElem?_append_right (Nat.le_refl _),
      Nat.sub_self, List.eraseIdx_append_of_length_le (Nat.le_refl _), Nat.sub_self]
    rfl

/-- A node calls for a migration, and its arguments split at the subject, just when the
migration moves it. -/
theorem exists_moves_iff {others : List Node} :
    (forNode? migrations n = some m ∧
      (callArguments? n).bind m.splitArguments? = some (subject, others)) ↔
      ∃ before after, Moves migrations n m before subject after ∧ others = before ++ after := by
  rw [forNode?_eq_some_iff, Option.bind_eq_some_iff]
  constructor
  · rintro ⟨⟨hcall, hmember⟩, arguments, harguments, hsplit⟩
    obtain ⟨list, hlist, rfl⟩ := Option.map_eq_some_iff.mp harguments
    obtain ⟨hfield, hkind⟩ := Option.filter_eq_some_iff.mp hlist
    obtain ⟨before, after, hlisted, hposition, hplain, hothers⟩ :=
      splitArguments?_eq_some_iff.mp hsplit
    exact ⟨before, after, ⟨hcall, hmember, ⟨list, hfield, eq_of_beq hkind, hlisted⟩, hposition,
      hplain⟩, hothers⟩
  · rintro ⟨before, after, hmoves, rfl⟩
    obtain ⟨list, hfield, hkind, hlisted⟩ := hmoves.arguments
    have hlist : (n.field? "arguments").filter (·.kind == "arguments") = some list :=
      Option.filter_eq_some_iff.mpr ⟨hfield, beq_iff_eq.mpr hkind⟩
    refine ⟨⟨hmoves.call, hmoves.member⟩, list.constructs, ?_, ?_⟩
    · rw [callArguments?, hlist]
      rfl
    · exact splitArguments?_eq_some_iff.mpr
        ⟨before, after, hlisted, hmoves.position, hmoves.plain, rfl⟩

theorem Moves.transform (hmoves : Moves migrations n m before subject after) {t : StaticType}
    (ht : p.typeAt subject = .ok t) :
    transform migrations policy p n =
      .ok (some (m.replacementCall subject (before ++ after) (policy.isNullable t))) := by
  obtain ⟨hm, hsplit⟩ := exists_moves_iff.mpr ⟨before, after, hmoves, rfl⟩
  exact transform_of_call hm hsplit (Program.isNullableAt_of_typeAt ht policy)

/-! ## The text of a replacement -/

/-- A call of the replacement on a receiver, with what stands in for an absent result. -/
def callText (m : Migration) (receiver : String) (arguments : List String) (nullable : Bool)
    (fallback : String) : String :=
  receiver ++ (if nullable then "?." else ".") ++ m.replacement ++
    "(" ++ ", ".intercalate arguments ++ ")" ++ (if nullable then " ?? " ++ fallback else "")

theorem Valid.renderIn_replacementCall (hm : m.Valid) {site : SourceFile} (slot : Slot)
    {others : List Node} (hsubject : subject.file.same site = true)
    (hothers : ∀ other ∈ others, other.file.same site = true) (nullable : Bool)
    {fallback : String} (hfallback : m.fallback.render = .ok fallback) :
    ∃ (whole receiver : Bool) (item : Node → Bool),
      (m.replacementCall subject others nullable).renderIn site slot =
        .ok (Fragment.parenthesize whole (m.callText (Fragment.parenthesize receiver subject.text)
          (others.map fun a => Fragment.parenthesize (item a) a.text) nullable fallback)) := by
  obtain ⟨receiver, hreceiver⟩ :=
    Fragment.renderIn_nodeProperty nullable hsubject hm.replacement
  have hitems := Fragment.renderAllIn_nodes hothers
  refine ⟨slot.needsParens (m.replacementCall subject others nullable), receiver,
    fun a => Slot.any.needsParens (.node a), ?_⟩
  cases nullable with
  | false =>
      change Fragment.renderIn site slot (.call _ _) = _
      rw [Fragment.renderIn_call hreceiver hitems, callText]
      simp only [Bool.false_eq_true, if_false, String.append_empty]
      rfl
  | true =>
      have hjoin : " ?? " ++ fallback = " " ++ ("??" ++ (" " ++ fallback)) := by
        rw [← String.append_assoc, ← String.append_assoc]
        rfl
      change Fragment.renderIn site slot (.binary (.call _ _) .coalesce (.literal _)) = _
      rw [Fragment.renderIn_coalesce hreceiver hitems hfallback, callText, if_pos rfl, if_pos rfl,
        hjoin]
      simp only [String.append_assoc]
      rfl

/-- A transform with valid migrations replaces exactly the calls that one of them moves onto an
argument of known type, and writes the replacement with the sources of the subject and of the
other arguments, in parentheses or not. What else stands in the call is gone: the object it
was a member of, type arguments, tokens, and all comments but those that count as arguments. -/
theorem transform_writes (hvalid : ∀ m ∈ migrations, m.Valid) (policy : NullabilityPolicy)
    (p : Program) (n : Node) :
    ((∃ f, transform migrations policy p n = .ok (some f)) ↔
        ∃ m before subject after t, Moves migrations n m before subject after ∧
          p.typeAt subject = .ok t) ∧
      ∀ m before subject after t, Moves migrations n m before subject after →
        p.typeAt subject = .ok t →
        ∃ f fallback, transform migrations policy p n = .ok (some f) ∧
          m.fallback.render = .ok fallback ∧
          ∃ (whole receiver : Bool) (item : Node → Bool),
            f.print n = .ok (Fragment.parenthesize whole
              (m.callText (Fragment.parenthesize receiver subject.text)
                ((before ++ after).map fun a => Fragment.parenthesize (item a) a.text)
                (policy.isNullable t) fallback)) := by
  refine ⟨⟨?_, ?_⟩, ?_⟩
  · rintro ⟨f, hsome⟩
    obtain ⟨m, subject, others, nullable, hm, hsplit, hnullable, -⟩ := transform_eq_some hsome
    obtain ⟨before, after, hmoves, -⟩ := exists_moves_iff.mp ⟨hm, hsplit⟩
    obtain ⟨t, ht, -⟩ := Program.isNullableAt_eq_ok hnullable
    exact ⟨m, before, subject, after, t, hmoves, ht⟩
  · rintro ⟨m, before, subject, after, t, hmoves, ht⟩
    exact ⟨_, hmoves.transform ht⟩
  · intro m before subject after t hmoves ht
    obtain ⟨hm, hsplit⟩ := exists_moves_iff.mpr ⟨before, after, hmoves, rfl⟩
    obtain ⟨hsubject, hothers⟩ := file_of_splitArguments? hsplit
    have hm := hvalid m (mem_of_forNode? hm)
    obtain ⟨fallback, hfallback⟩ := hm.fallback
    refine ⟨_, fallback, hmoves.transform ht, hfallback, ?_⟩
    refine hm.renderIn_replacementCall (.ofSite n) ?_ ?_ (policy.isNullable t) hfallback
    · rw [hsubject]
      exact n.file.same_self
    · intro other hother
      rw [hothers other hother]
      exact n.file.same_self

namespace Sample

/-- The node that child indices lead to. -/
def below (n : Node) (indices : List Nat) : Node :=
  indices.foldl (fun m i => m.children.getD i m) n

/-- A call with type arguments, a comment, an argument on either side of its subject and a
spread. -/
def written : SourceFile where
  load := 0
  path := ⟨"a.ts"⟩
  text := "let x: A | null;\nu.old<B>(a, /* c */ x, ...b);"
  dialect := .typeScript
  tree := branch "program" 0 46 []
    [branch "lexical_declaration" 0 16 []
      [leaf "let" false 0 3 ["kind"],
        branch "variable_declarator" 4 15 []
          [leaf "identifier" true 4 5 ["name"],
            branch "type_annotation" 5 15 ["type"]
              [leaf ":" false 5 6 [],
                branch "union_type" 7 15 []
                  [leaf "type_identifier" true 7 8 [], leaf "|" false 9 10 [],
                    branch "literal_type" 11 15 [] [leaf "null" true 11 15 []]]]],
        leaf ";" false 15 16 []],
      branch "expression_statement" 17 46 []
        [branch "call_expression" 17 45 []
          [branch "member_expression" 17 22 ["function"]
            [leaf "identifier" true 17 18 ["object"], leaf "." false 18 19 [],
              leaf "property_identifier" true 19 22 ["property"]],
            branch "type_arguments" 22 25 ["type_arguments"]
              [leaf "<" false 22 23 [], leaf "type_identifier" true 23 24 [],
                leaf ">" false 24 25 []],
            branch "arguments" 25 45 ["arguments"]
              [leaf "(" false 25 26 [], leaf "identifier" true 26 27 [], leaf "," false 27 28 [],
                leaf "comment" true 29 36 [], leaf "identifier" true 37 38 [],
                leaf "," false 38 39 [],
                branch "spread_element" 40 44 []
                  [leaf "..." false 40 43 [], leaf "identifier" true 43 44 []],
                leaf ")" false 44 45 []]],
          leaf ";" false 45 46 []]]

def written.program : Program := ⟨[written], ⟨true, []⟩⟩

/-- The call. -/
def written.call : Node := below written.root [1, 0]

/-- The child of the argument list at an index. -/
def written.argument (index : Nat) : Node := below written.call [2, index]

/-- `old` becomes `some` on the second argument. -/
def fromSecond : Migration := ⟨"old", "some", 1, .integer (-1)⟩

/-- Two migrations of one name. -/
def twice : List Migration := [⟨"old", "every", 0, .boolean true⟩, fromSecond]

end Sample

/-- Of two migrations of a name the second counts, and of the call its arguments are left. -/
theorem transform_writes_sample :
    (∀ m ∈ Sample.twice, m.Valid) ∧
      ∃ f, transform Sample.twice .nullOnly Sample.written.program Sample.written.call =
          .ok (some f) ∧
        f.print Sample.written.call = .ok "x?.some(a, ...b) ?? -1" ∧
        ∃ whole receiver first last : Bool,
          "x?.some(a, ...b) ?? -1" = Fragment.parenthesize whole
            (Sample.fromSecond.callText (Fragment.parenthesize receiver "x")
              [Fragment.parenthesize first "a", Fragment.parenthesize last "...b"] true "-1") := by
  have hvalid : ∀ m ∈ Sample.twice, m.Valid := by
    simp only [Sample.twice, List.forall_mem_cons, List.not_mem_nil, false_implies, implies_true,
      and_true]
    exact ⟨⟨by decide +kernel, _, rfl⟩, ⟨by decide +kernel, _, rfl⟩⟩
  have hmoves : Moves Sample.twice Sample.written.call Sample.fromSecond
      [Sample.written.argument 1] (Sample.written.argument 4) [Sample.written.argument 6] :=
    ⟨rfl, ⟨_, _, rfl, rfl, rfl, find?_eq_some_iff_isLast.mp (by decide +kernel)⟩,
      ⟨_, rfl, rfl, rfl⟩, rfl, by decide +kernel⟩
  have htype : Sample.written.program.typeAt (Sample.written.argument 4) =
      .ok (.union [.reference "A" [], .null]) := by decide +kernel
  obtain ⟨f, fallback, hsome, hfallback, whole, receiver, item, hprint⟩ :=
    (transform_writes hvalid .nullOnly Sample.written.program Sample.written.call).2
      _ _ _ _ _ hmoves htype
  have hwritten : f.print Sample.written.call = .ok "x?.some(a, ...b) ?? -1" := by
    cases hsome.symm.trans (hmoves.transform htype)
    decide +kernel
  have htexts : (Sample.written.argument 4).text = "x" ∧ (Sample.written.argument 1).text = "a" ∧
      (Sample.written.argument 6).text = "...b" := by decide +kernel
  cases hfallback
  refine ⟨hvalid, f, hsome, hwritten, whole, receiver, item (Sample.written.argument 1),
    item (Sample.written.argument 6), ?_⟩
  have htext := Except.ok.inj (hwritten.symm.trans hprint)
  rw [htexts.1, List.singleton_append, List.map_cons, List.map_cons, List.map_nil, htexts.2.1,
    htexts.2.2] at htext
  exact htext

namespace Sample

/-- A call whose argument list holds a comment in the style of markup. -/
def markup : SourceFile where
  load := 0
  path := ⟨"a.js"⟩
  text := "const x = 1;\nu.deprecated_some(x, <!-- note\nf);"
  dialect := .typeScript
  tree := branch "program" 0 47 []
    [branch "lexical_declaration" 0 12 []
      [leaf "const" false 0 5 ["kind"],
        branch "variable_declarator" 6 11 []
          [leaf "identifier" true 6 7 ["name"], leaf "=" false 8 9 [],
            leaf "number" true 10 11 ["value"]],
        leaf ";" false 11 12 []],
      branch "expression_statement" 13 47 []
        [branch "call_expression" 13 46 []
          [branch "member_expression" 13 30 ["function"]
            [leaf "identifier" true 13 14 ["object"], leaf "." false 14 15 [],
              leaf "property_identifier" true 15 30 ["property"]],
            branch "arguments" 30 46 ["arguments"]
              [leaf "(" false 30 31 [], leaf "identifier" true 31 32 [], leaf "," false 32 33 [],
                leaf "html_comment" true 34 43 [], leaf "identifier" true 44 45 [],
                leaf ")" false 45 46 []]],
          leaf ";" false 46 47 []]]

def markup.program : Program := ⟨[markup], ⟨true, []⟩⟩

/-- The call. -/
def markup.call : Node := below markup.root [1, 0]

/-- The child of the argument list at an index. -/
def markup.argument (index : Nat) : Node := below markup.call [1, index]

end Sample

/-- The comment is written as an argument, which is not what a call of the replacement with
the other argument alone looks like. -/
theorem transform_markup :
    ∃ f, transform [standard] .nullOnly Sample.markup.program Sample.markup.call =
        .ok (some f) ∧
      f.print Sample.markup.call = .ok "x.some(<!-- note, f)" ∧
      ∀ (whole receiver item : Bool), f.print Sample.markup.call ≠
        .ok (Fragment.parenthesize whole (standard.callText (Fragment.parenthesize receiver "x")
          [Fragment.parenthesize item "f"] false "false")) := by
  have hsome : transform [standard] .nullOnly Sample.markup.program Sample.markup.call =
      .ok (some (standard.replacementCall (Sample.markup.argument 1)
        [Sample.markup.argument 3, Sample.markup.argument 4] false)) :=
    transform_of_call (by decide +kernel) rfl (by decide +kernel)
  have hprint : (standard.replacementCall (Sample.markup.argument 1)
      [Sample.markup.argument 3, Sample.markup.argument 4] false).print Sample.markup.call =
      .ok "x.some(<!-- note, f)" := by decide +kernel
  have hdiffers : ∀ whole receiver item : Bool, "x.some(<!-- note, f)" ≠
      Fragment.parenthesize whole (standard.callText (Fragment.parenthesize receiver "x")
        [Fragment.parenthesize item "f"] false "false") := by decide +kernel
  refine ⟨_, hsome, hprint, fun whole receiver item hclaimed => ?_⟩
  exact hdiffers whole receiver item (Except.ok.inj (hprint.symm.trans hclaimed))

end Migration

end CallMigration
