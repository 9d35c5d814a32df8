import CallMigration.Proofs.Printing.Edges

/-!
# A replacement beside its neighbours

A replacement is put between the text before its site and the text after it, with nothing
in between. A parenthesis at an end of the replacement keeps it apart; an operand there is
read together with its neighbour wherever their characters allow it.
-/

namespace CallMigration

namespace Text

/-- Whether two characters in a row are read as one token: both belong to words, or they
make `++` or `--`. -/
def sharesToken (c d : Char) : Bool :=
  (continuesIdentifier c && continuesIdentifier d) || (c == d && (c == '-' || c == '+'))

/-- Whether two texts are read together where they meet. -/
def merges (before after : String) : Bool :=
  before.toList.getLast?.any fun c => after.toList.head?.any fun d => sharesToken c d

theorem sharesToken_eq_false {c d : Char} (hapart : standsApart c = true ∨ standsApart d = true) :
    sharesToken c d = false := by
  by_cases hcd : c = d
  · subst hcd
    simp_all [standsApart, sharesToken]
  · rcases hapart with hc | hd
    · simp_all [standsApart, sharesToken]
    · simp_all [standsApart, sharesToken]

theorem merges_append_right {s rest : String}
    (hrest : ∀ c ∈ rest.toList.head?, standsApart c = true) (before : String) :
    merges before (s ++ rest) = merges before s := by
  rw [merges, merges, String.toList_append, List.head?_append]
  cases s.toList.head? with
  | some d => rfl
  | none =>
      cases hd : rest.toList.head? with
      | none => rfl
      | some d =>
          have happart := hrest d hd
          cases before.toList.getLast? with
          | none => rfl
          | some c => exact sharesToken_eq_false (Or.inr happart)

theorem merges_append_left {rest s : String}
    (hrest : ∀ c ∈ rest.toList.getLast?, standsApart c = true) (after : String) :
    merges (rest ++ s) after = merges s after := by
  rw [merges, merges, String.toList_append, List.getLast?_append]
  cases s.toList.getLast? with
  | some c => rfl
  | none =>
      cases hc : rest.toList.getLast? with
      | none => rfl
      | some c =>
          have happart := hrest c hc
          cases after.toList.head? with
          | none => rfl
          | some d => exact sharesToken_eq_false (Or.inl happart)

theorem merges_paren_right (before rest : String) : merges before ("(" ++ rest) = false := by
  rw [merges, String.toList_append, List.head?_append]
  cases before.toList.getLast? with
  | none => rfl
  | some c =>
      have happart : standsApart '(' = true := by decide +kernel
      exact sharesToken_eq_false (Or.inr happart)

theorem merges_paren_left (rest after : String) : merges (rest ++ ")") after = false := by
  rw [merges, String.toList_append, List.getLast?_append]
  cases after.toList.head? with
  | none => rfl
  | some d =>
      have happart : standsApart ')' = true := by decide +kernel
      exact sharesToken_eq_false (Or.inl happart)

end Text

namespace Node

/-- The text of the file up to the node. -/
def textBefore (n : Node) : String := Text.slice n.file.text 0 n.span.start

/-- The text of the file after the node. -/
def textAfter (n : Node) : String := Text.sliceFrom n.file.text n.span.stop

end Node

namespace Fragment

/-- A replacement is read together with the text before it just when it starts with an
operand that is, and together with the text after it just when it ends with one. In place
of a site that starts with a word of its own, only a sign can be read together with the text
before it. -/
theorem print_merges {f : Fragment} {site : Node} {text : String}
    (hprint : f.print site = .ok text) :
    let tokens := (f.layout (.ofSite site)).tokens
    (Text.merges site.textBefore text = true ↔
      ∃ o s, tokens.head? = some (.operand o) ∧ o.spelling? = some s ∧
        Text.merges site.textBefore s = true) ∧
    (Text.merges text site.textAfter = true ↔
      ∃ o s, tokens.getLast? = some (.operand o) ∧ o.spelling? = some s ∧
        Text.merges s site.textAfter = true) ∧
    ∀ c, site.text.toList.head? = some c → Text.continuesIdentifier c = true →
      Text.merges site.textBefore site.text = false →
      Text.merges site.textBefore text = true →
      ∃ sign, (sign = '-' ∨ sign = '+') ∧ site.textBefore.toList.getLast? = some sign ∧
        text.toList.head? = some sign := by
  intro tokens
  refine ⟨?_, ?_, ?_⟩
  · rcases renderIn_head hprint with ⟨hhead, rest, rfl⟩ | ⟨o, s, rest, hhead, hs, rfl, hrest⟩
    · rw [Text.merges_paren_right]
      refine ⟨nofun, ?_⟩
      rintro ⟨o, s, ho, -⟩
      cases hhead.symm.trans ho
    · rw [Text.merges_append_right hrest]
      refine ⟨fun hmerges => ⟨o, s, hhead, hs, hmerges⟩, ?_⟩
      rintro ⟨o', s', ho, hs', hmerges⟩
      cases hhead.symm.trans ho
      cases hs.symm.trans hs'
      exact hmerges
  · rcases renderIn_last hprint with ⟨hlast, rest, rfl⟩ | ⟨o, rest, s, hlast, hs, rfl, hrest⟩
    · rw [Text.merges_paren_left]
      refine ⟨nofun, ?_⟩
      rintro ⟨o, s, ho, -⟩
      cases hlast.symm.trans ho
    · rw [Text.merges_append_left hrest]
      refine ⟨fun hmerges => ⟨o, s, hlast, hs, hmerges⟩, ?_⟩
      rintro ⟨o', s', ho, hs', hmerges⟩
      cases hlast.symm.trans ho
      cases hs.symm.trans hs'
      exact hmerges
  · intro c hc hword hseparate hmerges
    simp only [Text.merges, Option.any_eq_true, Option.any_eq_false] at hseparate hmerges
    obtain ⟨b, hb, d, hd, hshares⟩ := hmerges
    have hplain : Text.continuesIdentifier b = false := by
      have hb' := hseparate b hb c hc
      simp_all [Text.sharesToken]
    simp only [Text.sharesToken, hplain, Bool.false_and, Bool.false_or, Bool.and_eq_true,
      Bool.or_eq_true, beq_iff_eq] at hshares
    obtain ⟨rfl, hsign⟩ := hshares
    exact ⟨b, hsign, hb, hd⟩

namespace Sample

/-- A call after a keyword with no blank between them, and an operand after a sign. -/
def tight : SourceFile where
  load := 0
  path := ⟨"a.ts"⟩
  text := "typeof[1].old(-x);"
  dialect := .typeScript
  tree := branch "program" 0 18 []
    [branch "expression_statement" 0 18 []
      [branch "unary_expression" 0 17 []
        [leaf "typeof" false 0 6 ["operator"],
          branch "call_expression" 6 17 ["argument"]
            [branch "member_expression" 6 13 ["function"]
              [branch "array" 6 9 ["object"]
                [leaf "[" false 6 7 [], leaf "number" true 7 8 [], leaf "]" false 8 9 []],
                leaf "." false 9 10 [],
                leaf "property_identifier" true 10 13 ["property"]],
              branch "arguments" 13 17 ["arguments"]
                [leaf "(" false 13 14 [],
                  branch "unary_expression" 14 16 []
                    [leaf "-" false 14 15 ["operator"], leaf "identifier" true 15 16 ["argument"]],
                  leaf ")" false 16 17 []]]],
        leaf ";" false 17 18 []]]

/-- The call after `typeof`. -/
def tight.call : Node := tight.root.preorder.getD 3 tight.root

/-- The operand after `-`. -/
def tight.operand : Node := tight.root.preorder.getD 10 tight.root

/-- The subject of the call with a new member. -/
def tight.access : Fragment := .property (.node tight.operand) false "some"

end Sample

/-- The word that the access starts with is read together with the keyword before the call. -/
theorem print_merges_sample :
    Sample.tight.access.print Sample.tight.call = .ok "x.some" ∧
      Text.merges Sample.tight.call.textBefore "x.some" = true := by
  have hprint : Sample.tight.access.print Sample.tight.call = .ok "x.some" := by decide +kernel
  obtain ⟨hbefore, -, -⟩ := print_merges hprint
  refine ⟨hprint, hbefore.mpr ⟨.node Sample.tight.operand, "x", rfl, ?_, ?_⟩⟩ <;> decide +kernel

/-- A replacement does not stay apart from what is before it: a keyword takes in a word, and
a sign another sign. -/
theorem print_merges_before :
    (Sample.tight.access.print Sample.tight.call = .ok "x.some" ∧
      Sample.tight.call.textBefore = "typeof" ∧ Text.merges "typeof" "x.some" = true) ∧
    (Fragment.literal (.integer (-1))).print Sample.tight.operand = .ok "-1" ∧
      Sample.tight.operand.textBefore = "typeof[1].old(-" ∧
      Text.merges "typeof[1].old(-" "-1" = true := by
  refine ⟨⟨?_, ?_, ?_⟩, ?_, ?_, ?_⟩ <;> decide +kernel

end Fragment

end CallMigration
