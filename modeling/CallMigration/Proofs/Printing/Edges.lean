import CallMigration.Proofs.Printing.Layout
import Mathlib.Data.List.Chain

/-!
# The ends of a printed fragment

A printed fragment starts and ends with an operand or with a parenthesis, and of two
neighbouring tokens one is always a sign. The characters at the ends of the signs belong to
no word and are neither `+` nor `-`, so what stands at an end of the text is an operand
alone.
-/

namespace CallMigration

namespace Text

/-- Whether a character makes no word or sign together with another one: it belongs to no
word, and is neither `+` nor `-`. -/
def standsApart (c : Char) : Bool := !continuesIdentifier c && c != '+' && c != '-'

end Text

/-! ## Tokens with a sign between operands -/

namespace Token

/-- Whether a token is a sign that fragments are put together with. -/
def isJoint : Token → Bool
  | sign s => s ∈ ["(", ")", ",", ".", "?.", "??", "||", "&&"]
  | _ => false

/-- The text of a joint stands apart at both ends. -/
theorem exists_spelling_of_isJoint {t : Token} (ht : t.isJoint = true) :
    ∃ s, t.spelling? = some s ∧ (∃ c, s.toList.head? = some c ∧ Text.standsApart c = true) ∧
      ∃ c, s.toList.getLast? = some c ∧ Text.standsApart c = true := by
  cases t with
  | operand o => cases ht
  | type n => cases ht
  | sign s =>
      have hs : s ∈ ["(", ")", ",", ".", "?.", "??", "||", "&&"] := of_decide_eq_true ht
      refine ⟨_, rfl, ?_⟩
      simp only [List.mem_cons, List.not_mem_nil, or_false] at hs
      rcases hs with rfl | rfl | rfl | rfl | rfl | rfl | rfl | rfl <;>
        exact ⟨⟨_, rfl, by decide +kernel⟩, _, rfl, by decide +kernel⟩

end Token

/-- Of two neighbouring tokens one is a joint. -/
def Spaced (ts : List Token) : Prop :=
  ts.IsChain fun t u => t.isJoint = true ∨ u.isJoint = true

theorem Spaced.append_joint {ts us : List Token} (hts : Spaced ts) {t : Token}
    (ht : t.isJoint = true) (hus : Spaced us) : Spaced (ts ++ t :: us) := by
  refine List.isChain_append.mpr ⟨hts, List.isChain_cons.mpr ⟨?_, hus⟩, ?_⟩
  · intro u _
    exact Or.inl ht
  · intro u _ t' ht'
    cases ht'
    exact Or.inr ht

/-- Tokens that start and end with an operand or a parenthesis, and are spaced. -/
structure Edged (ts : List Token) : Prop where
  head : ∃ t, ts.head? = some t ∧ (t = .sign "(" ∨ ∃ o, t = .operand o)
  last : ∃ t, ts.getLast? = some t ∧ (t = .sign ")" ∨ ∃ o, t = .operand o)
  spaced : Spaced ts

namespace Edged

theorem operand (o : Operand) : Edged [.operand o] :=
  ⟨⟨_, rfl, Or.inr ⟨o, rfl⟩⟩, ⟨_, rfl, Or.inr ⟨o, rfl⟩⟩, List.isChain_singleton _⟩

theorem paren {ts : List Token} (hts : Spaced ts) : Edged (.sign "(" :: (ts ++ [.sign ")"])) := by
  refine ⟨⟨_, rfl, Or.inl rfl⟩, ⟨.sign ")", ?_, Or.inl rfl⟩, ?_⟩
  · rw [← List.cons_append, List.getLast?_concat]
  · exact Spaced.append_joint List.isChain_nil (by decide)
      (hts.append_joint (by decide) List.isChain_nil)

theorem join {ts us : List Token} (hts : Edged ts) {s : String}
    (hs : (Token.sign s).isJoint = true) (hus : Edged us) : Edged (ts ++ .sign s :: us) := by
  obtain ⟨t, ht, hopens⟩ := hts.head
  obtain ⟨u, hu, hcloses⟩ := hus.last
  refine ⟨⟨t, ?_, hopens⟩, ⟨u, ?_, hcloses⟩, hts.spaced.append_joint hs hus.spaced⟩
  · rw [List.head?_append, ht, Option.some_or]
  · rw [List.getLast?_append, List.getLast?_cons, hu]
    rfl

theorem spaced_intercalate {items : List (List Token)} (hitems : ∀ ts ∈ items, Edged ts) :
    Spaced ([Token.sign ","].intercalate items) := by
  induction items with
  | nil => exact List.isChain_nil
  | cons ts rest ih =>
      have hrest := ih fun us hus => hitems us (List.mem_cons_of_mem ts hus)
      cases rest with
      | nil => simpa using (hitems ts List.mem_cons_self).spaced
      | cons us rest =>
          rw [List.intercalate_cons_cons, List.append_assoc]
          exact (hitems ts List.mem_cons_self).spaced.append_joint (by decide) hrest

theorem call {ts : List Token} (hts : Edged ts) {items : List (List Token)}
    (hitems : ∀ us ∈ items, Edged us) :
    Edged (ts ++ .sign "(" :: ([Token.sign ","].intercalate items ++ [.sign ")"])) := by
  obtain ⟨t, ht, hopens⟩ := hts.head
  have harguments := paren (spaced_intercalate hitems)
  refine ⟨⟨t, ?_, hopens⟩, ⟨.sign ")", ?_, Or.inl rfl⟩, ?_⟩
  · rw [List.head?_append, ht, Option.some_or]
  · rw [← List.cons_append, ← List.append_assoc, List.getLast?_concat]
  · exact hts.spaced.append_joint (by decide) harguments.spaced.tail

end Edged

namespace Fragment

theorem edged_enclose {e : Expr} (he : Edged e.tokens) (needed : Bool) :
    Edged (e.enclose needed).tokens := by
  rw [Expr.tokens_enclose]
  split
  · exact .paren he.spaced
  · exact he

theorem edged_body (f : Fragment) : Edged f.body.tokens := by
  induction f using Fragment.induction with
  | node n => exact .operand _
  | identifier name => exact .operand _
  | literal value => exact .operand _
  | property object optional name ih =>
      rw [tokens_property]
      refine (edged_enclose (edged_enclose ih _) _).join ?_ (.operand _)
      cases optional <;> decide
  | call callee arguments ihcallee iharguments =>
      rw [tokens_call]
      refine (edged_enclose ihcallee _).call ?_
      intro us hus
      obtain ⟨f, hf, rfl⟩ := List.mem_map.mp hus
      exact edged_enclose (iharguments f hf) _
  | binary left op right ihleft ihright =>
      rw [tokens_binary]
      refine (edged_enclose ihleft _).join ?_ (edged_enclose ihright _)
      cases op <;> decide

theorem edged_layout (slot : Slot) (f : Fragment) : Edged (f.layout slot).tokens :=
  edged_enclose f.edged_body _

end Fragment

/-! ## The text at the ends -/

theorem exists_of_spell?_cons {t : Token} {ts : List Token} {text : String}
    (hspell : spell? (t :: ts) = some text) :
    ∃ s rest, t.spelling? = some s ∧ spell? ts = some rest ∧ text = s ++ rest := by
  simp only [spell?, Option.bind_eq_bind, Option.bind_eq_some_iff] at hspell
  obtain ⟨s, hs, rest, hrest, ⟨⟩⟩ := hspell
  exact ⟨s, rest, hs, hrest, rfl⟩

theorem exists_of_spell?_concat {ts : List Token} {t : Token} {text : String}
    (hspell : spell? (ts ++ [t]) = some text) :
    ∃ rest s, spell? ts = some rest ∧ t.spelling? = some s ∧ text = rest ++ s := by
  induction ts generalizing text with
  | nil =>
      obtain ⟨s, rest, hs, ⟨⟩, rfl⟩ := exists_of_spell?_cons hspell
      exact ⟨"", s, rfl, hs, by simp⟩
  | cons u us ih =>
      obtain ⟨first, more, hfirst, hmore, rfl⟩ := exists_of_spell?_cons hspell
      obtain ⟨rest, s, hrest, hs, rfl⟩ := ih hmore
      exact ⟨first ++ rest, s, by simp [spell?, hfirst, hrest], hs, by rw [String.append_assoc]⟩

namespace Spaced

/-- After an operand the text goes on with a character that stands apart. -/
theorem exists_rest {o : Operand} {ts : List Token} (hspaced : Spaced (.operand o :: ts))
    {text : String} (hspell : spell? (.operand o :: ts) = some text) :
    ∃ s rest, o.spelling? = some s ∧ text = s ++ rest ∧
      ∀ c ∈ rest.toList.head?, Text.standsApart c = true := by
  obtain ⟨s, rest, hs, hrest, rfl⟩ := exists_of_spell?_cons hspell
  refine ⟨s, rest, hs, rfl, ?_⟩
  cases ts with
  | nil =>
      cases hrest
      nofun
  | cons u us =>
      have hu : u.isJoint = true :=
        ((List.isChain_cons.mp hspaced).1 u rfl).resolve_left (by simp [Token.isJoint])
      obtain ⟨joint, hjoint, ⟨c, hhead, hc⟩, -⟩ := Token.exists_spelling_of_isJoint hu
      obtain ⟨joint', more, hjoint', -, rfl⟩ := exists_of_spell?_cons hrest
      cases hjoint.symm.trans hjoint'
      intro d hd
      rw [String.toList_append, List.head?_append, hhead, Option.some_or] at hd
      cases hd
      exact hc

/-- Before an operand the text has a character that stands apart. -/
theorem exists_start {o : Operand} {ts : List Token} (hspaced : Spaced (ts ++ [.operand o]))
    {text : String} (hspell : spell? (ts ++ [.operand o]) = some text) :
    ∃ rest s, o.spelling? = some s ∧ text = rest ++ s ∧
      ∀ c ∈ rest.toList.getLast?, Text.standsApart c = true := by
  obtain ⟨rest, s, hrest, hs, rfl⟩ := exists_of_spell?_concat hspell
  refine ⟨rest, s, hs, rfl, ?_⟩
  rcases List.eq_nil_or_concat' ts with rfl | ⟨us, u, rfl⟩
  · cases hrest
    nofun
  · have hu : u.isJoint = true :=
      ((List.isChain_append.mp hspaced).2.2 u (by simp) _ rfl).resolve_right
        (by simp [Token.isJoint])
    obtain ⟨joint, hjoint, -, c, hlast, hc⟩ := Token.exists_spelling_of_isJoint hu
    obtain ⟨more, joint', -, hjoint', rfl⟩ := exists_of_spell?_concat hrest
    cases hjoint.symm.trans hjoint'
    intro d hd
    rw [String.toList_append, List.getLast?_append, hlast, Option.some_or] at hd
    cases hd
    exact hc

end Spaced

namespace Fragment

variable {file : SourceFile} {slot : Slot} {f : Fragment} {text : String}

/-- The text of a fragment starts with a parenthesis or with an operand alone. -/
theorem renderIn_head (hok : renderIn file slot f = .ok text) :
    ((f.layout slot).tokens.head? = some (.sign "(") ∧ ∃ rest, text = "(" ++ rest) ∨
      ∃ o s rest, (f.layout slot).tokens.head? = some (.operand o) ∧ o.spelling? = some s ∧
        text = s ++ rest ∧ ∀ c ∈ rest.toList.head?, Text.standsApart c = true := by
  have hspell := spell?_layout hok
  have hedged := f.edged_layout slot
  obtain ⟨t, ht, hopens⟩ := hedged.head
  obtain ⟨ts, htokens⟩ := List.head?_eq_some_iff.mp ht
  rw [htokens] at hspell hedged ⊢
  obtain rfl | ⟨o, rfl⟩ := hopens
  · obtain ⟨s, rest, hs, -, rfl⟩ := exists_of_spell?_cons hspell
    have hopen : (Token.sign "(").spelling? = some "(" := by decide
    cases hopen.symm.trans hs
    exact Or.inl ⟨rfl, rest, rfl⟩
  · obtain ⟨s, rest, hs, htext, hrest⟩ := hedged.spaced.exists_rest hspell
    exact Or.inr ⟨o, s, rest, rfl, hs, htext, hrest⟩

/-- The text of a fragment ends with a parenthesis or with an operand alone. -/
theorem renderIn_last (hok : renderIn file slot f = .ok text) :
    ((f.layout slot).tokens.getLast? = some (.sign ")") ∧ ∃ rest, text = rest ++ ")") ∨
      ∃ o rest s, (f.layout slot).tokens.getLast? = some (.operand o) ∧ o.spelling? = some s ∧
        text = rest ++ s ∧ ∀ c ∈ rest.toList.getLast?, Text.standsApart c = true := by
  have hspell := spell?_layout hok
  have hedged := f.edged_layout slot
  obtain ⟨t, ht, hcloses⟩ := hedged.last
  obtain ⟨ts, htokens⟩ := List.getLast?_eq_some_iff.mp ht
  rw [htokens] at hspell hedged ⊢
  obtain rfl | ⟨o, rfl⟩ := hcloses
  · obtain ⟨rest, s, -, hs, rfl⟩ := exists_of_spell?_concat hspell
    have hclose : (Token.sign ")").spelling? = some ")" := by decide
    cases hclose.symm.trans hs
    exact Or.inl ⟨List.getLast?_concat, rest, rfl⟩
  · obtain ⟨rest, s, hs, htext, hrest⟩ := hedged.spaced.exists_start hspell
    exact Or.inr ⟨o, rest, s, List.getLast?_concat, hs, htext, hrest⟩

end Fragment

end CallMigration
