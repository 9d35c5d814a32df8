import CallMigration.Printing.Print
import CallMigration.Toml.Quoted
import Mathlib.Data.List.Basic

/-!
# String literals

A string literal of the language stands between double quotes, and its value is a sequence of
UTF-16 code units. The reader here knows all escapes that modules may use, far more than are
ever written. What is written for a text is read as one literal, whatever stands after it, and
its value is the text.
-/

namespace CallMigration

namespace Text

/-! ## Code units -/

/-- The UTF-16 code units of a code point. -/
def codePointUnits (n : Nat) : List Nat :=
  if n < 0x10000 then [n] else [0xD800 + (n - 0x10000) / 0x400, 0xDC00 + (n - 0x10000) % 0x400]

/-- The UTF-16 code units of a text. -/
def units (s : String) : List Nat := s.toList.flatMap fun c => codePointUnits c.toNat

/-- The first character can be told from what follows. -/
theorem codePointUnits_append_inj {c d : Char} {us vs : List Nat}
    (heq : codePointUnits c.toNat ++ us = codePointUnits d.toNat ++ vs) : c = d ∧ us = vs := by
  have hchar : c.toNat = d.toNat → c = d := fun h => Char.ext (UInt32.toNat_inj.mp h)
  -- The first unit of a pair is none that stands alone.
  have hc : c.toNat < 0xD800 ∨ 0xDFFF < c.toNat ∧ c.toNat < 0x110000 := c.valid
  have hd : d.toNat < 0xD800 ∨ 0xDFFF < d.toNat ∧ d.toNat < 0x110000 := d.valid
  unfold codePointUnits at heq
  split at heq <;> split at heq <;>
    simp only [List.cons_append, List.nil_append, List.cons.injEq] at heq
  · exact ⟨hchar heq.1, heq.2⟩
  · omega
  · omega
  · exact ⟨hchar (by omega), heq.2.2⟩

/-- Different texts have different code units. -/
theorem units_injective : Function.Injective units := by
  intro s t heq
  apply String.toList_inj.mp
  rw [units, units] at heq
  generalize s.toList = cs at heq ⊢
  generalize t.toList = ds at heq ⊢
  have hnonempty : ∀ (c : Char) (us : List Nat), codePointUnits c.toNat ++ us ≠ [] := by
    intro c us
    unfold codePointUnits
    split <;> exact List.cons_ne_nil _ _
  induction cs generalizing ds with
  | nil =>
      cases ds with
      | nil => rfl
      | cons d ds => exact absurd heq.symm (hnonempty d _)
  | cons c cs ih =>
      cases ds with
      | nil => exact absurd heq (hnonempty c _)
      | cons d ds =>
          rw [List.flatMap_cons, List.flatMap_cons] at heq
          obtain ⟨rfl, hrest⟩ := codePointUnits_append_inj heq
          rw [ih ds hrest]

/-! ## Reading -/

/-- Whether a line ends with the character. -/
def endsLine (c : Char) : Bool := c = '\n' || c = '\r' || c.toNat = 0x2028 || c.toNat = 0x2029

/-- The number that hexadecimal digits stand for. -/
def hexNumber? (digits : List Char) : Option Nat :=
  (digits.mapM Toml.hexValue?).map fun values => values.foldl (fun n v => 16 * n + v) 0

/-- The code unit that the first so many characters stand for, as hexadecimal digits. -/
def hexUnits? (count : Nat) (cs : List Char) : Option (List Nat) :=
  if cs.length < count then none else (hexNumber? (cs.take count)).map fun n => [n]

/-- The code units of a code point in hexadecimal digits. -/
def codePoint? (digits : List Char) : Option (List Nat) :=
  if digits = [] then none
  else (hexNumber? digits).bind fun n => if n ≤ 0x10FFFF then some (codePointUnits n) else none

/-- What a letter stands for after a backslash. -/
def letterUnits (c : Char) : List Nat :=
  match c with
  | 'b' => [8]
  | 't' => [9]
  | 'n' => [10]
  | 'v' => [11]
  | 'f' => [12]
  | 'r' => [13]
  | c => codePointUnits c.toNat

/-- The code units of the escape that a backslash and the given characters begin with, and how
many of the characters belong to it. The end of a line is left out; of the digits, only a zero
that no digit follows is an escape. -/
def escape? : List Char → Option (List Nat × Nat)
  | [] => none
  | 'x' :: rest => (hexUnits? 2 rest).map fun us => (us, 3)
  | 'u' :: '\x7b' :: rest =>
      let digits := rest.takeWhile (· ≠ '\x7d')
      if digits = rest then none else (codePoint? digits).map fun us => (us, digits.length + 3)
  | 'u' :: rest => (hexUnits? 4 rest).map fun us => (us, 5)
  | '\r' :: '\n' :: _ => some ([], 2)
  | c :: rest =>
      if endsLine c then some ([], 1)
      else if c = '0' ∧ rest.head?.any Char.isDigit = false then some ([0], 1)
      else if c.isDigit then none
      else some (letterUnits c, 1)

/-- The code units of a string literal after its opening quote, and what follows it. -/
def stringBody? : List Char → Option (List Nat × List Char)
  | [] => none
  | c :: rest =>
      if c = '"' then some ([], rest)
      else if c = '\\' then
        (escape? rest).bind fun escape =>
          (stringBody? (rest.drop escape.2)).map (.map (escape.1 ++ ·) id)
      -- The other two characters that end a line may stand in a literal.
      else if c = '\n' ∨ c = '\r' then none
      else (stringBody? rest).map (.map (codePointUnits c.toNat ++ ·) id)
termination_by cs => cs.length

/-- The code units of a string literal, and what follows it. -/
def stringLiteral? : List Char → Option (List Nat × List Char)
  | '"' :: rest => stringBody? rest
  | _ => none

/-! ## What is written -/

/-- Whether a character can stand between the quotes as it is. -/
structure IsPlain (c : Char) : Prop where
  ne_quote : c ≠ '"'
  ne_backslash : c ≠ '\\'
  not_control : 32 ≤ c.toNat

instance : DecidablePred IsPlain := fun c =>
  decidable_of_iff (c ≠ '"' ∧ c ≠ '\\' ∧ 32 ≤ c.toNat)
    ⟨fun h => ⟨h.1, h.2.1, h.2.2⟩, fun h => ⟨h.ne_quote, h.ne_backslash, h.not_control⟩⟩

/-- A text that can stand between double quotes: each quote and each backslash in it is part of
an escape, which a backslash begins and a further character ends, and no control character below
the blank is in it. -/
inductive IsBody : List Char → Prop
  | nil : IsBody []
  | plain {c : Char} {cs : List Char} (hc : IsPlain c) (hrest : IsBody cs) : IsBody (c :: cs)
  | escape {c : Char} {cs : List Char} (hc : 32 ≤ c.toNat) (hrest : IsBody cs) :
      IsBody ('\\' :: c :: cs)

theorem IsBody.append_plain {cs rest : List Char} (hcs : ∀ c ∈ cs, IsPlain c)
    (hrest : IsBody rest) : IsBody (cs ++ rest) := by
  induction cs with
  | nil => exact hrest
  | cons c cs ih =>
      obtain ⟨hc, hcs⟩ := List.forall_mem_cons.mp hcs
      exact .plain hc (ih hcs)

/-- What is written after a backslash for a character. -/
structure IsEscape (c : Char) (cs : List Char) : Prop where
  reads (rest : List Char) : escape? (cs ++ rest) = some (codePointUnits c.toNat, cs.length)
  body {rest : List Char} (hrest : IsBody rest) : IsBody ('\\' :: cs ++ rest)

/-- One character after the backslash is enough for those that have a letter. -/
theorem isEscape_letter {c d : Char} (hd : d ∈ ['"', '\\', 'b', 'f', 'n', 'r', 't'])
    (hc : letterUnits d = codePointUnits c.toNat) : IsEscape c [d] where
  reads rest := by
    rw [← hc]
    simp only [List.mem_cons, List.not_mem_nil, or_false] at hd
    rcases hd with rfl | rfl | rfl | rfl | rfl | rfl | rfl <;> simp [escape?, endsLine]
  body hrest := by
    have hcontrol : ['"', '\\', 'b', 'f', 'n', 'r', 't'].all (32 ≤ ·.toNat) = true := by decide
    exact .escape (of_decide_eq_true (List.all_eq_true.mp hcontrol d hd)) hrest

/-- A control character is written with four digits. -/
theorem isEscape_hexFour {c : Char} (hc : c.toNat < 32) :
    IsEscape c ('u' :: (hexFour c.toNat).toList) := by
  have hdigits : ∀ n < 32, hexNumber? (hexFour n).toList = some n ∧
      (hexFour n).toList.length = 4 ∧
      (hexFour n).toList.all (fun d => d ≠ '\x7b' ∧ IsPlain d) = true := by
    decide +kernel
  obtain ⟨hnumber, hlength, hall⟩ := hdigits _ hc
  generalize (hexFour c.toNat).toList = digits at hnumber hlength hall
  have hplain : ∀ d ∈ digits, d ≠ '\x7b' ∧ IsPlain d := fun d hd =>
    of_decide_eq_true (List.all_eq_true.mp hall d hd)
  constructor
  · intro rest
    have hread : hexUnits? 4 (digits ++ rest) = some [c.toNat] := by
      rw [hexUnits?, if_neg (by simp [hlength]), List.take_left' hlength, hnumber, Option.map_some]
    have hunits : codePointUnits c.toNat = [c.toNat] := if_pos (by omega)
    have hfirst : ∀ more, digits ++ rest ≠ '\x7b' :: more := by
      intro more heq
      cases digits with
      | nil => cases hlength
      | cons d digits => exact (hplain d List.mem_cons_self).1 (List.cons.inj heq).1
    rw [List.cons_append, escape?, hread, hunits, List.length_cons, hlength]
    · rfl
    · exact hfirst
  · intro rest hrest
    exact .escape (by decide) (.append_plain (fun d hd => (hplain d hd).2) hrest)

/-- A character is written as it is or as an escape. -/
theorem literalChar_cases (c : Char) :
    (IsPlain c ∧ (literalChar c).toList = [c]) ∨
      ∃ cs, IsEscape c cs ∧ (literalChar c).toList = '\\' :: cs := by
  unfold literalChar
  split_ifs with hquote hslash hback hfeed hline hreturn htab hcontrol
  · exact .inr ⟨_, isEscape_letter (d := '"') (by simp) (by rw [hquote]; rfl), rfl⟩
  · exact .inr ⟨_, isEscape_letter (d := '\\') (by simp) (by rw [hslash]; rfl), rfl⟩
  · exact .inr ⟨_, isEscape_letter (d := 'b') (by simp) (by rw [hback]; rfl), rfl⟩
  · exact .inr ⟨_, isEscape_letter (d := 'f') (by simp) (by rw [hfeed]; rfl), rfl⟩
  · exact .inr ⟨_, isEscape_letter (d := 'n') (by simp) (by rw [hline]; rfl), rfl⟩
  · exact .inr ⟨_, isEscape_letter (d := 'r') (by simp) (by rw [hreturn]; rfl), rfl⟩
  · exact .inr ⟨_, isEscape_letter (d := 't') (by simp) (by rw [htab]; rfl), rfl⟩
  · refine .inr ⟨_, isEscape_hexFour hcontrol, ?_⟩
    rw [String.toList_append]
    rfl
  · exact .inl ⟨⟨hquote, hslash, by omega⟩, by simp⟩

/-! ## Reading what is written -/

theorem stringBody?_quote (rest : List Char) : stringBody? ('"' :: rest) = some ([], rest) := by
  rw [stringBody?, if_pos rfl]

theorem stringBody?_plain {c : Char} (hc : IsPlain c) (rest : List Char) :
    stringBody? (c :: rest) =
      (stringBody? rest).map (.map (codePointUnits c.toNat ++ ·) id) := by
  have hline : ¬ (c = '\n' ∨ c = '\r') := by
    rintro (rfl | rfl) <;> exact absurd hc.not_control (by decide)
  rw [stringBody?, if_neg hc.ne_quote, if_neg hc.ne_backslash, if_neg hline]

theorem stringBody?_escape {c : Char} {cs : List Char} (hcs : IsEscape c cs) (rest : List Char) :
    stringBody? ('\\' :: cs ++ rest) =
      (stringBody? rest).map (.map (codePointUnits c.toNat ++ ·) id) := by
  rw [List.cons_append, stringBody?, if_neg (by decide), if_pos rfl, hcs.reads, Option.bind_some,
    List.drop_left]

/-- What is written for one character is read as that character. -/
theorem stringBody?_literalChar (c : Char) (rest : List Char) :
    stringBody? ((literalChar c).toList ++ rest) =
      (stringBody? rest).map (.map (codePointUnits c.toNat ++ ·) id) := by
  rcases literalChar_cases c with ⟨hc, htext⟩ | ⟨cs, hcs, htext⟩
  · rw [htext, List.singleton_append, stringBody?_plain hc]
  · rw [htext, stringBody?_escape hcs]

/-- What is written for the characters of a text. -/
def body (s : String) : List Char := s.toList.flatMap fun c => (literalChar c).toList

theorem toList_literal (s : String) : (literal s).toList = '"' :: body s ++ ['"'] := by
  simp [literal, body, String.toList_append, List.flatMap_map]

theorem isBody_body (s : String) : IsBody (body s) := by
  rw [body]
  induction s.toList with
  | nil => exact .nil
  | cons c cs ih =>
      rw [List.flatMap_cons]
      rcases literalChar_cases c with ⟨hc, htext⟩ | ⟨escape, hescape, htext⟩
      · rw [htext]
        exact .plain hc ih
      · rw [htext]
        exact hescape.body ih

theorem stringBody?_body (s : String) (rest : List Char) :
    stringBody? (body s ++ '"' :: rest) = some (units s, rest) := by
  rw [body, units]
  induction s.toList with
  | nil => exact stringBody?_quote rest
  | cons c cs ih =>
      rw [List.flatMap_cons, List.append_assoc, stringBody?_literalChar, ih, Option.map_some,
        List.flatMap_cons]
      rfl

theorem IsBody.not_control {cs : List Char} (hcs : IsBody cs) : ∀ c ∈ cs, 32 ≤ c.toNat := by
  induction hcs with
  | nil => exact List.forall_mem_nil _
  | plain hc _ ih => exact List.forall_mem_cons.mpr ⟨hc.not_control, ih⟩
  | escape hc _ ih =>
      exact List.forall_mem_cons.mpr ⟨by decide, List.forall_mem_cons.mpr ⟨hc, ih⟩⟩

end Text

/-- A string literal needs parentheses nowhere. -/
theorem Slot.needsParens_text (slot : Slot) (s : String) :
    slot.needsParens (.literal (.text s)) = false := by
  have hleast : ¬ Precedence.primary < slot.least := by
    cases slot.least <;> decide
  have hprecedence : (Fragment.literal (.text s)).precedence = .primary := rfl
  have hchain : (Fragment.literal (.text s)).isOptionalChain = false := rfl
  simp [needsParens, hprecedence, hleast, hchain, Fragment.operator?, mixesCoalesce]

/-- What is written for a text is one string literal between double quotes. Between them every
quote and every backslash is part of an escape, and there is no control character below the
blank. Whatever follows it, the literal is read up to its last quote, and its value is the text:
no other text has these code units. It is written so in every place of a file. -/
theorem Literal.render_text (s : String) :
    ∃ body : List Char, render (.text s) = .ok (String.ofList ('"' :: body ++ ['"'])) ∧
      Text.IsBody body ∧ (∀ c ∈ body, 32 ≤ c.toNat) ∧
      (∀ rest, Text.stringLiteral? ('"' :: body ++ '"' :: rest) = some (Text.units s, rest)) ∧
      (∀ t, Text.units t = Text.units s → t = s) ∧
      ∀ site, (Fragment.literal (.text s)).print site = render (.text s) := by
  refine ⟨Text.body s, ?_, Text.isBody_body s, (Text.isBody_body s).not_control, ?_, ?_, ?_⟩
  · rw [render, ← Text.toList_literal, String.ofList_toList]
  · intro rest
    exact Text.stringBody?_body s rest
  · intro t ht
    exact Text.units_injective ht
  · intro site
    rw [Fragment.print, Fragment.renderIn, Slot.needsParens_text]
    rfl

/-- Quotes after a backslash, a backslash at the end, and a control character without a letter. -/
example :
    Literal.render (.text "\\\"\u0001\\") = .ok "\"\\\\\\\"\\u0001\\\\\"" := by
  decide

end CallMigration
