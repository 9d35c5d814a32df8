import CallMigration.Text.Slice
import Mathlib.Data.List.Induction
import Mathlib.Data.String.Basic

/-!
# Slices between character boundaries

A boundary is where a text can be cut in two, so two boundaries in order cut it in
three and the slice between them is the middle piece. Slices that touch therefore
join. The last section says what the location of a boundary counts.
-/

namespace CallMigration

/-- A span that can be cut out of `text`: in order, between boundaries. -/
structure Span.Fits (text : String) (s : Span) : Prop where
  ordered : s.start ≤ s.stop
  start_boundary : Text.isBoundary text s.start = true
  stop_boundary : Text.isBoundary text s.stop = true

instance (text : String) (s : Span) : Decidable (s.Fits text) :=
  decidable_of_iff (s.start ≤ s.stop ∧ Text.isBoundary text s.start = true ∧
      Text.isBoundary text s.stop = true)
    ⟨fun h => ⟨h.1, h.2.1, h.2.2⟩, fun h => ⟨h.ordered, h.start_boundary, h.stop_boundary⟩⟩

theorem Span.eq_mk_iff {s : Span} {a b : Nat} : s = ⟨a, b⟩ ↔ s.start = a ∧ s.stop = b := by
  cases s
  simp

/-- The part of a text that a span covers. -/
def Span.textIn (text : String) (s : Span) : String :=
  Text.slice text s.start s.stop

namespace Text

/-! ## Boundaries -/

theorem isBoundary_iff {text : String} {offset : Nat} :
    isBoundary text offset = true ↔
      ∃ left right, text = left ++ right ∧ offset = left.utf8ByteSize := by
  rw [isBoundary, String.Pos.Raw.isValid_eq_true_iff, String.Pos.Raw.isValid_iff_exists_append]
  constructor
  · rintro ⟨left, right, htext, hpos⟩
    exact ⟨left, right, htext, congrArg String.Pos.Raw.byteIdx hpos⟩
  · rintro ⟨left, right, htext, rfl⟩
    exact ⟨left, right, htext, rfl⟩

theorem isBoundary_zero (text : String) : isBoundary text 0 = true :=
  isBoundary_iff.mpr ⟨"", text, by simp, by simp⟩

theorem isBoundary_size (text : String) : isBoundary text text.utf8ByteSize = true :=
  isBoundary_iff.mpr ⟨text, "", by simp, rfl⟩

theorem isBoundary_append (left right : String) :
    isBoundary (left ++ right) left.utf8ByteSize = true :=
  isBoundary_iff.mpr ⟨left, right, rfl, rfl⟩

theorem le_size_of_isBoundary {text : String} {offset : Nat}
    (hboundary : isBoundary text offset = true) : offset ≤ text.utf8ByteSize := by
  obtain ⟨left, right, rfl, rfl⟩ := isBoundary_iff.mp hboundary
  rw [String.utf8ByteSize_append]
  exact Nat.le_add_right _ _

/-- Of two ways to cut a text, the one that cuts earlier cuts inside the first
piece of the other. -/
theorem exists_append_of_le {left right left' right' : String}
    (heq : left ++ right = left' ++ right') (hle : left.utf8ByteSize ≤ left'.utf8ByteSize) :
    ∃ middle, left' = left ++ middle := by
  have hchars : left.toList ++ right.toList = left'.toList ++ right'.toList := by
    simpa only [String.toList_append] using congrArg String.toList heq
  rcases List.append_eq_append_iff.mp hchars with ⟨middle, hleft', -⟩ | ⟨middle, hleft, -⟩
  · refine ⟨String.ofList middle, String.toList_injective ?_⟩
    rw [String.toList_append, String.toList_ofList, hleft']
  · -- The other way round the difference has no bytes.
    have hsplit : left = left' ++ String.ofList middle := by
      apply String.toList_injective
      rw [String.toList_append, String.toList_ofList, hleft]
    have hsize : (String.ofList middle).utf8ByteSize = 0 := by
      rw [hsplit, String.utf8ByteSize_append] at hle
      omega
    rw [String.utf8ByteSize_eq_zero_iff.mp hsize, String.append_empty] at hsplit
    exact ⟨"", by rw [String.append_empty, hsplit]⟩

/-! ## Slices -/

theorem slice_append (left middle right : String) :
    slice (left ++ middle ++ right) left.utf8ByteSize
      (left.utf8ByteSize + middle.utf8ByteSize) = middle := by
  have hvalid := String.extract_of_valid left.toList middle.toList right.toList
  simp only [String.ofList_append, String.ofList_toList, ← String.utf8ByteSize_ofList] at hvalid
  exact hvalid

theorem slice_self (text : String) (offset : Nat) : slice text offset offset = "" :=
  if_pos (Nat.le_refl offset)

theorem slice_zero_append (left right : String) :
    slice (left ++ right) 0 left.utf8ByteSize = left := by
  simpa using slice_append "" left right

theorem sliceFrom_append (left right : String) :
    sliceFrom (left ++ right) left.utf8ByteSize = right := by
  simpa [sliceFrom, String.utf8ByteSize_append] using slice_append left right ""

theorem sliceFrom_zero (text : String) : sliceFrom text 0 = text := by
  simpa using sliceFrom_append "" text

theorem slice_append_sliceFrom {text : String} {offset : Nat}
    (hboundary : isBoundary text offset = true) :
    slice text 0 offset ++ sliceFrom text offset = text := by
  obtain ⟨left, right, rfl, rfl⟩ := isBoundary_iff.mp hboundary
  rw [slice_zero_append, sliceFrom_append]

theorem size_slice_zero {text : String} {offset : Nat}
    (hboundary : isBoundary text offset = true) :
    (slice text 0 offset).utf8ByteSize = offset := by
  obtain ⟨left, right, rfl, rfl⟩ := isBoundary_iff.mp hboundary
  rw [slice_zero_append]

end Text

namespace Span.Fits

open Text

variable {text : String}

/-- A span that fits cuts its text in three pieces, of which the slice is the
middle one. -/
theorem exists_pieces {s : Span} (hfits : s.Fits text) :
    ∃ left middle right, text = left ++ middle ++ right ∧ s.start = left.utf8ByteSize ∧
      s.stop = left.utf8ByteSize + middle.utf8ByteSize ∧
      slice text s.start s.stop = middle := by
  obtain ⟨left, rest, htext, hstart⟩ := isBoundary_iff.mp hfits.start_boundary
  obtain ⟨upto, right, htext', hstop⟩ := isBoundary_iff.mp hfits.stop_boundary
  have hle : left.utf8ByteSize ≤ upto.utf8ByteSize := by
    rw [← hstart, ← hstop]
    exact hfits.ordered
  obtain ⟨middle, rfl⟩ := exists_append_of_le (htext.symm.trans htext') hle
  rw [String.utf8ByteSize_append] at hstop
  refine ⟨left, middle, right, htext', hstart, hstop, ?_⟩
  rw [hstart, hstop, htext', slice_append]

theorem stop_le_size {s : Span} (hfits : s.Fits text) : s.stop ≤ text.utf8ByteSize :=
  le_size_of_isBoundary hfits.stop_boundary

theorem start_add_size_slice {s : Span} (hfits : s.Fits text) :
    s.start + (slice text s.start s.stop).utf8ByteSize = s.stop := by
  obtain ⟨left, middle, right, -, hstart, hstop, hslice⟩ := hfits.exists_pieces
  rw [hslice, hstart, hstop]

theorem of_append (left middle right : String) :
    (Span.mk left.utf8ByteSize (left.utf8ByteSize + middle.utf8ByteSize)).Fits
      (left ++ middle ++ right) where
  ordered := Nat.le_add_right _ _
  start_boundary := by
    rw [String.append_assoc]
    exact isBoundary_append left (middle ++ right)
  stop_boundary := by
    rw [← String.utf8ByteSize_append]
    exact isBoundary_append (left ++ middle) right

/-- What is cut out of the beginning of a text is cut out of the text. -/
theorem slice_slice_zero {a b offset : Nat} (hfits : (Span.mk a b).Fits text)
    (hboundary : isBoundary text offset = true) (hle : b ≤ offset) :
    slice (slice text 0 offset) a b = slice text a b := by
  obtain ⟨left, middle, right, htext, rfl, rfl, hslice⟩ := hfits.exists_pieces
  obtain ⟨front, back, htext', rfl⟩ := isBoundary_iff.mp hboundary
  have hsize : (left ++ middle).utf8ByteSize ≤ front.utf8ByteSize := by
    rw [String.utf8ByteSize_append]
    exact hle
  obtain ⟨gap, rfl⟩ := exists_append_of_le (htext.symm.trans htext') hsize
  dsimp only at hslice
  rw [hslice, htext', slice_zero_append, slice_append]

theorem slice_append_slice {a b c : Nat} (hab : (Span.mk a b).Fits text)
    (hbc : (Span.mk b c).Fits text) : slice text a b ++ slice text b c = slice text a c := by
  obtain ⟨left, middle, right, htext, rfl, rfl, hslice⟩ := hab.exists_pieces
  obtain ⟨upto, middle', right', htext', hstart, rfl, hslice'⟩ := hbc.exists_pieces
  -- The first span ends at the cut where the second starts.
  have hupto : upto = left ++ middle := by
    have heq : left ++ middle ++ right = upto ++ (middle' ++ right') := by
      rw [← htext, htext', String.append_assoc]
    have hsize : (left ++ middle).utf8ByteSize = upto.utf8ByteSize := by
      rw [String.utf8ByteSize_append]
      exact hstart
    obtain ⟨gap, rfl⟩ := exists_append_of_le heq (Nat.le_of_eq hsize)
    rw [String.utf8ByteSize_append (t := gap)] at hsize
    have hgap : gap.utf8ByteSize = 0 := by omega
    rw [String.utf8ByteSize_eq_zero_iff.mp hgap, String.append_empty]
  subst hupto
  have hjoined : text = left ++ (middle ++ middle') ++ right' := by
    simpa only [String.append_assoc] using htext'
  have hsize : (left ++ middle).utf8ByteSize + middle'.utf8ByteSize =
      left.utf8ByteSize + (middle ++ middle').utf8ByteSize := by
    simp only [String.utf8ByteSize_append, Nat.add_assoc]
  dsimp only at hslice hslice'
  rw [hslice, hslice', hjoined, hsize, slice_append]

end Span.Fits

/-! ## Locations -/

namespace Location

/-- What the location of a byte offset counts. In front of the offset stand whole
lines, each with its line feed, and the beginning `line` of one more line: the line
number counts the former and the column the bytes of the latter, both from one. -/
def Counts (text : String) (offset : Nat) (l : Location) : Prop :=
  ∃ lines line rest, text = lines ++ line ++ rest ∧ offset = (lines ++ line).utf8ByteSize ∧
    (lines = "" ∨ ∃ most, lines = most ++ "\n") ∧ '\n' ∉ line.toList ∧
    l.line = lines.toList.count '\n' + 1 ∧ l.column = line.utf8ByteSize + 1

/-- Going through a text one character at a time keeps the two counts. -/
theorem counts_foldl_advance (chars : List Char) (rest : String) :
    (chars.foldl advance origin).Counts (String.ofList chars ++ rest)
      (String.ofList chars).utf8ByteSize := by
  induction chars using List.reverseRecOn generalizing rest with
  | nil => exact ⟨"", "", rest, by simp, by simp, .inl rfl, by simp, rfl, rfl⟩
  | append_singleton chars c ih =>
      obtain ⟨lines, line, after, htext, hoffset, hlines, hline, hcount, hcolumn⟩ :=
        ih (String.singleton c ++ rest)
      have hfront : String.ofList chars = lines ++ line := by
        have htake := congrArg (Text.slice · 0 (String.ofList chars).utf8ByteSize) htext
        rwa [Text.slice_zero_append, hoffset, Text.slice_zero_append] at htake
      have hchars : chars = lines.toList ++ line.toList := by
        simpa using congrArg String.toList hfront
      rw [List.foldl_append, List.foldl_cons, List.foldl_nil, String.ofList_append]
      by_cases hc : c = '\n'
      · -- The line is complete now and goes over to the whole lines.
        subst hc
        refine ⟨String.ofList chars ++ "\n", "", rest, by simp, by simp, .inr ⟨_, rfl⟩,
          by simp, ?_, by simp [advance]⟩
        have hnone : line.toList.count '\n' = 0 := List.count_eq_zero.mpr hline
        have htotal : chars.count '\n' = lines.toList.count '\n' := by
          rw [hchars, List.count_append, hnone, Nat.add_zero]
        simp [advance, hcount, htotal]
      · refine ⟨lines, line ++ String.singleton c, rest, ?_, ?_, hlines, ?_, ?_, ?_⟩
        · rw [hfront, String.singleton_eq_ofList]
          simp only [String.append_assoc]
        · rw [hfront, String.singleton_eq_ofList, String.append_assoc]
        · simpa [hline] using Ne.symm hc
        · simpa [advance, hc] using hcount
        · simp only [advance, hc, if_false, hcolumn, String.utf8ByteSize_append,
            String.utf8ByteSize_singleton]
          omega

theorem ofOffset_counts {text : String} {offset : Nat}
    (hboundary : Text.isBoundary text offset = true) :
    (ofOffset text offset).Counts text offset := by
  obtain ⟨left, right, rfl, rfl⟩ := Text.isBoundary_iff.mp hboundary
  have hcounts := counts_foldl_advance left.toList right
  rw [String.ofList_toList] at hcounts
  rwa [ofOffset, Text.slice_zero_append]

end Location

end CallMigration
