import CallMigration.Proofs.Text.Overlay

/-!
# What an overlay gives back

Edits that follow one another in a text split it into gaps and replaced parts, and the
finished text is the gaps with the new texts woven in. Putting the edits in one at a
time from the last to the first gives the same text. Stored edits stand in the order
of their spans, and those with the same span in the order of registration, so the
insertions at an offset come out in that order and before a replacement there.
-/

namespace CallMigration

/-- Texts put between gaps, of which there is one more. -/
def Text.weave : List String → List String → String
  | [], _ => ""
  | gap :: _, [] => gap
  | gap :: gaps, text :: texts => gap ++ text ++ weave gaps texts

/-- Where the texts stand that are woven into gaps from `cursor` on. -/
def Text.places (cursor : Nat) : List String → List String → List Span
  | gap :: gaps, text :: texts =>
      let start := cursor + gap.utf8ByteSize
      ⟨start, start + text.utf8ByteSize⟩ :: places (start + text.utf8ByteSize) gaps texts
  | _, _ => []

/-- Put one edit into a text. Its span has to fit. -/
def Edit.splice? (text : String) (e : Edit) : Option String :=
  if e.span.Fits text then
    some (Text.slice text 0 e.span.start ++ e.text ++ Text.sliceFrom text e.span.stop)
  else none

namespace Overlay

open Text

/-- The spans that stay as they are, from `cursor` to the end of a text of `size` bytes. -/
def gaps (size cursor : Nat) : List Edit → List Span
  | [] => [⟨cursor, size⟩]
  | e :: rest => ⟨cursor, e.span.start⟩ :: gaps size e.span.stop rest

/-- Put edits into a text one at a time, the last one first. -/
def spliceBack? (text : String) (edits : List Edit) : Option String :=
  edits.foldrM (fun e out => e.splice? out) text

/-- Edits that can be put into `text` in one pass from `cursor` on. -/
inductive FitsFrom (text : String) : Nat → List Edit → Prop
  | done {cursor : Nat} (hcursor : isBoundary text cursor = true) : FitsFrom text cursor []
  | edit {cursor : Nat} {e : Edit} {rest : List Edit}
      (hgap : (Span.mk cursor e.span.start).Fits text) (hspan : e.span.Fits text)
      (hrest : FitsFrom text e.span.stop rest) : FitsFrom text cursor (e :: rest)

theorem fitsFrom_of_pairwise {text : String} {cursor : Nat} {edits : List Edit}
    (hcursor : isBoundary text cursor = true) (hstart : ∀ e ∈ edits, cursor ≤ e.span.start)
    (hfits : ∀ e ∈ edits, e.span.Fits text)
    (hapart : edits.Pairwise fun a b => a.span.stop ≤ b.span.start) :
    FitsFrom text cursor edits := by
  induction edits generalizing cursor with
  | nil => exact .done hcursor
  | cons e rest ih =>
      have hspan := hfits e List.mem_cons_self
      obtain ⟨hnext, hrest⟩ := List.pairwise_cons.mp hapart
      refine .edit ⟨hstart e List.mem_cons_self, hcursor, hspan.start_boundary⟩ hspan ?_
      exact ih hspan.stop_boundary hnext (fun x hx => hfits x (List.mem_cons_of_mem _ hx)) hrest

theorem Tidy.fitsFrom {o : Overlay} (htidy : o.Tidy) : FitsFrom o.text 0 o.edits :=
  fitsFrom_of_pairwise (isBoundary_zero o.text) (fun _ _ => Nat.zero_le _) htidy.fits htidy.apart

/-- One pass over the edits weaves their texts into the gaps. -/
theorem render_eq_weave (text : String) (cursor : Nat) (edits : List Edit) :
    render text cursor edits =
      weave ((gaps text.utf8ByteSize cursor edits).map (Span.textIn text))
        (edits.map (·.text)) := by
  induction edits generalizing cursor with
  | nil => rfl
  | cons e rest ih =>
      rw [render, ih]
      rfl

theorem length_gaps (size cursor : Nat) (edits : List Edit) :
    (gaps size cursor edits).length = edits.length + 1 := by
  induction edits generalizing cursor with
  | nil => rfl
  | cons e rest ih => rw [gaps, List.length_cons, List.length_cons, ih]

namespace FitsFrom

variable {text : String} {cursor : Nat} {edits : List Edit}

theorem cursor_boundary (hfrom : FitsFrom text cursor edits) :
    isBoundary text cursor = true := by
  cases hfrom with
  | done hcursor => exact hcursor
  | edit hgap _ _ => exact hgap.start_boundary

theorem fits_of_mem_gaps (hfrom : FitsFrom text cursor edits) :
    ∀ s ∈ gaps text.utf8ByteSize cursor edits, s.Fits text := by
  induction hfrom with
  | done hcursor =>
      intro s hs
      rw [List.mem_singleton.mp hs]
      exact ⟨le_size_of_isBoundary hcursor, hcursor, isBoundary_size text⟩
  | edit hgap _ _ ih =>
      intro s hs
      rcases List.mem_cons.mp hs with rfl | hs
      · exact hgap
      · exact ih s hs

/-- The same gaps with the replaced parts woven in are the text itself. -/
theorem sliceFrom_eq_weave (hfrom : FitsFrom text cursor edits) :
    sliceFrom text cursor =
      weave ((gaps text.utf8ByteSize cursor edits).map (Span.textIn text))
        (edits.map fun e => e.span.textIn text) := by
  induction hfrom with
  | done => rfl
  | @edit cursor e rest hgap hspan hrest ih =>
      have hend : (Span.mk e.span.stop text.utf8ByteSize).Fits text :=
        ⟨hspan.stop_le_size, hspan.stop_boundary, isBoundary_size text⟩
      have htail : (Span.mk e.span.start text.utf8ByteSize).Fits text :=
        ⟨Nat.le_trans hspan.ordered hspan.stop_le_size, hspan.start_boundary, isBoundary_size text⟩
      calc sliceFrom text cursor
          = slice text cursor e.span.start ++ slice text e.span.start text.utf8ByteSize :=
            (hgap.slice_append_slice htail).symm
        _ = slice text cursor e.span.start ++
              (e.span.textIn text ++ sliceFrom text e.span.stop) := by
            rw [← hspan.slice_append_slice hend]
            rfl
        _ = slice text cursor e.span.start ++ e.span.textIn text ++
              sliceFrom text e.span.stop := by
            rw [String.append_assoc]
        _ = _ := by
            rw [ih]
            rfl

/-- The replaced parts stand at the spans of the edits. -/
theorem places_eq (hfrom : FitsFrom text cursor edits) :
    places cursor ((gaps text.utf8ByteSize cursor edits).map (Span.textIn text))
      (edits.map fun e => e.span.textIn text) = edits.map (·.span) := by
  induction hfrom with
  | done => rfl
  | @edit cursor e rest hgap hspan hrest ih =>
      have hstart : cursor + (slice text cursor e.span.start).utf8ByteSize = e.span.start :=
        hgap.start_add_size_slice
      have hstop := hspan.start_add_size_slice
      simp only [gaps, List.map_cons, places, Span.textIn, hstart, hstop]
      exact congrArg _ ih

/-- Edits put in from the last to the first leave the text in front of `cursor` alone
and give what one pass gives from there on. -/
theorem spliceBack?_eq (hfrom : FitsFrom text cursor edits) :
    spliceBack? text edits = some (slice text 0 cursor ++ render text cursor edits) := by
  induction hfrom with
  | done hcursor =>
      rw [render, slice_append_sliceFrom hcursor]
      rfl
  | @edit cursor e rest hgap hspan hrest ih =>
      obtain ⟨left, middle, right, htext, hstart, hstop, -⟩ := hspan.exists_pieces
      -- What is done already starts with the text up to the end of this edit.
      have hdone : slice text 0 e.span.stop = left ++ middle := by
        rw [hstop, htext, ← String.utf8ByteSize_append, slice_zero_append]
      have hfront : slice text 0 cursor ++ slice text cursor e.span.start = left := by
        have hzero : (Span.mk 0 cursor).Fits text :=
          ⟨Nat.zero_le _, isBoundary_zero text, hgap.start_boundary⟩
        rw [hzero.slice_append_slice hgap, hstart, htext, String.append_assoc, slice_zero_append]
      rw [hdone] at ih
      have hfits : e.span.Fits (left ++ middle ++ render text e.span.stop rest) := by
        have hpieces := Span.Fits.of_append left middle (render text e.span.stop rest)
        rwa [← hstop, ← hstart] at hpieces
      have hback : sliceFrom (left ++ middle ++ render text e.span.stop rest) e.span.stop =
          render text e.span.stop rest := by
        rw [hstop, ← String.utf8ByteSize_append, sliceFrom_append]
      have hahead : slice (left ++ middle ++ render text e.span.stop rest) 0 e.span.start =
          left := by
        rw [hstart, String.append_assoc, slice_zero_append]
      have hstep : spliceBack? text (e :: rest) = (spliceBack? text rest).bind e.splice? :=
        List.foldrM_cons
      rw [hstep, ih, Option.bind_some, Edit.splice?, if_pos hfits, hahead, hback, render,
        ← String.append_assoc, ← String.append_assoc, hfront]

/-- Text that no edit touches may be copied ahead of the pass. -/
theorem render_eq_slice_append (hfrom : FitsFrom text cursor edits) {offset : Nat}
    (hboundary : isBoundary text offset = true) (hle : cursor ≤ offset)
    (hstart : ∀ e ∈ edits, offset ≤ e.span.start) :
    render text cursor edits = slice text cursor offset ++ render text offset edits := by
  have hahead : (Span.mk cursor offset).Fits text := ⟨hle, hfrom.cursor_boundary, hboundary⟩
  cases hfrom with
  | done =>
      exact (hahead.slice_append_slice
        ⟨le_size_of_isBoundary hboundary, hboundary, isBoundary_size text⟩).symm
  | @edit _ e rest hgap hspan hrest =>
      have hgap' : (Span.mk offset e.span.start).Fits text :=
        ⟨hstart e List.mem_cons_self, hboundary, hspan.start_boundary⟩
      rw [render, render, ← hahead.slice_append_slice hgap']
      simp only [String.append_assoc]

/-- The pass can be cut at an offset that no edit crosses. -/
theorem render_append {first second : List Edit} (hfrom : FitsFrom text cursor (first ++ second))
    {offset : Nat} (hboundary : isBoundary text offset = true) (hle : cursor ≤ offset)
    (hfirst : ∀ e ∈ first, e.span.stop ≤ offset) (hsecond : ∀ e ∈ second, offset ≤ e.span.start) :
    render text cursor (first ++ second) =
      render (slice text 0 offset) cursor first ++ render text offset second := by
  induction first generalizing cursor with
  | nil =>
      have hcursor : (Span.mk cursor offset).Fits text := ⟨hle, hfrom.cursor_boundary, hboundary⟩
      have hfront : sliceFrom (slice text 0 offset) cursor = slice text cursor offset := by
        rw [sliceFrom, size_slice_zero hboundary]
        exact hcursor.slice_slice_zero hboundary (Nat.le_refl _)
      rw [List.nil_append] at hfrom ⊢
      rw [hfrom.render_eq_slice_append hboundary hle hsecond, render, hfront]
  | cons e rest ih =>
      cases hfrom with
      | edit hgap hspan hrest =>
          have hstop := hfirst e List.mem_cons_self
          have hfront := hgap.slice_slice_zero hboundary (Nat.le_trans hspan.ordered hstop)
          rw [List.cons_append, render, render, hfront, ih hrest hstop
            (fun x hx => hfirst x (List.mem_cons_of_mem _ hx))]
          simp only [String.append_assoc]

end FitsFrom

theorem render_insertions (text : String) (offset : Nat) {inserted : List Edit}
    (hinserted : ∀ e ∈ inserted, e.span = ⟨offset, offset⟩) (later : List Edit) :
    render text offset (inserted ++ later) =
      String.join (inserted.map (·.text)) ++ render text offset later := by
  induction inserted with
  | nil => simp
  | cons e rest ih =>
      have hspan := hinserted e List.mem_cons_self
      rw [List.cons_append, render, hspan, slice_self, String.empty_append,
        ih fun x hx => hinserted x (List.mem_cons_of_mem _ hx), List.map_cons, String.join_cons,
        String.append_assoc]

/-! ## Order of registration -/

/-- The attempts that are accepted, in the order in which they are made. -/
def accepted (o : Overlay) : List Edit → List Edit
  | [] => []
  | e :: rest =>
      match o.overwrite e with
      | .ok next => e :: next.accepted rest
      | .error _ => o.accepted rest

/-- The edits with a given span, in the order in which they are listed. -/
def spanning (s : Span) (edits : List Edit) : List Edit :=
  edits.filter fun e => e.span = s

theorem mem_spanning {s : Span} {edits : List Edit} {e : Edit} :
    e ∈ spanning s edits ↔ e ∈ edits ∧ e.span = s := by
  simp [spanning]

theorem spanning_append (s : Span) (first second : List Edit) :
    spanning s (first ++ second) = spanning s first ++ spanning s second :=
  List.filter_append first second

/-- A property that no edit has behind one without it cuts the edits in two. -/
theorem filter_append_filter_not {edits : List Edit} {p : Edit → Bool}
    (hclosed : edits.Pairwise fun a b => p b = true → p a = true) :
    edits.filter p ++ edits.filter (fun x => !p x) = edits := by
  induction edits with
  | nil => rfl
  | cons e rest ih =>
      obtain ⟨hfirst, hrest⟩ := List.pairwise_cons.mp hclosed
      by_cases he : p e = true
      · simp only [List.filter_cons, he, if_true, Bool.not_true, Bool.false_eq_true, if_false,
          List.cons_append, ih hrest]
      · have hnone : rest.filter p = [] :=
          List.filter_eq_nil_iff.mpr fun x hx hp => he (hfirst x hx hp)
        have hlist := ih hrest
        rw [hnone, List.nil_append] at hlist
        simp [he, hnone, hlist]

namespace Tidy

variable {o : Overlay}

/-- A new edit comes behind the stored ones with the same span. -/
theorem spanning_overwrite (htidy : o.Tidy) {next : Overlay} {e : Edit}
    (hok : o.overwrite e = .ok next) (s : Span) :
    spanning s next.edits = spanning s o.edits ++ spanning s [e] := by
  obtain ⟨-, -, rfl⟩ := overwrite_eq_ok_iff.mp hok
  have hedits : o.before e.span ++ e :: o.after e.span =
      o.before e.span ++ ([e] ++ o.after e.span) := rfl
  rw [← o.before_append_after e.span, hedits]
  simp only [spanning_append]
  by_cases hs : e.span = s
  · have hnone : spanning s (o.after e.span) = [] := by
      apply List.filter_eq_nil_iff.mpr
      intro x hx hspan
      have hnot := htidy.not_precedes_of_mem_after hx
      rw [of_decide_eq_true hspan, hs, Span.precedes_refl] at hnot
      cases hnot
    rw [hnone, List.append_nil, List.append_nil]
  · have hnone : spanning s [e] = [] := by simp [spanning, hs]
    rw [hnone, List.nil_append, List.append_nil]

/-- Attempts only add edits behind those with the same span. -/
theorem spanning_foldl_attempt (htidy : o.Tidy) (attempts : List Edit) (s : Span) :
    spanning s (attempts.foldl Overlay.attempt o).edits =
      spanning s o.edits ++ spanning s (o.accepted attempts) := by
  induction attempts generalizing o with
  | nil => exact (List.append_nil _).symm
  | cons e rest ih =>
      rw [List.foldl_cons, ih (htidy.attempt e)]
      cases hresult : o.overwrite e with
      | error err => simp only [attempt_of_error hresult, accepted, hresult]
      | ok next =>
          simp only [attempt_of_ok hresult, accepted, hresult]
          rw [htidy.spanning_overwrite hresult, List.append_assoc, ← spanning_append,
            List.singleton_append]

/-- Seen from an offset, the stored edits are those that start earlier, then the
insertions at it, then those that reach beyond it. -/
theorem exists_split (htidy : o.Tidy) (offset : Nat) :
    ∃ earlier later, o.edits = earlier ++ spanning ⟨offset, offset⟩ o.edits ++ later ∧
      (∀ x ∈ earlier, x.span.start < offset) ∧
      ∀ x ∈ later, offset ≤ x.span.start ∧ offset < x.span.stop := by
  have hstart := filter_append_filter_not (p := fun x => x.span.start < offset)
    (htidy.sorted.imp fun {a b} hprecedes hb => by
      rw [Span.precedes_iff] at hprecedes
      simp only [decide_eq_true_eq] at hb ⊢
      omega)
  -- Among the others an edit that ends at the offset is an insertion there.
  have hsorted := htidy.sorted.filter fun x => !decide (x.span.start < offset)
  have hstop := filter_append_filter_not (p := fun x => x.span.stop ≤ offset)
    (hsorted.imp_of_mem fun {a b} ha hb hprecedes hle => by
      have hordered := (htidy.fits b (List.mem_of_mem_filter hb)).ordered
      have hlate := List.of_mem_filter ha
      rw [Span.precedes_iff] at hprecedes
      simp only [Bool.not_eq_true', decide_eq_false_iff_not, decide_eq_true_eq] at hlate hle ⊢
      omega)
  have hat : (o.edits.filter fun x => !decide (x.span.start < offset)).filter
      (fun x => x.span.stop ≤ offset) = spanning ⟨offset, offset⟩ o.edits := by
    rw [List.filter_filter]
    apply List.filter_congr
    intro x hx
    have hordered := (htidy.fits x hx).ordered
    rw [Bool.eq_iff_iff]
    simp only [Bool.and_eq_true, Bool.not_eq_true', decide_eq_false_iff_not, decide_eq_true_eq,
      Span.eq_mk_iff]
    omega
  refine ⟨o.edits.filter fun x => x.span.start < offset,
    (o.edits.filter fun x => !decide (x.span.start < offset)).filter
      fun x => !decide (x.span.stop ≤ offset), ?_, ?_, ?_⟩
  · rw [List.append_assoc, ← hat, hstop, hstart]
  · intro x hx
    simpa using List.of_mem_filter hx
  · intro x hx
    have hbeyond := List.of_mem_filter hx
    have hlate := List.of_mem_filter (List.mem_of_mem_filter hx)
    simp only [Bool.not_eq_true', decide_eq_false_iff_not] at hbeyond hlate
    omega

/-- The insertions at an offset come out together: behind what the edits before it
make of the text up to the offset, in front of all the rest. -/
theorem finalize_insertions (htidy : o.Tidy) {offset : Nat}
    (hsome : spanning ⟨offset, offset⟩ o.edits ≠ []) :
    ∃ earlier later, o.edits = earlier ++ spanning ⟨offset, offset⟩ o.edits ++ later ∧
      (∀ x ∈ earlier, x.span.start < offset ∧ x.span.stop ≤ offset) ∧
      (∀ x ∈ later, offset ≤ x.span.start ∧ offset < x.span.stop) ∧
      o.finalize = (Overlay.mk (slice o.text 0 offset) earlier).finalize ++
        String.join ((spanning ⟨offset, offset⟩ o.edits).map (·.text)) ++
        render o.text offset later := by
  obtain ⟨earlier, later, hedits, hearlier, hlater⟩ := htidy.exists_split offset
  obtain ⟨e, he⟩ := List.exists_mem_of_ne_nil _ hsome
  obtain ⟨hstored, hspan⟩ := mem_spanning.mp he
  have hboundary : isBoundary o.text offset = true := by
    have hfits := htidy.fits e hstored
    rw [hspan] at hfits
    exact hfits.start_boundary
  have hstop : ∀ x ∈ earlier, x.span.stop ≤ offset := by
    intro x hx
    have hapart := htidy.apart
    rw [hedits, List.append_assoc] at hapart
    have hle := (List.pairwise_append.mp hapart).2.2 x hx e (List.mem_append_left _ he)
    rwa [hspan] at hle
  have hnotEarlier : ∀ x ∈ spanning ⟨offset, offset⟩ o.edits ++ later, offset ≤ x.span.start := by
    intro x hx
    rcases List.mem_append.mp hx with hx | hx
    · rw [(mem_spanning.mp hx).2]
    · exact (hlater x hx).1
  have hfrom := htidy.fitsFrom
  rw [hedits, List.append_assoc] at hfrom
  refine ⟨earlier, later, hedits, fun x hx => ⟨hearlier x hx, hstop x hx⟩, hlater, ?_⟩
  calc o.finalize
      = render o.text 0 (earlier ++ (spanning ⟨offset, offset⟩ o.edits ++ later)) := by
        rw [← List.append_assoc, ← hedits]
        rfl
    _ = render (slice o.text 0 offset) 0 earlier ++
          render o.text offset (spanning ⟨offset, offset⟩ o.edits ++ later) :=
        hfrom.render_append hboundary (Nat.zero_le _) hstop hnotEarlier
    _ = _ := by
        rw [render_insertions o.text offset fun x hx => (mem_spanning.mp hx).2,
          ← String.append_assoc]
        rfl

end Tidy

/-- After any attempts the stored edits are sorted by start and end, each fits into the
text and ends before the next one starts. Finishing copies only spans that fit, and
gives what putting the stored edits in from the last to the first gives. Edits with
one span are stored as they were registered, so the insertions at an offset appear in
that order, in front of a replacement that starts there. -/
theorem finalize_ofAttempts_eq_spliceBack (text : String) (attempts : List Edit) :
    let o := ofAttempts text attempts
    let registered := (ofText text).accepted attempts
    (o.edits.Pairwise fun a b =>
        a.span.precedes b.span = true ∧ a.span.stop ≤ b.span.start) ∧
      (∀ e ∈ o.edits, e.span.Fits text) ∧
      (∀ s ∈ gaps text.utf8ByteSize 0 o.edits, s.Fits text) ∧
      o.finalize = weave ((gaps text.utf8ByteSize 0 o.edits).map (Span.textIn text))
        (o.edits.map (·.text)) ∧
      spliceBack? text o.edits = some o.finalize ∧
      (∀ s, spanning s o.edits = spanning s registered) ∧
      ∀ offset, spanning ⟨offset, offset⟩ registered ≠ [] →
        ∃ earlier later, o.edits = earlier ++ spanning ⟨offset, offset⟩ registered ++ later ∧
          (∀ x ∈ earlier, x.span.start < offset ∧ x.span.stop ≤ offset) ∧
          (∀ x ∈ later, offset ≤ x.span.start ∧ offset < x.span.stop) ∧
          o.finalize = (Overlay.mk (slice text 0 offset) earlier).finalize ++
            String.join ((spanning ⟨offset, offset⟩ registered).map (·.text)) ++
            render text offset later := by
  intro o registered
  have htidy : o.Tidy := tidy_ofAttempts text attempts
  have htext : o.text = text := ofAttempts_text text attempts
  have hfrom := htidy.fitsFrom
  have hregistered : ∀ s, spanning s o.edits = spanning s registered :=
    (tidy_ofText text).spanning_foldl_attempt attempts
  rw [htext] at hfrom
  refine ⟨htidy.sorted.and htidy.apart, ?_, hfrom.fits_of_mem_gaps, ?_, ?_, hregistered, ?_⟩
  · intro e he
    rw [← htext]
    exact htidy.fits e he
  · rw [finalize, htext, render_eq_weave]
  · rw [hfrom.spliceBack?_eq, slice_self, String.empty_append, finalize, htext]
  · intro offset hsome
    rw [← hregistered] at hsome ⊢
    have hsplit := htidy.finalize_insertions hsome
    rwa [htext] at hsplit

end Overlay

end CallMigration
