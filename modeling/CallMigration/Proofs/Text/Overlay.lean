import CallMigration.Proofs.Text.Slice
import CallMigration.Text.Overlay
import Mathlib.Data.List.TakeWhile

/-!
# Which edits an overlay accepts

The stored edits stay tidy: each fits into the text, and each ends before the next
one starts. In a tidy overlay the two neighbours of a new span decide: whatever the
span overlaps, it overlaps a neighbour. Registration keeps the overlay tidy, so this
holds after any sequence of attempts, accepted or refused.
-/

namespace CallMigration

/-! ## The order of spans -/

namespace Span

theorem precedes_iff {a b : Span} :
    a.precedes b = true ↔ a.start < b.start ∨ a.start = b.start ∧ a.stop ≤ b.stop := by
  simp [precedes]

theorem overlaps_iff {a b : Span} :
    a.overlaps b = true ↔ a.start < b.stop ∧ b.start < a.stop := by
  simp [overlaps]

theorem overlaps_eq_false_iff {a b : Span} :
    a.overlaps b = false ↔ b.stop ≤ a.start ∨ a.stop ≤ b.start := by
  rw [← Bool.not_eq_true, overlaps_iff]
  omega

theorem precedes_refl (a : Span) : a.precedes a = true :=
  precedes_iff.mpr (.inr ⟨rfl, Nat.le_refl _⟩)

theorem precedes_trans {a b c : Span} (hab : a.precedes b = true) (hbc : b.precedes c = true) :
    a.precedes c = true := by
  rw [precedes_iff] at hab hbc ⊢
  omega

theorem precedes_of_stop_le {a b : Span} (ha : a.start ≤ a.stop) (hb : b.start ≤ b.stop)
    (hle : a.stop ≤ b.start) : a.precedes b = true := by
  rw [precedes_iff]
  omega

theorem overlaps_eq_false_of_stop_le {a b : Span} (hle : a.stop ≤ b.start) :
    a.overlaps b = false :=
  overlaps_eq_false_iff.mpr (.inr hle)

/-- A span that comes first and does not overlap ends in time. -/
theorem stop_le_of_precedes {a b : Span} (hb : b.start ≤ b.stop)
    (hprecedes : a.precedes b = true) (hfree : a.overlaps b = false) : a.stop ≤ b.start := by
  rw [precedes_iff] at hprecedes
  rw [overlaps_eq_false_iff] at hfree
  omega

/-- A span that does not come first and does not overlap starts late enough. -/
theorem stop_le_of_not_precedes {a b : Span} (ha : a.start ≤ a.stop) (hb : b.start ≤ b.stop)
    (hprecedes : a.precedes b = false) (hfree : a.overlaps b = false) : b.stop ≤ a.start := by
  rw [← Bool.not_eq_true, precedes_iff] at hprecedes
  rw [overlaps_eq_false_iff] at hfree
  omega

end Span

namespace Overlay

/-- The stored edits fit into the text, and each ends before the next one starts.
Insertions may touch their neighbours, and each other. -/
structure Tidy (o : Overlay) : Prop where
  fits : ∀ e ∈ o.edits, e.span.Fits o.text
  apart : o.edits.Pairwise fun a b => a.span.stop ≤ b.span.start

theorem tidy_ofText (text : String) : (ofText text).Tidy where
  fits := by simp [ofText]
  apart := List.Pairwise.nil

theorem spanFault_eq_none_iff {text : String} {span : Span} :
    spanFault text span = none ↔ span.Fits text := by
  constructor
  · intro hfault
    unfold spanFault at hfault
    split at hfault
    next => cases hfault
    next hrange =>
      split at hfault
      next => cases hfault
      next hstart =>
        split at hfault
        next => cases hfault
        next hstop =>
          simp only [Bool.or_eq_true, decide_eq_true_eq, not_or, Nat.not_lt] at hrange
          exact ⟨hrange.1, by simpa using hstart, by simpa using hstop⟩
  · intro hfits
    have hordered := hfits.ordered
    have hsize := hfits.stop_le_size
    have hrange : (decide (span.stop < span.start) || decide (text.utf8ByteSize < span.stop)) =
        false := by
      simp only [Bool.or_eq_false_iff, decide_eq_false_iff_not]
      omega
    simp [spanFault, hrange, hfits.start_boundary, hfits.stop_boundary]

/-! ## The place of a new edit -/

theorem before_append_after (o : Overlay) (span : Span) :
    o.before span ++ o.after span = o.edits :=
  List.takeWhile_append_dropWhile

theorem mem_edits_of_mem_before {o : Overlay} {span : Span} {x : Edit}
    (hx : x ∈ o.before span) : x ∈ o.edits := by
  rw [← o.before_append_after span]
  exact List.mem_append_left _ hx

theorem mem_edits_of_mem_after {o : Overlay} {span : Span} {x : Edit}
    (hx : x ∈ o.after span) : x ∈ o.edits := by
  rw [← o.before_append_after span]
  exact List.mem_append_right _ hx

theorem precedes_of_mem_before {o : Overlay} {span : Span} {x : Edit}
    (hx : x ∈ o.before span) : x.span.precedes span = true := by
  unfold before at hx
  have hholds := List.mem_takeWhile_imp hx
  exact hholds

namespace Tidy

variable {o : Overlay}

theorem apart_before_after (htidy : o.Tidy) (span : Span) :
    (o.before span).Pairwise (fun a b => a.span.stop ≤ b.span.start) ∧
      (o.after span).Pairwise (fun a b => a.span.stop ≤ b.span.start) ∧
      ∀ a ∈ o.before span, ∀ b ∈ o.after span, a.span.stop ≤ b.span.start := by
  rw [← List.pairwise_append, o.before_append_after]
  exact htidy.apart

/-- Edits are stored in the order of their spans. -/
theorem sorted (htidy : o.Tidy) :
    o.edits.Pairwise fun a b => a.span.precedes b.span = true := by
  refine htidy.apart.imp_of_mem ?_
  intro a b ha hb hle
  exact Span.precedes_of_stop_le (htidy.fits a ha).ordered (htidy.fits b hb).ordered hle

theorem not_precedes_of_mem_after (htidy : o.Tidy) {span : Span} {x : Edit}
    (hx : x ∈ o.after span) : x.span.precedes span = false := by
  have hsorted : (o.after span).Pairwise fun a b => a.span.precedes b.span = true :=
    htidy.sorted.sublist (List.dropWhile_sublist _)
  cases hafter : o.after span with
  | nil => simp [hafter] at hx
  | cons head rest =>
      have hhead : head.span.precedes span = false := by
        have hnot := List.head?_dropWhile_not (·.span.precedes span) o.edits
        rw [← Overlay.after, hafter] at hnot
        exact hnot
      rw [hafter] at hx hsorted
      rcases List.mem_cons.mp hx with rfl | hrest
      · exact hhead
      · have hfirst := List.rel_of_pairwise_cons hsorted hrest
        by_contra hprecedes
        rw [Bool.not_eq_false] at hprecedes
        rw [Span.precedes_trans hfirst hprecedes] at hhead
        cases hhead

end Tidy

/-! ## The test against the neighbours -/

theorem conflict_eq_some {o : Overlay} {span : Span} {x : Edit}
    (hconflict : o.conflict span = some x) : x ∈ o.edits ∧ x.span.overlaps span = true := by
  unfold conflict at hconflict
  have hholds := List.find?_some hconflict
  refine ⟨?_, hholds⟩
  have hmem := List.mem_of_find?_eq_some hconflict
  rcases List.mem_append.mp hmem with hlast | hfirst
  · exact mem_edits_of_mem_before (List.mem_of_getLast? (Option.mem_toList.mp hlast))
  · exact mem_edits_of_mem_after (List.mem_of_mem_head? (Option.mem_toList.mp hfirst))

namespace Tidy

variable {o : Overlay}

/-- In front of the new edit only the last one can reach into it: the others end
before the last one starts. -/
theorem overlaps_before_eq_false (htidy : o.Tidy) {span : Span}
    (hlast : ∀ x ∈ (o.before span).getLast?, x.span.overlaps span = false)
    {x : Edit} (hx : x ∈ o.before span) : x.span.overlaps span = false := by
  have hapart := (htidy.apart_before_after span).1
  rcases List.eq_nil_or_concat' (o.before span) with hnil | ⟨init, last, hconcat⟩
  · simp [hnil] at hx
  · have hmem : last ∈ o.before span := by simp [hconcat]
    have hprecedes := precedes_of_mem_before hmem
    rw [hconcat] at hx hapart hlast
    rcases List.mem_append.mp hx with hinit | hsame
    · have hle := (List.pairwise_append.mp hapart).2.2 x hinit last (by simp)
      rw [Span.precedes_iff] at hprecedes
      exact Span.overlaps_eq_false_of_stop_le (by omega)
    · rw [List.mem_singleton.mp hsame]
      exact hlast last (by simp)

/-- Behind the new edit the first one is met before any other: an edit further on
that the span overlaps puts the first one strictly inside the span. -/
theorem overlaps_after_eq_false (htidy : o.Tidy) {span : Span}
    (hfirst : ∀ x ∈ (o.after span).head?, x.span.overlaps span = false)
    {x : Edit} (hx : x ∈ o.after span) : x.span.overlaps span = false := by
  have hapart := (htidy.apart_before_after span).2.1
  cases hafter : o.after span with
  | nil => simp [hafter] at hx
  | cons head rest =>
      have hmem : head ∈ o.after span := by simp [hafter]
      have hprecedes := htidy.not_precedes_of_mem_after hmem
      have hordered := (htidy.fits head (mem_edits_of_mem_after hmem)).ordered
      have hfree := hfirst head (by simp [hafter])
      rw [hafter] at hx hapart
      rcases List.mem_cons.mp hx with rfl | hrest
      · exact hfree
      · have hle := List.rel_of_pairwise_cons hapart hrest
        rw [← Bool.not_eq_true, Span.precedes_iff] at hprecedes
        rw [Span.overlaps_eq_false_iff] at hfree ⊢
        omega

/-- The two neighbours of a span stand for all stored edits. -/
theorem conflict_eq_none_iff (htidy : o.Tidy) {span : Span} :
    o.conflict span = none ↔ ∀ x ∈ o.edits, x.span.overlaps span = false := by
  unfold conflict
  rw [List.find?_eq_none]
  constructor
  · intro hneighbours x hx
    rw [← o.before_append_after span] at hx
    rcases List.mem_append.mp hx with hbefore | hafter
    · refine htidy.overlaps_before_eq_false ?_ hbefore
      intro last hlast
      simpa using hneighbours last (List.mem_append_left _ (Option.mem_toList.mpr hlast))
    · refine htidy.overlaps_after_eq_false ?_ hafter
      intro first hfirst
      simpa using hneighbours first (List.mem_append_right _ (Option.mem_toList.mpr hfirst))
  · intro hall x hx
    rcases List.mem_append.mp hx with hlast | hfirst
    · have hmem := List.mem_of_getLast? (Option.mem_toList.mp hlast)
      simpa using hall x (mem_edits_of_mem_before hmem)
    · have hmem := List.mem_of_mem_head? (Option.mem_toList.mp hfirst)
      simpa using hall x (mem_edits_of_mem_after hmem)

end Tidy

/-! ## Registration -/

theorem overwrite_eq_ok_iff {o next : Overlay} {e : Edit} :
    o.overwrite e = .ok next ↔ e.span.Fits o.text ∧ o.conflict e.span = none ∧
      next = { o with edits := o.before e.span ++ e :: o.after e.span } := by
  rw [← spanFault_eq_none_iff]
  unfold overwrite
  cases spanFault o.text e.span with
  | some fault => simp
  | none =>
      cases o.conflict e.span with
      | some existing => simp
      | none => simp [eq_comm]

theorem overwrite_eq_overlap {o : Overlay} {e : Edit} {span existing : Span}
    (herror : o.overwrite e = .error (.overlap span existing)) :
    span = e.span ∧ ∃ stored ∈ o.edits, stored.span = existing ∧ stored.overlaps e = true := by
  unfold overwrite at herror
  split at herror
  next fault hfault =>
    -- A span refused for itself is never reported as an overlap.
    cases herror
    unfold spanFault at hfault
    split at hfault
    · cases hfault
    · split at hfault
      · cases hfault
      · split at hfault <;> cases hfault
  next =>
    split at herror
    next stored hconflict =>
      cases herror
      exact ⟨rfl, stored, (conflict_eq_some hconflict).1, rfl, (conflict_eq_some hconflict).2⟩
    next => cases herror

namespace Tidy

variable {o next : Overlay} {e : Edit}

theorem exists_overwrite_iff (htidy : o.Tidy) :
    (∃ next, o.overwrite e = .ok next) ↔
      e.span.Fits o.text ∧ ∀ stored ∈ o.edits, stored.overlaps e = false := by
  constructor
  · rintro ⟨next, hok⟩
    obtain ⟨hfits, hconflict, -⟩ := overwrite_eq_ok_iff.mp hok
    exact ⟨hfits, htidy.conflict_eq_none_iff.mp hconflict⟩
  · rintro ⟨hfits, hfree⟩
    exact ⟨_, overwrite_eq_ok_iff.mpr ⟨hfits, htidy.conflict_eq_none_iff.mpr hfree, rfl⟩⟩

/-- Registration keeps the overlay tidy. -/
theorem overwrite (htidy : o.Tidy) (hok : o.overwrite e = .ok next) : next.Tidy := by
  obtain ⟨hfits, hconflict, rfl⟩ := overwrite_eq_ok_iff.mp hok
  have hfree := htidy.conflict_eq_none_iff.mp hconflict
  obtain ⟨hbefore, hafter, hacross⟩ := htidy.apart_before_after e.span
  constructor
  · intro x hx
    rcases List.mem_append.mp hx with hx | hx
    · exact htidy.fits x (mem_edits_of_mem_before hx)
    · rcases List.mem_cons.mp hx with rfl | hx
      · exact hfits
      · exact htidy.fits x (mem_edits_of_mem_after hx)
  · refine List.pairwise_append.mpr ⟨hbefore, List.pairwise_cons.mpr ⟨?_, hafter⟩, ?_⟩
    · intro x hx
      have hmem := mem_edits_of_mem_after hx
      exact Span.stop_le_of_not_precedes (htidy.fits x hmem).ordered hfits.ordered
        (htidy.not_precedes_of_mem_after hx) (hfree x hmem)
    · intro x hx y hy
      rcases List.mem_cons.mp hy with rfl | hy
      · exact Span.stop_le_of_precedes hfits.ordered (precedes_of_mem_before hx)
          (hfree x (mem_edits_of_mem_before hx))
      · exact hacross x hx y hy

end Tidy

theorem overwrite_perm {o next : Overlay} {e : Edit} (hok : o.overwrite e = .ok next) :
    next.edits.Perm (e :: o.edits) := by
  obtain ⟨-, -, rfl⟩ := overwrite_eq_ok_iff.mp hok
  have hmiddle : (o.before e.span ++ e :: o.after e.span).Perm
      (e :: (o.before e.span ++ o.after e.span)) := List.perm_middle
  rwa [o.before_append_after] at hmiddle

/-- An edit behind all stored ones is accepted and comes last. -/
theorem overwrite_eq_append {o : Overlay} {e : Edit} (hfits : e.span.Fits o.text)
    (hstored : ∀ x ∈ o.edits, x.span.start ≤ x.span.stop ∧ x.span.stop ≤ e.span.start) :
    o.overwrite e = .ok { o with edits := o.edits ++ [e] } := by
  have hprecedes : ∀ x ∈ o.edits, x.span.precedes e.span = true := by
    intro x hx
    exact Span.precedes_of_stop_le (hstored x hx).1 hfits.ordered (hstored x hx).2
  have hbefore : o.before e.span = o.edits := List.takeWhile_eq_self_iff.mpr hprecedes
  have hafter : o.after e.span = [] := List.dropWhile_eq_nil_iff.mpr hprecedes
  refine overwrite_eq_ok_iff.mpr ⟨hfits, ?_, by rw [hbefore, hafter]⟩
  cases hconflict : o.conflict e.span with
  | none => rfl
  | some x =>
      obtain ⟨hx, hoverlaps⟩ := conflict_eq_some hconflict
      rw [Span.overlaps_eq_false_of_stop_le (hstored x hx).2] at hoverlaps
      cases hoverlaps

/-! ## Sequences of attempts -/

/-- Try to register an edit. A refused edit leaves the overlay as it is. -/
def attempt (o : Overlay) (e : Edit) : Overlay :=
  match o.overwrite e with
  | .ok next => next
  | .error _ => o

/-- The overlay after edits were tried one after the other. -/
def ofAttempts (text : String) (attempts : List Edit) : Overlay :=
  attempts.foldl attempt (ofText text)

theorem attempt_of_ok {o next : Overlay} {e : Edit} (hok : o.overwrite e = .ok next) :
    o.attempt e = next := by
  rw [attempt, hok]

theorem attempt_of_error {o : Overlay} {e : Edit} {err : OverlayError}
    (herror : o.overwrite e = .error err) : o.attempt e = o := by
  rw [attempt, herror]

theorem attempt_text (o : Overlay) (e : Edit) : (o.attempt e).text = o.text := by
  cases hresult : o.overwrite e with
  | error err => rw [attempt_of_error hresult]
  | ok next =>
      rw [attempt_of_ok hresult]
      obtain ⟨-, -, rfl⟩ := overwrite_eq_ok_iff.mp hresult
      rfl

theorem Tidy.attempt {o : Overlay} (htidy : o.Tidy) (e : Edit) : (o.attempt e).Tidy := by
  cases hresult : o.overwrite e with
  | error err =>
      rw [attempt_of_error hresult]
      exact htidy
  | ok next =>
      rw [attempt_of_ok hresult]
      exact htidy.overwrite hresult

theorem foldl_attempt_text (attempts : List Edit) (o : Overlay) :
    (attempts.foldl attempt o).text = o.text := by
  induction attempts generalizing o with
  | nil => rfl
  | cons e rest ih => rw [List.foldl_cons, ih, attempt_text]

theorem Tidy.foldl_attempt {o : Overlay} (htidy : o.Tidy) (attempts : List Edit) :
    (attempts.foldl Overlay.attempt o).Tidy := by
  induction attempts generalizing o with
  | nil => exact htidy
  | cons e rest ih => exact ih (htidy.attempt e)

theorem ofAttempts_text (text : String) (attempts : List Edit) :
    (ofAttempts text attempts).text = text :=
  foldl_attempt_text attempts (ofText text)

theorem tidy_ofAttempts (text : String) (attempts : List Edit) :
    (ofAttempts text attempts).Tidy :=
  (tidy_ofText text).foldl_attempt attempts

/-- After any attempts a further edit is accepted exactly when its span is a range of
the text between boundaries that overlaps none of the stored edits, all of them
counted. An overlap is reported with a stored edit that does overlap. An accepted
edit is added to the stored ones, a refused one changes nothing. -/
theorem overwrite_ofAttempts_iff (text : String) (attempts : List Edit) (e : Edit) :
    let o := ofAttempts text attempts
    ((∃ next, o.overwrite e = .ok next) ↔
      e.span.start ≤ e.span.stop ∧ e.span.stop ≤ text.utf8ByteSize ∧
        Text.isBoundary text e.span.start = true ∧ Text.isBoundary text e.span.stop = true ∧
        ∀ stored ∈ o.edits, stored.overlaps e = false) ∧
      (∀ span existing, o.overwrite e = .error (.overlap span existing) →
        span = e.span ∧
          ∃ stored ∈ o.edits, stored.span = existing ∧ stored.overlaps e = true) ∧
      (∀ next, o.overwrite e = .ok next → next.edits.Perm (e :: o.edits)) ∧
      ∀ err, o.overwrite e = .error err →
        (ofAttempts text (attempts ++ [e])).edits = o.edits := by
  intro o
  refine ⟨?_, fun _ _ => overwrite_eq_overlap, fun _ => overwrite_perm, ?_⟩
  · rw [(tidy_ofAttempts text attempts).exists_overwrite_iff, ofAttempts_text]
    constructor
    · rintro ⟨hfits, hfree⟩
      exact ⟨hfits.ordered, hfits.stop_le_size, hfits.start_boundary, hfits.stop_boundary, hfree⟩
    · rintro ⟨hordered, -, hstart, hstop, hfree⟩
      exact ⟨⟨hordered, hstart, hstop⟩, hfree⟩
  · intro err herror
    rw [ofAttempts, List.foldl_append, List.foldl_cons, List.foldl_nil]
    exact congrArg Overlay.edits (attempt_of_error herror)

end Overlay

end CallMigration
