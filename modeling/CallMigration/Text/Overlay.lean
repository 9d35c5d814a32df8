import CallMigration.Text.Edit

/-!
# Pending edits over a fixed text

An overlay keeps disjoint edits sorted by `(start, end)`; edits with equal spans
stay in the order in which they were registered, so insertions at one offset
come out in that order. Because the stored edits are disjoint, a new edit is
compared with its two sorted neighbours only.
-/

namespace CallMigration

/-- A text together with the edits registered on it. -/
structure Overlay where
  text : String
  edits : List Edit
deriving DecidableEq, Repr

/-- Why an edit is refused. -/
inductive OverlayError where
  /-- The new span meets the span of a stored edit. -/
  | overlap (span existing : Span)
  /-- The span is reversed or ends beyond the text. -/
  | invalidRange (span : Span) (size : Nat)
  /-- An end of the span lies inside a character. -/
  | notBoundary (offset : Nat)
deriving DecidableEq, Repr

namespace OverlayError

/-- The text of an error. -/
def message : OverlayError → String
  | overlap s e =>
      s!"edit [{s.start}, {s.stop}) overlaps existing edit [{e.start}, {e.stop})"
  | invalidRange s n => s!"invalid range [{s.start}, {s.stop}) in text of length {n}"
  | notBoundary o => s!"offset {o} is not on a UTF-8 character boundary"

end OverlayError

namespace Overlay

/-- No edits yet. -/
def ofText (text : String) : Overlay := ⟨text, []⟩

/-- The first fault of a span taken alone: a range outside the text, then a
start, then an end that is no character boundary. -/
def spanFault (text : String) (span : Span) : Option OverlayError :=
  if span.stop < span.start || text.utf8ByteSize < span.stop then
    some (.invalidRange span text.utf8ByteSize)
  else if !Text.isBoundary text span.start then some (.notBoundary span.start)
  else if !Text.isBoundary text span.stop then some (.notBoundary span.stop)
  else none

/-- The stored edits that stay in front of a new edit of `span`. -/
def before (o : Overlay) (span : Span) : List Edit :=
  o.edits.takeWhile (·.span.precedes span)

/-- The stored edits that come after a new edit of `span`. -/
def after (o : Overlay) (span : Span) : List Edit :=
  o.edits.dropWhile (·.span.precedes span)

/-- The neighbour of a new edit of `span` that it overlaps, the earlier one first. -/
def conflict (o : Overlay) (span : Span) : Option Edit :=
  ((o.before span).getLast?.toList ++ (o.after span).head?.toList).find?
    (·.span.overlaps span)

/-- Register an edit. -/
def overwrite (o : Overlay) (e : Edit) : Except OverlayError Overlay :=
  match spanFault o.text e.span with
  | some fault => .error fault
  | none =>
      match o.conflict e.span with
      | some existing => .error (.overlap e.span existing.span)
      | none => .ok { o with edits := o.before e.span ++ e :: o.after e.span }

/-- Copy the text from `cursor` on, with the given edits put in. -/
def render (text : String) (cursor : Nat) : List Edit → String
  | [] => Text.sliceFrom text cursor
  | e :: rest => Text.slice text cursor e.span.start ++ e.text ++ render text e.span.stop rest

/-- The text with every edit applied. -/
def finalize (o : Overlay) : String :=
  render o.text 0 o.edits

end Overlay

end CallMigration
