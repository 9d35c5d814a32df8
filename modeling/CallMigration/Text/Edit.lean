import CallMigration.Text.Slice

/-!
# Edits

An edit replaces a span of a text. An empty span is an insertion.
-/

namespace CallMigration

/-- Replace the bytes of `span` by `text`. -/
structure Edit where
  span : Span
  text : String
deriving DecidableEq, Repr, Inhabited

namespace Span

/-- Half-open intersection. An empty span meets only a span that strictly
contains its offset. -/
def overlaps (a b : Span) : Bool :=
  a.start < b.stop && b.start < a.stop

/-- The order in which edits are kept: by start, then by end. -/
def precedes (a b : Span) : Bool :=
  a.start < b.start || (a.start == b.start && a.stop ≤ b.stop)

end Span

namespace Edit

/-- Whether the edit removes nothing. -/
def isInsertion (e : Edit) : Bool :=
  e.span.start == e.span.stop

/-- Whether the spans of two edits overlap. -/
def overlaps (a b : Edit) : Bool :=
  a.span.overlaps b.span

end Edit

end CallMigration
