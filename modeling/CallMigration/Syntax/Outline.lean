import CallMigration.Disk.Resolve
import CallMigration.Source

/-!
# Outlines

An outline lists the nodes of a tree, one to a line and parents before children. A
line holds the number of children, the two ends of the span, the fields and the
kind, with blanks between them. Fields are separated by commas, and `-` stands for
none; `!` in front of the kind marks a missing node, and `'` after that a token.

The outline of a source file stands beside it, under its name with `.outline` added.
-/

namespace CallMigration.Outline

/-- A line of an outline. -/
structure Item where
  label : Label
  /-- The number of children. -/
  arity : Nat
deriving Repr

/-- The label of a kind with its marks. -/
def readLabel (span : Span) (fields : List String) (marked : List Char) : Label :=
  match marked with
  | '!' :: '\'' :: kind => ⟨String.ofList kind, false, true, span, fields⟩
  | '!' :: kind => ⟨String.ofList kind, true, true, span, fields⟩
  | '\'' :: kind => ⟨String.ofList kind, false, false, span, fields⟩
  | kind => ⟨String.ofList kind, true, false, span, fields⟩

/-- Read a line. Blanks after the fields belong to the kind. -/
def readItem? (line : String) : Option Item :=
  match Text.split ' ' line with
  | arity :: start :: stop :: fields :: kind => do
      let span : Span := ⟨← start.toNat?, ← stop.toNat?⟩
      let fields := if fields = "-" then [] else Text.split ',' fields
      some ⟨readLabel span fields (" ".intercalate kind).toList, ← arity.toNat?⟩
  | _ => none

/-- Make a node of a line and of the trees that follow it: the first ones become its
children. -/
def push (item : Item) (following : List Tree) : Option (List Tree) :=
  if item.arity ≤ following.length then
    some (.node item.label (following.take item.arity) :: following.drop item.arity)
  else none

/-- Read an outline. It has to hold exactly one tree. -/
def read? (text : String) : Option Tree := do
  let items ← ((Text.split '\n' text).filter (· ≠ "")).mapM readItem?
  match ← items.foldrM push [] with
  | [tree] => some tree
  | _ => none

/-- The text of the file at a place. -/
def textAt? (d : Disk) (place : Place) : Option String :=
  match d.entry? place with
  | some (.file contents _) => String.fromUTF8? contents
  | _ => none

/-- What the outline at a place says: dialect, text and tree of the file beside it. -/
def known? (d : Disk) (place : Place) : Option (Dialect × String × Tree) := do
  let name ← Text.dropEnding? ".outline" (← place.getLast?)
  let dialect ← Dialect.ofPath? ⟨name⟩
  let text ← textAt? d (place.dropLast ++ [name])
  let tree ← read? (← textAt? d place)
  some (dialect, text, tree)

/-- The parser given by the outlines on a disk. -/
def grammar (d : Disk) : Grammar :=
  .ofKnown (d.entries.filterMap fun e => known? d e.1)

end CallMigration.Outline
