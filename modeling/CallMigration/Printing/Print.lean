import CallMigration.Printing.Slot
import CallMigration.Text.Identifier

/-!
# Writing fragments

A fragment is written on one line, with parentheses exactly where its place or the
place of a part asks for them. Of several faults the first in writing order is
reported, where the name of a property comes before its object.
-/

namespace CallMigration

namespace Fragment

/-- A name that is an identifier. -/
def checkedName (name : String) : Except RenderError String :=
  if Text.isIdentifier name then .ok name else .error (.invalidIdentifier name)

/-- The text of an embedded node, which must come from the file of the site. -/
def embeddedText (site : SourceFile) (n : Node) : Except RenderError String :=
  if n.file.same site then .ok n.text else .error (.foreignNode site.path n.file.path)

/-- Put a text in parentheses. -/
def parenthesize (needed : Bool) (text : String) : String :=
  if needed then "(" ++ text ++ ")" else text

mutual

/-- Write a fragment into a place of a file. -/
def renderIn (site : SourceFile) : Slot → Fragment → Except RenderError String
  | slot, node n => do
      let text ← embeddedText site n
      pure (parenthesize (slot.needsParens (node n)) text)
  | slot, identifier name => do
      let text ← checkedName name
      pure (parenthesize (slot.needsParens (identifier name)) text)
  | slot, literal value => do
      let text ← value.render
      pure (parenthesize (slot.needsParens (literal value)) text)
  | slot, property object optional name => do
      let _ ← checkedName name
      let base ← renderIn site (if object.isInteger then .any else .atLeast .member) object
      let text := parenthesize object.isInteger base ++ (if optional then "?." else ".") ++ name
      pure (parenthesize (slot.needsParens (property object optional name)) text)
  | slot, call callee arguments => do
      let base ← renderIn site (.atLeast .member) callee
      let parts ← renderAllIn site arguments
      let text := base ++ "(" ++ ", ".intercalate parts ++ ")"
      pure (parenthesize (slot.needsParens (call callee arguments)) text)
  | slot, binary left op right => do
      let l ← renderIn site (.operand op.precedence (some op.token)) left
      let r ← renderIn site (.operand op.precedence.next (some op.token)) right
      let text := l ++ " " ++ op.token ++ " " ++ r
      pure (parenthesize (slot.needsParens (binary left op right)) text)

/-- Write the arguments of a call. -/
def renderAllIn (site : SourceFile) : List Fragment → Except RenderError (List String)
  | [] => .ok []
  | f :: fs => do
      let text ← renderIn site .any f
      let texts ← renderAllIn site fs
      pure (text :: texts)

end

/-- Write a fragment in place of a node. -/
def print (f : Fragment) (site : Node) : Except RenderError String :=
  renderIn site.file (.ofSite site) f

end Fragment

end CallMigration
