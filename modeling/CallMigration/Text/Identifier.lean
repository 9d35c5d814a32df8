import CallMigration.Text.Letter

/-!
# Identifiers

A name may be written as an identifier when it starts with a letter, `_` or `$`
and goes on with letters, numbers, `_` or `$`.
-/

namespace CallMigration.Text

/-- Whether a character may start an identifier. -/
def startsIdentifier (c : Char) : Bool :=
  c = '_' || c = '$' || isLetter c

/-- Whether a character may continue an identifier. -/
def continuesIdentifier (c : Char) : Bool :=
  c = '_' || c = '$' || isLetterOrNumber c

/-- Whether `name` is an identifier. -/
def isIdentifier (name : String) : Bool :=
  match name.toList with
  | [] => false
  | c :: rest => startsIdentifier c && rest.all continuesIdentifier

end CallMigration.Text
