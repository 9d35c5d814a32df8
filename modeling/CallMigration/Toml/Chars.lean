/-!
# Characters of a TOML document

The character classes of the grammar, and the blanks, line ends and comments that
may stand between its tokens.
-/

namespace CallMigration.Toml

/-- A reader of the front of a text: what it found and what is left. -/
abbrev Reader (α : Type) := List Char → Option (α × List Char)

/-- A blank within a line. -/
def isBlank (c : Char) : Bool := c = ' ' || c = '\t'

/-- A character of a comment: anything but control characters other than the tab. -/
def isCommentChar (c : Char) : Bool :=
  c = '\t' || (32 ≤ c.toNat && c.toNat ≠ 127)

/-- A character of a bare key. -/
def isBareKeyChar (c : Char) : Bool :=
  c.isAlphanum || c = '_' || c = '-'

/-- A character of a number, date or other unquoted value. -/
def isScalarChar (c : Char) : Bool :=
  c.isAlphanum || c = '_' || c = '-' || c = '+' || c = '.' || c = ':'

/-- Skip blanks. -/
def skipBlanks (cs : List Char) : List Char := cs.dropWhile isBlank

/-- Read one line end. -/
def lineEnd? : List Char → Option (List Char)
  | '\n' :: rest => some rest
  | '\r' :: '\n' :: rest => some rest
  | _ => none

/-- Skip a comment, if there is one, up to the end of its line. -/
def skipComment : List Char → List Char
  | '#' :: rest => rest.dropWhile isCommentChar
  | cs => cs

/-- Read the rest of a line: blanks, a comment, and a line end or the end of the text. -/
def restOfLine? (cs : List Char) : Option (List Char) :=
  match skipComment (skipBlanks cs) with
  | [] => some []
  | rest => lineEnd? rest

/-- Skip blanks, comments and line ends. The first argument bounds the number of lines. -/
def skipLines : Nat → List Char → List Char
  | 0, cs => cs
  | lines + 1, cs =>
      let rest := skipComment (skipBlanks cs)
      match lineEnd? rest with
      | some next => skipLines lines next
      | none => rest

/-- Skip everything that may stand between tokens of an array or inline table. -/
def skipTrivia (cs : List Char) : List Char := skipLines cs.length cs

end CallMigration.Toml
