import CallMigration.Toml.Chars

/-!
# Strings and keys of a TOML document

Basic strings have escapes, literal strings have none; both may span lines when
they stand between three quotes. A line end inside such a string is kept as it is
written, and one directly after the opening quotes is left out.
-/

namespace CallMigration.Toml

/-- The value of a hexadecimal digit. -/
def hexValue? (c : Char) : Option Nat :=
  if c.isDigit then some (c.toNat - '0'.toNat)
  else if 'a' ≤ c ∧ c ≤ 'f' then some (c.toNat - 'a'.toNat + 10)
  else if 'A' ≤ c ∧ c ≤ 'F' then some (c.toNat - 'A'.toNat + 10)
  else none

/-- The character that hexadecimal digits stand for. Surrogates stand for none. -/
def codePoint? (digits : List Char) : Option Char := do
  let values ← digits.mapM hexValue?
  let n := values.foldl (fun acc v => 16 * acc + v) 0
  if Nat.isValidChar n then some (Char.ofNat n) else none

/-- The character of a one-letter escape. -/
def simpleEscape? : Char → Option Char
  | 'b' => some (Char.ofNat 8)
  | 't' => some '\t'
  | 'n' => some '\n'
  | 'f' => some (Char.ofNat 12)
  | 'r' => some '\r'
  | 'e' => some (Char.ofNat 27)
  | '"' => some '"'
  | '\\' => some '\\'
  | _ => none

/-- Put a character in front of what a reader found. -/
def found (c : Char) : Option (List Char × List Char) → Option (List Char × List Char)
  | some (cs, rest) => some (c :: cs, rest)
  | none => none

/-! ## One-line strings -/

/-- The rest of a basic string, after its opening quote. -/
def basicBody : Reader (List Char)
  | [] => none
  | '"' :: rest => some ([], rest)
  | '\\' :: 'x' :: a :: b :: rest => (codePoint? [a, b]).bind (found · (basicBody rest))
  | '\\' :: 'u' :: a :: b :: c :: d :: rest =>
      (codePoint? [a, b, c, d]).bind (found · (basicBody rest))
  | '\\' :: 'U' :: a :: b :: c :: d :: e :: f :: g :: h :: rest =>
      (codePoint? [a, b, c, d, e, f, g, h]).bind (found · (basicBody rest))
  | '\\' :: c :: rest => (simpleEscape? c).bind (found · (basicBody rest))
  | c :: rest => if isCommentChar c && c ≠ '\\' then found c (basicBody rest) else none

/-- The rest of a literal string, after its opening quote `q`. -/
def literalBody (q : Char) : Reader (List Char)
  | [] => none
  | c :: rest =>
      if c = q then some ([], rest)
      else if isCommentChar c then found c (literalBody q rest)
      else none

/-! ## Strings over several lines -/

/-- Leave out a line end at the start. -/
def dropFirstLineEnd (cs : List Char) : List Char := (lineEnd? cs).getD cs

/-- Blanks and line ends. -/
def isWhite (c : Char) : Bool := isBlank c || c = '\n' || c = '\r'

/-- The quotes `q` that belong to a string which ends here: up to two before the three
that close it. -/
def closing (q : Char) (cs : List Char) : List Char × List Char :=
  let extra := (cs.takeWhile (· = q)).take 2
  (extra, cs.drop extra.length)

/-- The rest of a literal string over several lines. -/
def longLiteralBody (q : Char) : Reader (List Char)
  | [] => none
  | '\r' :: '\n' :: rest => found '\r' (found '\n' (longLiteralBody q rest))
  | '\n' :: rest => found '\n' (longLiteralBody q rest)
  | a :: b :: c :: rest =>
      if a = q ∧ b = q ∧ c = q then some (closing q rest)
      else if isCommentChar a then found a (longLiteralBody q (b :: c :: rest))
      else none
  | c :: rest => if isCommentChar c then found c (longLiteralBody q rest) else none

/-- The rest of a basic string over several lines. With `trimming` the blanks and line
ends after a backslash at the end of a line are left out. -/
def longBasicBody : (trimming : Bool) → Reader (List Char)
  | _, [] => none
  | trimming, '\r' :: '\n' :: rest =>
      if trimming then longBasicBody true rest
      else found '\r' (found '\n' (longBasicBody false rest))
  | trimming, '\n' :: rest =>
      if trimming then longBasicBody true rest else found '\n' (longBasicBody false rest)
  | _, '"' :: '"' :: '"' :: rest => some (closing '"' rest)
  | _, '\\' :: 'x' :: a :: b :: rest =>
      (codePoint? [a, b]).bind (found · (longBasicBody false rest))
  | _, '\\' :: 'u' :: a :: b :: c :: d :: rest =>
      (codePoint? [a, b, c, d]).bind (found · (longBasicBody false rest))
  | _, '\\' :: 'U' :: a :: b :: c :: d :: e :: f :: g :: h :: rest =>
      (codePoint? [a, b, c, d, e, f, g, h]).bind (found · (longBasicBody false rest))
  | _, '\\' :: c :: rest =>
      match simpleEscape? c with
      | some escaped => found escaped (longBasicBody false rest)
      | none =>
          if isWhite c && (lineEnd? (skipBlanks (c :: rest))).isSome then
            longBasicBody true (c :: rest)
          else none
  | trimming, c :: rest =>
      if trimming && isBlank c then longBasicBody true rest
      else if isCommentChar c && c ≠ '\\' then found c (longBasicBody false rest)
      else none

/-! ## Strings and keys -/

/-- Put characters together again. -/
def asString : Option (List Char × List Char) → Option (String × List Char)
  | some (cs, rest) => some (String.ofList cs, rest)
  | none => none

/-- A string of one line. -/
def shortString? : Reader String
  | '"' :: rest => asString (basicBody rest)
  | '\'' :: rest => asString (literalBody '\'' rest)
  | _ => none

/-- A string. -/
def string? : Reader String
  | '"' :: '"' :: '"' :: rest => asString (longBasicBody false (dropFirstLineEnd rest))
  | '\'' :: '\'' :: '\'' :: rest => asString (longLiteralBody '\'' (dropFirstLineEnd rest))
  | cs => shortString? cs

/-- One key: a bare one, or a string of one line. -/
def simpleKey? (cs : List Char) : Option (String × List Char) :=
  match cs with
  | [] => none
  | c :: _ =>
      if isBareKeyChar c then
        some (String.ofList (cs.takeWhile isBareKeyChar), cs.dropWhile isBareKeyChar)
      else shortString? cs

/-- How many parts a key may have. -/
def maxKeyParts : Nat := 80

/-- A key of at most so many parts with dots between them, blanks around it left out. -/
def dottedKey : Nat → Reader (List String)
  | 0, _ => none
  | parts + 1, cs => do
      let (key, rest) ← simpleKey? (skipBlanks cs)
      match skipBlanks rest with
      | '.' :: rest => do
          let (keys, rest) ← dottedKey parts rest
          some (key :: keys, rest)
      | rest => some ([key], rest)

/-- A key. -/
def key? (cs : List Char) : Option (List String × List Char) := dottedKey maxKeyParts cs

end CallMigration.Toml
