import CallMigration.Text.Printable

/-!
# Quoted texts

Two ways to write a text between double quotes. A string literal escapes quotes,
backslashes and the control characters below the blank, and nothing else. A
diagnostic also escapes what would not be seen: marks that extend the character
before them and characters without a shape. Neither escapes a single quote.
-/

namespace CallMigration.Text

/-- The lower-case hexadecimal digits of `n`. -/
def hexDigits (n : Nat) : String := String.ofList (Nat.toDigits 16 n)

/-! ## String literals -/

/-- Four hexadecimal digits. -/
def hexFour (n : Nat) : String :=
  let digits := hexDigits n
  String.ofList (List.replicate (4 - digits.length) '0') ++ digits

/-- How one character is written in a string literal. -/
def literalChar (c : Char) : String :=
  if c = '"' then "\\\""
  else if c = '\\' then "\\\\"
  else if c.toNat = 8 then "\\b"
  else if c.toNat = 12 then "\\f"
  else if c = '\n' then "\\n"
  else if c = '\r' then "\\r"
  else if c = '\t' then "\\t"
  else if c.toNat < 32 then "\\u" ++ hexFour c.toNat
  else c.toString

/-- A string literal that denotes `s`. -/
def literal (s : String) : String :=
  "\"" ++ String.join (s.toList.map literalChar) ++ "\""

/-! ## Diagnostics -/

/-- How one character is written in a diagnostic. -/
def diagnosticChar (c : Char) : String :=
  if c.toNat = 0 then "\\0"
  else if c = '\t' then "\\t"
  else if c = '\r' then "\\r"
  else if c = '\n' then "\\n"
  else if c = '\\' then "\\\\"
  else if c = '"' then "\\\""
  else if isExtending c || isShapeless c then "\\u\x7b" ++ hexDigits c.toNat ++ "\x7d"
  else c.toString

/-- A path or name in a diagnostic. -/
def diagnostic (s : String) : String :=
  "\"" ++ String.join (s.toList.map diagnosticChar) ++ "\""

end CallMigration.Text
