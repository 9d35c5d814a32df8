import CallMigration.Text.Split
import CallMigration.Toml.Chars
import CallMigration.Toml.Value

/-!
# Unquoted values of a TOML document

Booleans, integers of 64 bits, double-precision numbers, and dates and times. A
value is cut out of the text first and then has to match one of the forms as a
whole.
-/

namespace CallMigration.Toml

/-! ## Numbers -/

/-- The digits of a run in which single underscores may stand between digits. -/
def groupedDigits? (isDigit : Char → Bool) (cs : List Char) : Option (List Char) :=
  let groups := Text.splitChars '_' cs
  if groups.all fun g => !g.isEmpty && g.all isDigit then some groups.flatten else none

/-- The number that digits of a base stand for. -/
def ofDigits (base : Nat) (digits : List Char) : Nat :=
  digits.foldl (fun n c =>
    base * n + (if c.isDigit then c.toNat - '0'.toNat
      else if 'a' ≤ c then c.toNat - 'a'.toNat + 10
      else c.toNat - 'A'.toNat + 10)) 0

/-- Whether a character is a hexadecimal digit. -/
def isHexDigit (c : Char) : Bool :=
  c.isDigit || ('a' ≤ c && c ≤ 'f') || ('A' ≤ c && c ≤ 'F')

/-- The digits of a whole part: no leading zero unless it is the only digit. -/
def wholeDigits? (cs : List Char) : Option (List Char) := do
  let digits ← groupedDigits? Char.isDigit cs
  if digits.head? = some '0' ∧ cs ≠ ['0'] then none else some digits

/-- An integer of 64 bits. -/
def bounded? (n : Int) : Option Int :=
  if -9223372036854775808 ≤ n ∧ n ≤ 9223372036854775807 then some n else none

/-- An integer: decimal with an optional sign, or in base 16, 8 or 2 without one. -/
def integer? : List Char → Option Int
  | '0' :: 'x' :: rest => do
      let digits ← groupedDigits? isHexDigit rest
      bounded? (ofDigits 16 digits)
  | '0' :: 'o' :: rest => do
      let digits ← groupedDigits? (fun c => '0' ≤ c && c ≤ '7') rest
      bounded? (ofDigits 8 digits)
  | '0' :: 'b' :: rest => do
      let digits ← groupedDigits? (fun c => c = '0' || c = '1') rest
      bounded? (ofDigits 2 digits)
  | cs => do
      let (negative, rest) := Decimal.splitSign cs
      let digits ← wholeDigits? rest
      let n : Int := ofDigits 10 digits
      bounded? (if negative then -n else n)

/-- The exponent after `e`; zero when there is none. -/
def exponent? : List Char → Option Int
  | [] => some 0
  | _ :: cs => do
      let (negative, rest) := Decimal.splitSign cs
      let digits ← groupedDigits? Char.isDigit rest
      let n : Int := ofDigits 10 digits
      some (if negative then -n else n)

/-- Whether a character introduces an exponent. -/
def isExponentMark (c : Char) : Bool := c = 'e' || c = 'E'

/-- A number with a fraction, an exponent or both, or a special number. One that is
too large to be finite is refused. -/
def number? (cs : List Char) : Option Binary64 := do
  let (negative, body) := Decimal.splitSign cs
  if body = "inf".toList then some (.infinite negative)
  else if body = "nan".toList then some (.nan negative)
  else
    let mantissa := body.takeWhile (!isExponentMark ·)
    let exponent ← exponent? (body.dropWhile (!isExponentMark ·))
    let whole ← wholeDigits? (mantissa.takeWhile (· ≠ '.'))
    let fraction ←
      match mantissa.dropWhile (· ≠ '.') with
      | [] => if mantissa.length = body.length then none else some []
      | _ :: digits => groupedDigits? Char.isDigit digits
    let value := Binary64.ofDecimal negative (ofDigits 10 (whole ++ fraction))
      (exponent - fraction.length)
    if value.isFinite then some value else none

/-! ## Dates and times -/

/-- The number of a fixed count of digits. -/
def fixedDigits? (width : Nat) (cs : List Char) : Option Nat :=
  if cs.length = width ∧ cs.all Char.isDigit then some (ofDigits 10 cs) else none

/-- How many days a month has. -/
def daysInMonth (year month : Nat) : Nat :=
  let isLeap := (year % 4 = 0 ∧ year % 100 ≠ 0) ∨ year % 400 = 0
  match month with
  | 2 => if isLeap then 29 else 28
  | 4 | 6 | 9 | 11 => 30
  | _ => 31

/-- Whether characters are a date, `YYYY-MM-DD`. -/
def isDate (cs : List Char) : Bool :=
  match (Text.splitChars '-' cs) with
  | [y, m, d] =>
      match fixedDigits? 4 y, fixedDigits? 2 m, fixedDigits? 2 d with
      | some year, some month, some day =>
          1 ≤ month && month ≤ 12 && 1 ≤ day && day ≤ daysInMonth year month
      | _, _, _ => false
  | _ => false

/-- Whether characters are hours and minutes, `HH:MM`. -/
def isClock (cs : List Char) : Bool :=
  match Text.splitChars ':' cs with
  | [h, m] =>
      match fixedDigits? 2 h, fixedDigits? 2 m with
      | some hour, some minute => hour ≤ 23 && minute ≤ 59
      | _, _ => false
  | _ => false

/-- Whether characters are seconds with an optional fraction. -/
def isSeconds (cs : List Char) : Bool :=
  let whole := cs.takeWhile (· ≠ '.')
  let fraction := cs.dropWhile (· ≠ '.')
  (match fixedDigits? 2 whole with
    | some second => second ≤ 60
    | none => false) &&
    (fraction.isEmpty || (2 ≤ fraction.length && (fraction.drop 1).all Char.isDigit))

/-- Whether characters are a time of day; the seconds may be left out. -/
def isTime (cs : List Char) : Bool :=
  isClock (cs.take 5) &&
    match cs.drop 5 with
    | [] => true
    | ':' :: seconds => isSeconds seconds
    | _ => false

/-- Whether characters are a time with an optional offset from universal time. -/
def isOffsetTime (cs : List Char) : Bool :=
  let time := cs.takeWhile fun c => c.isDigit || c = ':' || c = '.'
  isTime time &&
    match cs.drop time.length with
    | [] | ['Z'] | ['z'] => true
    | c :: offset => (c = '+' || c = '-') && isClock offset

/-- Whether characters are a date, a time, or both. -/
def isDatetime (cs : List Char) : Bool :=
  isTime cs || isDate cs ||
    (isDate (cs.take 10) &&
      match cs.drop 10 with
      | c :: time => (c = 'T' || c = 't' || c = ' ') && isOffsetTime time
      | [] => false)

/-! ## Scalars -/

/-- The characters of an unquoted value. A date and a time may have a blank between them. -/
def scalarExtent (cs : List Char) : List Char :=
  let first := cs.takeWhile isScalarChar
  match isDate first, cs.drop first.length with
  | true, ' ' :: c :: rest =>
      if c.isDigit then first ++ ' ' :: (c :: rest).takeWhile isScalarChar else first
  | _, _ => first

/-- The value of an unquoted text. -/
def scalarValue? (cs : List Char) : Option Value :=
  if cs = "true".toList then some (.boolean true)
  else if cs = "false".toList then some (.boolean false)
  else if isDatetime cs then some (.datetime (String.ofList cs))
  else
    match integer? cs with
    | some n => some (.integer n)
    | none => (number? cs).map Value.number

/-- An unquoted value. -/
def scalar? (cs : List Char) : Option (Value × List Char) :=
  let extent := scalarExtent cs
  (scalarValue? extent).map fun v => (v, cs.drop extent.length)

end CallMigration.Toml
