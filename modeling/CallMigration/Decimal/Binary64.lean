/-!
# Double-precision numbers

A finite number is `± mantissa · 2^exponent` with a mantissa below 2^53 and an
exponent of at least -1074; a mantissa below 2^52 occurs at the least exponent
only. Decimals are read by rounding the exact quotient to the nearest such
number, ties to the even mantissa.
-/

namespace CallMigration

/-- A double-precision number. -/
inductive Binary64 where
  | nan (negative : Bool)
  | infinite (negative : Bool)
  | finite (negative : Bool) (mantissa : Nat) (exponent : Int)
deriving DecidableEq, Repr, Inhabited

namespace Binary64

/-- Whether the number is neither infinite nor undefined. -/
def isFinite : Binary64 → Bool
  | finite .. => true
  | _ => false

/-- Whether the number carries a minus sign; negative zero does. -/
def isNegative : Binary64 → Bool
  | nan n => n
  | infinite n => n
  | finite n _ _ => n

/-- `num / den` rounded to the nearest integer, ties to even. -/
def roundQuotient (num den : Nat) : Nat :=
  let q := num / den
  let twice := 2 * (num % den)
  if twice > den || (twice == den && q % 2 == 1) then q + 1 else q

/-- `num / (den · 2^e)` as a quotient of naturals. -/
def scaled (num den : Nat) (e : Int) : Nat × Nat :=
  (num * Nat.pow 2 (-e).toNat, den * Nat.pow 2 e.toNat)

/-- The number nearest to `num / den`, for positive `num` and `den`. -/
def ofQuotient (negative : Bool) (num den : Nat) : Binary64 :=
  let high : Int := (Nat.log2 num : Int) - Nat.log2 den
  -- the quotient lies strictly between 2^(high - 1) and 2^(high + 1)
  let try53 := scaled num den (high - 53)
  let e := if try53.1 / try53.2 < Nat.pow 2 53 then high - 53 else high - 52
  let e := max e (-1074)
  let s := scaled num den e
  let m := roundQuotient s.1 s.2
  let carried := m == Nat.pow 2 53
  let m := if carried then Nat.pow 2 52 else m
  let e := if carried then e + 1 else e
  if e > 971 then infinite negative else finite negative m e

/-- The number nearest to `digits · 10^exponent`. -/
def ofDecimal (negative : Bool) (digits : Nat) (exponent : Int) : Binary64 :=
  let size : Int := exponent + Nat.log2 digits * 30103 / 100000
  if digits = 0 then finite negative 0 (-1074)
  else if size > 400 then infinite negative
  else if size < -400 then finite negative 0 (-1074)
  else ofQuotient negative (digits * Nat.pow 10 exponent.toNat) (Nat.pow 10 (-exponent).toNat)

end Binary64

/-- The sign of a written number and what follows it. -/
def Decimal.splitSign : List Char → Bool × List Char
  | '-' :: rest => (true, rest)
  | '+' :: rest => (false, rest)
  | cs => (false, cs)

end CallMigration
