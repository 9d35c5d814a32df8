import CallMigration.Decimal.Binary64

/-!
# The shortest decimal of a number

A finite number is written with the fewest significant digits that read back to
it; of two such decimals the nearer is taken, and the larger on a tie. The
written form is positional and has no exponent: an integral number has no point,
and a fraction below one starts with `0.`.
-/

namespace CallMigration.Decimal

/-- Decimals `digits · 10^exponent`. -/
structure Scaled where
  digits : Nat
  exponent : Int
deriving DecidableEq, Repr, Inhabited

/-- The exponent of the unit in which the ends of a rounding interval are whole. -/
def quarter (e : Int) : Int := e - 2

/-- Compare `a · 10^i` with `b · 2^j`. -/
def compareScaled (a : Nat) (i : Int) (b : Nat) (j : Int) : Ordering :=
  let left := a * Nat.pow 10 i.toNat * Nat.pow 2 (-j).toNat
  let right := b * Nat.pow 2 j.toNat * Nat.pow 10 (-i).toNat
  compare left right

/-- Whether `a · 10^i` reads back as `m · 2^e`: it lies in the interval of reals
that round to that number, ends included when `m` is even. Below a power of two
the interval is half as wide. -/
def readsBack (m : Nat) (e : Int) (a : Nat) (i : Int) : Bool :=
  let lower := if m = Nat.pow 2 52 ∧ -1074 < e then 4 * m - 1 else 4 * m - 2
  let upper := 4 * m + 2
  let low := compareScaled a i lower (quarter e)
  let high := compareScaled a i upper (quarter e)
  if m % 2 = 0 then low != .lt && high != .gt else low == .gt && high == .lt

/-- The whole part of `m · 2^e / 10^i`. -/
def floorAt (m : Nat) (e i : Int) : Nat :=
  let num := m * Nat.pow 2 e.toNat * Nat.pow 10 (-i).toNat
  let den := Nat.pow 2 (-e).toNat * Nat.pow 10 i.toNat
  num / den

/-- The decimal on the grid of `10^i` that reads back as `m · 2^e`, if there is one:
one of the two neighbours, the nearer, the larger on a tie. -/
def onGrid? (m : Nat) (e i : Int) : Option Nat :=
  let below := floorAt m e i
  match readsBack m e below i && 0 < below, readsBack m e (below + 1) i with
  | true, true =>
      -- the middle of the two neighbours against the number itself
      if compareScaled (2 * below + 1) i (2 * m) e == .gt then some below else some (below + 1)
  | true, false => some below
  | false, true => some (below + 1)
  | false, false => none

/-- The first grid, from coarse to fine, that holds a decimal which reads back. -/
def search (m : Nat) (e : Int) : Nat → Int → Scaled
  | 0, i => ⟨floorAt m e i, i⟩
  | fuel + 1, i =>
      match onGrid? m e i with
      | some digits => ⟨digits, i⟩
      | none => search m e fuel (i - 1)

/-- An upper bound for the decimal exponent of `m · 2^e`. -/
def topExponent (m : Nat) (e : Int) : Int :=
  ((Nat.log2 m : Int) + e + 1) * 30103 / 100000 + 1

/-- The shortest decimal that reads back as `m · 2^e`, for positive `m`. Twenty
grids below the leading digit always suffice. -/
def shortest (m : Nat) (e : Int) : Scaled :=
  search m e 22 (topExponent m e)

/-- `digits · 10^exponent` without an exponent, trailing zeros of a fraction left out. -/
def positional (d : Scaled) : String :=
  if 0 ≤ d.exponent then toString (d.digits * Nat.pow 10 d.exponent.toNat)
  else
    let places := (-d.exponent).toNat
    let unit := Nat.pow 10 places
    let fraction := (toString (d.digits % unit + unit)).toList.drop 1
    let kept := (fraction.reverse.dropWhile (· = '0')).reverse
    let whole := toString (d.digits / unit)
    if kept.isEmpty then whole else whole ++ "." ++ String.ofList kept

end CallMigration.Decimal

namespace CallMigration.Binary64

/-- The written form of a number. -/
def render : Binary64 → String
  | nan _ => "NaN"
  | infinite negative => if negative then "-inf" else "inf"
  | finite negative m e =>
      let body := if m = 0 then "0" else Decimal.positional (Decimal.shortest m e)
      if negative then "-" ++ body else body

end CallMigration.Binary64
