import CallMigration.Toml.Scalar
import Mathlib.Tactic.NormNum
import Mathlib.Tactic.Positivity

/-!
# The range of double-precision numbers

Every number that is read has a mantissa of at most 53 bits and an exponent between the least
and the greatest one.
-/

namespace CallMigration.Binary64

/-- The range of double-precision numbers. -/
def IsProper : Binary64 → Prop
  | finite _ m e => m < 2 ^ 53 ∧ -1074 ≤ e ∧ e ≤ 971
  | _ => True

theorem roundQuotient_le (num den : Nat) : roundQuotient num den ≤ num / den + 1 := by
  simp only [roundQuotient]
  split <;> omega

/-- With an exponent that is not too small the quotient has at most 53 bits. -/
theorem quotient_scaled_lt {num den : Nat} {e : Int} (hden : 0 < den)
    (he : (Nat.log2 num : Int) - Nat.log2 den - 52 ≤ e) :
    (scaled num den e).1 / (scaled num den e).2 < 2 ^ 53 := by
  simp only [scaled, Nat.pow_eq]
  rw [Nat.div_lt_iff_lt_mul (by positivity)]
  calc num * 2 ^ (-e).toNat
      < 2 ^ (Nat.log2 num + 1) * 2 ^ (-e).toNat :=
        Nat.mul_lt_mul_of_pos_right Nat.lt_log2_self (by positivity)
    _ = 2 ^ (Nat.log2 num + 1 + (-e).toNat) := (Nat.pow_add ..).symm
    _ ≤ 2 ^ (53 + (Nat.log2 den + e.toNat)) := Nat.pow_le_pow_right (by norm_num) (by omega)
    _ = 2 ^ 53 * (2 ^ Nat.log2 den * 2 ^ e.toNat) := by rw [Nat.pow_add, Nat.pow_add]
    _ ≤ 2 ^ 53 * (den * 2 ^ e.toNat) := by
        gcongr
        exact Nat.log2_self_le hden.ne'

/-- Rounding up to a power of two is made up for by the exponent. -/
theorem isProper_ofQuotient (negative : Bool) {num den : Nat} (hden : 0 < den) :
    (ofQuotient negative num den).IsProper := by
  unfold ofQuotient
  extract_lets high try53 start e s m carried m' e'
  have hleast : -1074 ≤ e := Int.le_max_right _ _
  have hquotient : s.1 / s.2 < 2 ^ 53 := by
    by_cases hsame : e = high - 53 ∧ try53.1 / try53.2 < 2 ^ 53
    · have hs : s = try53 := by rw [show s = scaled num den e from rfl, hsame.1]
      rw [hs]
      exact hsame.2
    · apply quotient_scaled_lt hden
      simp only [e, start, Nat.pow_eq] at hsame ⊢
      split <;> omega
  have hround : m ≤ 2 ^ 53 := Nat.le_trans (roundQuotient_le _ _) hquotient
  split
  · trivial
  next hgreatest =>
    simp only [m', e', carried, beq_iff_eq, Nat.pow_eq] at hgreatest ⊢
    by_cases hcarried : m = 2 ^ 53
    · simp only [if_pos hcarried] at hgreatest ⊢
      exact ⟨by norm_num, by omega, by omega⟩
    · simp only [if_neg hcarried] at hgreatest ⊢
      exact ⟨by omega, hleast, by omega⟩

theorem isProper_ofDecimal (negative : Bool) (digits : Nat) (exponent : Int) :
    (ofDecimal negative digits exponent).IsProper := by
  unfold ofDecimal
  extract_lets size
  split
  · exact ⟨by norm_num, Int.le_refl _, by norm_num⟩
  · split
    · trivial
    · split
      · exact ⟨by norm_num, Int.le_refl _, by norm_num⟩
      · exact isProper_ofQuotient negative (Nat.pow_pos (by norm_num))

/-- A number that is read is in range. -/
theorem isProper_of_number? {cs : List Char} {x : Binary64} (hx : Toml.number? cs = some x) :
    x.IsProper := by
  unfold Toml.number? at hx
  split at hx
  next negative body hsign =>
    split at hx
    · cases hx
      trivial
    · split at hx
      · cases hx
        trivial
      · obtain ⟨exponent, -, hx⟩ := Option.bind_eq_some_iff.mp hx
        obtain ⟨whole, -, hx⟩ := Option.bind_eq_some_iff.mp hx
        have hvalue : ∀ digits exponent, (if (ofDecimal negative digits exponent).isFinite = true
            then some (ofDecimal negative digits exponent) else none) = some x → x.IsProper := by
          intro digits exponent hvalue
          obtain ⟨-, hx⟩ := Option.ite_none_right_eq_some.mp hvalue
          exact Option.some.inj hx ▸ isProper_ofDecimal negative digits exponent
        -- Without a point the fraction is empty, and then there has to be an exponent.
        split at hx
        · split at hx
          · cases hx
          · exact hvalue _ _ hx
        · obtain ⟨fraction, -, hx⟩ := Option.bind_eq_some_iff.mp hx
          exact hvalue _ _ hx

end CallMigration.Binary64
