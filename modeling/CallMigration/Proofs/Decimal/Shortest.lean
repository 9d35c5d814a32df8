import CallMigration.Decimal.Shortest
import Mathlib.Algebra.Order.Field.Rat
import Mathlib.Algebra.Order.Field.Power
import Mathlib.Tactic.FieldSimp
import Mathlib.Tactic.Linarith
import Mathlib.Tactic.NormNum
import Mathlib.Tactic.Positivity
import Mathlib.Tactic.Ring

/-!
# The shortest decimal, as a rational number

The comparisons behind the shortest decimal are those of rational numbers. Twenty grids
below the leading digit are always enough, so the decimal that is found reads back as the
number.
-/

namespace CallMigration.Decimal

/-- `m · 2^e`. -/
def binary (m : Nat) (e : Int) : ℚ := m * (2 : ℚ) ^ e

/-- `a · 10^i`. -/
def decimal (a : Nat) (i : Int) : ℚ := a * (10 : ℚ) ^ i

/-! ## Comparisons -/

theorem zpow_mul_pow_toNat {b : ℚ} (hb : b ≠ 0) (i : Int) :
    b ^ i * b ^ (-i).toNat = b ^ i.toNat := by
  rw [← zpow_natCast, ← zpow_natCast, ← zpow_add₀ hb]
  congr 1
  omega

section Common

variable (a b m : Nat) (i j : Int)

/-- A common factor that leaves powers with natural exponents. -/
def common : ℚ := (10 : ℚ) ^ (-i).toNat * (2 : ℚ) ^ (-j).toNat

theorem common_pos : 0 < common i j := by
  unfold common
  positivity

theorem decimal_mul_common :
    decimal a i * common i j = ((a * Nat.pow 10 i.toNat * Nat.pow 2 (-j).toNat : Nat) : ℚ) := by
  have hten := zpow_mul_pow_toNat (by norm_num : (10 : ℚ) ≠ 0) i
  simp only [decimal, common, Nat.pow_eq]
  push_cast
  rw [← hten]
  ring

theorem binary_mul_common :
    binary b j * common i j = ((b * Nat.pow 2 j.toNat * Nat.pow 10 (-i).toNat : Nat) : ℚ) := by
  have htwo := zpow_mul_pow_toNat (by norm_num : (2 : ℚ) ≠ 0) j
  simp only [binary, common, Nat.pow_eq]
  push_cast
  rw [← htwo]
  ring

end Common

theorem compareScaled_eq_lt_iff {a b : Nat} {i j : Int} :
    compareScaled a i b j = .lt ↔ decimal a i < binary b j := by
  rw [compareScaled, Nat.compare_eq_lt, ← mul_lt_mul_iff_of_pos_right (common_pos i j),
    decimal_mul_common, binary_mul_common, Nat.cast_lt]

theorem compareScaled_eq_gt_iff {a b : Nat} {i j : Int} :
    compareScaled a i b j = .gt ↔ binary b j < decimal a i := by
  rw [compareScaled, Nat.compare_eq_gt, ← mul_lt_mul_iff_of_pos_right (common_pos i j),
    decimal_mul_common, binary_mul_common, Nat.cast_lt]

/-- The whole part on a grid, from both sides. -/
theorem floorAt_spec (m : Nat) (e i : Int) :
    decimal (floorAt m e i) i ≤ binary m e ∧ binary m e < decimal (floorAt m e i + 1) i := by
  have hpos := common_pos i e
  have hden : 0 < Nat.pow 2 (-e).toNat * Nat.pow 10 i.toNat := by
    simp only [Nat.pow_eq]
    positivity
  rw [← mul_le_mul_iff_of_pos_right hpos, ← mul_lt_mul_iff_of_pos_right hpos, decimal_mul_common,
    decimal_mul_common, binary_mul_common, Nat.cast_le, Nat.cast_lt]
  rw [Nat.mul_assoc, Nat.mul_assoc (_ + 1), Nat.mul_comm (Nat.pow 10 i.toNat)]
  refine ⟨Nat.div_mul_le_self _ _, ?_⟩
  rw [Nat.mul_comm (floorAt m e i + 1)]
  exact Nat.lt_mul_div_succ _ hden

/-! ## The interval that reads back -/

/-- The lower end of the interval, in quarters of a unit. -/
def lowerQuarters (m : Nat) (e : Int) : Nat :=
  if m = Nat.pow 2 52 ∧ -1074 < e then 4 * m - 1 else 4 * m - 2

theorem readsBack_eq (m a : Nat) (e i : Int) :
    readsBack m e a i =
      let low := compareScaled a i (lowerQuarters m e) (quarter e)
      let high := compareScaled a i (4 * m + 2) (quarter e)
      if m % 2 = 0 then low != .lt && high != .gt else low == .gt && high == .lt := rfl

theorem lowerQuarters_bounds {m : Nat} (hm : 0 < m) (e : Int) :
    4 * m ≤ lowerQuarters m e + 2 ∧ lowerQuarters m e < 4 * m := by
  unfold lowerQuarters
  split <;> omega

theorem binary_quarter (n : Nat) (e : Int) : 4 * binary n (quarter e) = n * (2 : ℚ) ^ e := by
  rw [binary, quarter, zpow_sub₀ (by norm_num)]
  ring

/-- What reads back is off by at most half a unit. -/
theorem bounds_of_readsBack {m a : Nat} {e i : Int} (hm : 0 < m)
    (hreads : readsBack m e a i = true) :
    2 * binary m e ≤ 2 * decimal a i + (2 : ℚ) ^ e ∧
      2 * decimal a i ≤ 2 * binary m e + (2 : ℚ) ^ e := by
  have hends : ¬decimal a i < binary (lowerQuarters m e) (quarter e) ∧
      ¬binary (4 * m + 2) (quarter e) < decimal a i := by
    rw [← compareScaled_eq_lt_iff, ← compareScaled_eq_gt_iff]
    rw [readsBack_eq] at hreads
    split at hreads <;> simp_all
  obtain ⟨hlower, hupper⟩ := hends
  have hquarter : (4 * m : ℚ) ≤ lowerQuarters m e + 2 := by
    exact_mod_cast (lowerQuarters_bounds hm e).1
  have hscaled := mul_le_mul_of_nonneg_right hquarter (by positivity : (0 : ℚ) ≤ 2 ^ e)
  have hlow := binary_quarter (lowerQuarters m e) e
  have hhigh := binary_quarter (4 * m + 2) e
  push_cast at hhigh
  unfold binary at hlower hupper hlow hhigh ⊢
  constructor <;> linarith

/-- What is above by less than half a unit reads back. -/
theorem readsBack_of_le_of_lt {m a : Nat} {e i : Int} (hm : 0 < m)
    (hlow : binary m e ≤ decimal a i) (hhigh : 2 * decimal a i < 2 * binary m e + (2 : ℚ) ^ e) :
    readsBack m e a i = true := by
  have hends : binary (lowerQuarters m e) (quarter e) < decimal a i ∧
      decimal a i < binary (4 * m + 2) (quarter e) := by
    have hquarter : (lowerQuarters m e : ℚ) < 4 * m := by
      exact_mod_cast (lowerQuarters_bounds hm e).2
    have hscaled := mul_lt_mul_of_pos_right hquarter (by positivity : (0 : ℚ) < 2 ^ e)
    have hlower := binary_quarter (lowerQuarters m e) e
    have hupper := binary_quarter (4 * m + 2) e
    push_cast at hupper
    unfold binary at hlow hhigh hlower hupper ⊢
    constructor <;> linarith
  rw [← compareScaled_eq_gt_iff, ← compareScaled_eq_lt_iff] at hends
  obtain ⟨hlower, hupper⟩ := hends
  rw [readsBack_eq, hlower, hupper]
  split <;> rfl

/-! ## The search -/

theorem readsBack_of_onGrid? {m digits : Nat} {e i : Int} (hgrid : onGrid? m e i = some digits) :
    readsBack m e digits i = true := by
  unfold onGrid? at hgrid
  grind

/-- A grid finer than half a unit holds a decimal that reads back. -/
theorem isSome_onGrid?_of_fine {m : Nat} {e i : Int} (hm : 0 < m)
    (hfine : 2 * (10 : ℚ) ^ i < (2 : ℚ) ^ e) : (onGrid? m e i).isSome = true := by
  obtain ⟨hbelow, habove⟩ := floorAt_spec m e i
  have hnext : decimal (floorAt m e i + 1) i = decimal (floorAt m e i) i + (10 : ℚ) ^ i := by
    simp only [decimal]
    push_cast
    ring
  have hreads : readsBack m e (floorAt m e i + 1) i = true :=
    readsBack_of_le_of_lt hm (le_of_lt habove) (by linarith)
  unfold onGrid?
  grind

/-- The search stops on a grid that holds a decimal, if it meets one. -/
theorem readsBack_search {m : Nat} {e : Int} (steps : Nat) {fuel : Nat} {i : Int}
    (hsteps : steps < fuel) (hgrid : (onGrid? m e (i - steps)).isSome = true) :
    readsBack m e (search m e fuel i).digits (search m e fuel i).exponent = true := by
  induction fuel generalizing steps i with
  | zero => omega
  | succ fuel ih =>
      rw [search]
      cases hhere : onGrid? m e i with
      | some digits => exact readsBack_of_onGrid? hhere
      | none =>
          cases steps with
          | zero => simp [hhere] at hgrid
          | succ steps =>
              refine ih steps (Nat.lt_of_succ_lt_succ hsteps) ?_
              rwa [show i - 1 - (steps : Int) = i - ((steps + 1 : Nat) : Int) by omega]

/-! ## Twenty grids -/

/-- A power of ten is at most sixteen times the power of two of the same size. -/
theorem ten_zpow_le_two_zpow {k : Int} (hlow : -1100 ≤ k) (hhigh : k ≤ 1100) :
    (10 : ℚ) ^ (k * 30103 / 100000) ≤ (2 : ℚ) ^ (k + 4) := by
  rcases Int.le_total 0 k with hk | hk
  · -- `10^3 ≤ 2^10`
    obtain ⟨n, rfl⟩ := Int.eq_ofNat_of_zero_le hk
    obtain ⟨a, ha⟩ := Int.eq_ofNat_of_zero_le (by omega : 0 ≤ (n : Int) * 30103 / 100000)
    rw [ha, show ((n : Int) + 4) = ((n + 4 : Nat) : Int) by omega, zpow_natCast, zpow_natCast]
    have hcube : (10 ^ a) ^ 3 ≤ (2 ^ (n + 4)) ^ 3 := calc
      (10 ^ a) ^ 3 = (10 ^ 3) ^ a := by rw [← pow_mul, ← pow_mul, Nat.mul_comm]
      _ ≤ (2 ^ 10) ^ a := Nat.pow_le_pow_left (by norm_num) a
      _ = 2 ^ (10 * a) := by rw [← pow_mul]
      _ ≤ 2 ^ ((n + 4) * 3) := Nat.pow_le_pow_right (by norm_num) (by omega)
      _ = (2 ^ (n + 4)) ^ 3 := by rw [← pow_mul]
    exact_mod_cast (Nat.pow_le_pow_iff_left (by norm_num)).mp hcube
  · -- `2^93 ≤ 10^28`
    obtain ⟨n, hn⟩ := Int.eq_ofNat_of_zero_le (by omega : 0 ≤ -k)
    obtain ⟨a, ha⟩ := Int.eq_ofNat_of_zero_le (by omega : 0 ≤ -(k * 30103 / 100000))
    obtain rfl : k = -(n : Int) := by omega
    rw [show -(n : Int) * 30103 / 100000 = -(a : Int) by omega, zpow_add₀ (by norm_num),
      zpow_neg, zpow_neg, zpow_natCast, zpow_natCast]
    have hpower : (2 ^ n) ^ 28 ≤ (10 ^ a * 2 ^ 4) ^ 28 := calc
      (2 ^ n) ^ 28 = 2 ^ (n * 28) := by rw [← pow_mul]
      _ ≤ 2 ^ (93 * a + 4 * 28) := Nat.pow_le_pow_right (by norm_num) (by omega)
      _ = (2 ^ 93) ^ a * (2 ^ 4) ^ 28 := by rw [pow_add, ← pow_mul, ← pow_mul]
      _ ≤ (10 ^ 28) ^ a * (2 ^ 4) ^ 28 :=
        Nat.mul_le_mul_right _ (Nat.pow_le_pow_left (by norm_num) a)
      _ = (10 ^ a * 2 ^ 4) ^ 28 := by rw [mul_pow, ← pow_mul 10 28, ← pow_mul 10 a, Nat.mul_comm 28]
    have hle : (2 : ℚ) ^ n ≤ 10 ^ a * 2 ^ 4 := by
      exact_mod_cast (Nat.pow_le_pow_iff_left (by norm_num)).mp hpower
    rwa [inv_mul_eq_div, le_div_iff₀ (by positivity), inv_mul_le_iff₀ (by positivity),
      show (4 : Int) = ((4 : Nat) : Int) from rfl, zpow_natCast]

/-- The decimal that is found for a number reads back as the number. -/
theorem readsBack_shortest {m : Nat} {e : Int} (hm : 0 < m) (hbits : m < Nat.pow 2 53)
    (hlow : -1074 ≤ e) (hhigh : e ≤ 971) :
    readsBack m e (shortest m e).digits (shortest m e).exponent = true := by
  have hlog : Nat.log2 m ≤ 52 := by
    have hlt := (Nat.log2_lt (by omega)).mpr hbits
    omega
  have hsize : (10 : ℚ) ^ (((Nat.log2 m : Int) + e + 1) * 30103 / 100000) ≤ (2 : ℚ) ^ (e + 57) :=
    le_trans (ten_zpow_le_two_zpow (by omega) (by omega))
      (zpow_le_zpow_right₀ (by norm_num) (by omega))
  refine readsBack_search 21 (by omega) (isSome_onGrid?_of_fine hm ?_)
  rw [topExponent, show ∀ x : Int, x + 1 - ((21 : Nat) : Int) = x - 20 by intro x; omega,
    zpow_sub₀ (by norm_num)]
  rw [zpow_add₀ (by norm_num)] at hsize
  have hunit : (0 : ℚ) < 2 ^ e := by positivity
  norm_num at hsize ⊢
  linarith

end CallMigration.Decimal
