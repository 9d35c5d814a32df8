import CallMigration.Proofs.Decimal.Range
import CallMigration.Proofs.Decimal.Shortest
import Mathlib.Data.List.TakeWhile
import Mathlib.Tactic.LinearCombination

/-!
# Whole numbers

A number is written with digits alone just when it is whole. The shortest decimal of a
whole number is found on a grid of whole numbers, and a decimal without a fraction reads
back as a whole number only.
-/

namespace CallMigration

namespace Text

/-- Whether characters are a numeral of digits and underscores only. -/
def isNumeral (cs : List Char) : Bool := !cs.isEmpty && cs.all fun c => c.isDigit || c == '_'

theorem isNumeral_toDigits (n : Nat) : isNumeral (Nat.toDigits 10 n) = true := by
  have hdigits : ∀ c ∈ Nat.toDigits 10 n, (c.isDigit || c == '_') = true := by
    intro c hc
    rw [Nat.isDigit_of_mem_toDigits (by decide) (by decide) hc, Bool.true_or]
  simpa [isNumeral, Nat.toDigits_ne_nil] using hdigits

/-- A numeral has no point. -/
theorem isNumeral_of_mem_point {cs : List Char} (hpoint : '.' ∈ cs) : isNumeral cs = false := by
  refine Bool.eq_false_iff.mpr fun hnumeral => ?_
  have hall := List.all_eq_true.mp (Bool.and_eq_true_iff.mp hnumeral).2
  exact absurd (hall '.' hpoint) (by decide)

end Text

namespace Decimal

/-- Whether `m · 2^e` is an integer. -/
def IsWhole (m : Nat) (e : Int) : Prop := 2 ^ (-e).toNat ∣ m

theorem isWhole_iff {m : Nat} {e : Int} : IsWhole m e ↔ ∃ n : Nat, binary m e = n := by
  have hpower := zpow_mul_pow_toNat (by norm_num : (2 : ℚ) ≠ 0) e
  constructor
  · rintro ⟨c, rfl⟩
    refine ⟨c * 2 ^ e.toNat, ?_⟩
    rw [binary]
    push_cast
    rw [← hpower]
    ring
  · rintro ⟨n, hn⟩
    rcases Int.le_total 0 e with he | he
    · rw [IsWhole, show (-e).toNat = 0 by omega]
      exact one_dvd m
    · refine ⟨n, ?_⟩
      have hscaled : (m : ℚ) = n * 2 ^ (-e).toNat := by
        rw [show e.toNat = 0 by omega, pow_zero] at hpower
        rw [← hn, binary, mul_assoc, hpower, mul_one]
      rw [Nat.mul_comm]
      exact_mod_cast hscaled

/-! ## From a whole number to its decimal -/

theorem isSome_onGrid?_zero {m n : Nat} {e : Int} (hm : 0 < m) (hn : binary m e = n) :
    (onGrid? m e 0).isSome = true := by
  obtain ⟨hbelow, habove⟩ := floorAt_spec m e 0
  have hpos : 0 < binary m e := by
    unfold binary
    positivity
  simp only [decimal, zpow_zero, mul_one, hn] at hbelow habove
  have hfloor : floorAt m e 0 = n := by
    have hle : floorAt m e 0 ≤ n := by exact_mod_cast hbelow
    have hlt : n < floorAt m e 0 + 1 := by exact_mod_cast habove
    omega
  have hreads : readsBack m e n 0 = true := by
    refine readsBack_of_le_of_lt hm ?_ ?_
    · simp [decimal, hn]
    · have hunit : (0 : ℚ) < 2 ^ e := by positivity
      simpa [decimal, hn] using hunit
  have hne : 0 < n := by
    rw [hn] at hpos
    exact_mod_cast hpos
  unfold onGrid?
  grind

/-- From a grid of whole numbers the search does not go on to a finer one than that of the
integers, if this holds a decimal. -/
theorem exponent_search_nonneg {m fuel : Nat} {e i : Int} (hi : 0 ≤ i)
    (hzero : (onGrid? m e 0).isSome = true) : 0 ≤ (search m e fuel i).exponent := by
  induction fuel generalizing i with
  | zero => exact hi
  | succ fuel ih =>
      rw [search]
      cases hhere : onGrid? m e i with
      | some digits => exact hi
      | none =>
          refine ih ?_
          rcases Int.lt_or_eq_of_le hi with hlt | rfl
          · omega
          · simp [hhere] at hzero

theorem exponent_shortest_nonneg {m : Nat} {e : Int} (hm : 0 < m) (hwhole : IsWhole m e) :
    0 ≤ (shortest m e).exponent := by
  obtain ⟨n, hn⟩ := isWhole_iff.mp hwhole
  refine exponent_search_nonneg ?_ (isSome_onGrid?_zero hm hn)
  have hlog : (-e).toNat ≤ Nat.log2 m :=
    (Nat.le_log2 (by omega)).mpr (Nat.le_of_dvd hm hwhole)
  rw [topExponent]
  omega

/-! ## From a decimal to a whole number -/

/-- A whole decimal reads back as a whole number, for the next number is half a unit off at
least. -/
theorem isWhole_of_readsBack {m a n : Nat} {e i : Int} (hm : 0 < m)
    (hreads : readsBack m e a i = true) (hn : decimal a i = n) : IsWhole m e := by
  rcases Int.le_total 0 e with he | he
  · rw [IsWhole, show (-e).toNat = 0 by omega]
    exact one_dvd m
  · obtain ⟨hlow, hhigh⟩ := bounds_of_readsBack hm hreads
    have hpower := zpow_mul_pow_toNat (by norm_num : (2 : ℚ) ≠ 0) e
    rw [show e.toNat = 0 by omega, pow_zero] at hpower
    have hunits : (0 : ℚ) < 2 ^ (-e).toNat := by positivity
    rw [hn, binary] at hlow hhigh
    have hlow' := mul_le_mul_of_nonneg_right hlow hunits.le
    have hhigh' := mul_le_mul_of_nonneg_right hhigh hunits.le
    have hle : (2 * m : ℚ) ≤ 2 * (n * 2 ^ (-e).toNat) + 1 := by
      linear_combination hlow' + (1 - 2 * m) * hpower
    have hge : 2 * (n * 2 ^ (-e).toNat) ≤ (2 * m + 1 : ℚ) := by
      linear_combination hhigh' + (2 * m + 1) * hpower
    norm_cast at hle hge
    exact ⟨n, by rw [Nat.mul_comm]; omega⟩

/-! ## The written form -/

/-- The digits after the leading one of `10^places + r` are the digits of `r`. -/
theorem all_zero_iff {places r : Nat} (hr : r < 10 ^ places) :
    (∀ c ∈ (Nat.toDigits 10 (r + 10 ^ places)).drop 1, c = '0') ↔ r = 0 := by
  induction places generalizing r with
  | zero =>
      obtain rfl : r = 0 := by omega
      simp [Nat.toDigits_of_lt_base]
  | succ places ih =>
      rw [Nat.pow_succ] at hr ⊢
      have hpos : 0 < 10 ^ places := by positivity
      have hdigits := Nat.toDigits_of_base_le (by decide : 1 < 10)
        (by omega : 10 ≤ r + 10 ^ places * 10)
      rw [show (r + 10 ^ places * 10) / 10 = r / 10 + 10 ^ places by omega,
        show (r + 10 ^ places * 10) % 10 = r % 10 by omega] at hdigits
      have hlength : 1 ≤ (Nat.toDigits 10 (r / 10 + 10 ^ places)).length := Nat.length_toDigits_pos
      rw [hdigits, List.drop_append_of_le_length hlength, List.forall_mem_append, ih (by omega)]
      simp only [List.mem_singleton, forall_eq, Nat.digitChar_eq_zero]
      omega

theorem isEmpty_trimmed_iff (cs : List Char) :
    (cs.reverse.dropWhile (· = '0')).reverse.isEmpty = true ↔ ∀ c ∈ cs, c = '0' := by
  simp [List.dropWhile_eq_nil_iff]

theorem decimal_eq_natCast_iff {a n : Nat} {i : Int} (hi : i ≤ 0) :
    decimal a i = n ↔ a = n * 10 ^ (-i).toNat := by
  have hpower := zpow_mul_pow_toNat (by norm_num : (10 : ℚ) ≠ 0) i
  rw [show i.toNat = 0 by omega, pow_zero] at hpower
  have hpos : (0 : ℚ) < 10 ^ (-i).toNat := by positivity
  rw [← mul_left_inj' hpos.ne', decimal, mul_assoc, hpower, mul_one]
  exact_mod_cast Iff.rfl

/-- A decimal is written as the integer that it is, or with a point, and then it comes from
a grid finer than the integers. -/
theorem positional_cases (d : Scaled) :
    (∃ n : Nat, positional d = toString n ∧ decimal d.digits d.exponent = n) ∨
      '.' ∈ (positional d).toList ∧ d.exponent < 0 := by
  unfold positional
  split
  next hexponent =>
    refine Or.inl ⟨_, rfl, ?_⟩
    have hpower := zpow_mul_pow_toNat (by norm_num : (10 : ℚ) ≠ 0) d.exponent
    rw [show (-d.exponent).toNat = 0 by omega, pow_zero, mul_one] at hpower
    simp [decimal, hpower]
  next hexponent =>
    have hlt := Int.not_le.mp hexponent
    have hunit : 0 < 10 ^ (-d.exponent).toNat := Nat.pow_pos (by decide)
    have hfraction := all_zero_iff (Nat.mod_lt d.digits hunit)
    have hsplit := Nat.div_add_mod d.digits (10 ^ (-d.exponent).toNat)
    simp only [Nat.pow_eq, Nat.toString_eq_repr, Nat.repr_eq_ofList_toDigits, String.toList_ofList]
    split
    next hkept =>
      rw [isEmpty_trimmed_iff, hfraction] at hkept
      refine Or.inl ⟨_, rfl, (decimal_eq_natCast_iff hlt.le).mpr ?_⟩
      rw [Nat.mul_comm]
      omega
    next hkept => exact Or.inr ⟨by simp, hlt⟩

/-- A number is written as an integer when it is one, and with a point otherwise. -/
theorem positional_shortest_cases {m : Nat} {e : Int} (hm : 0 < m) (hbits : m < 2 ^ 53)
    (hlow : -1074 ≤ e) (hhigh : e ≤ 971) :
    (∃ n : Nat, positional (shortest m e) = toString n) ∧ IsWhole m e ∨
      '.' ∈ (positional (shortest m e)).toList ∧ ¬IsWhole m e := by
  rcases positional_cases (shortest m e) with ⟨n, htext, hn⟩ | ⟨hpoint, hexponent⟩
  · have hreads := readsBack_shortest hm hbits hlow hhigh
    exact Or.inl ⟨⟨n, htext⟩, isWhole_of_readsBack hm hreads hn⟩
  · refine Or.inr ⟨hpoint, fun hwhole => ?_⟩
    exact absurd (exponent_shortest_nonneg hm hwhole) (Int.not_le.mpr hexponent)

theorem mem_splitSign {c : Char} {cs : List Char} (hc : c ∈ cs) (hplus : c ≠ '+')
    (hminus : c ≠ '-') : c ∈ (splitSign cs).2 := by
  unfold splitSign
  split <;> simp_all

/-- Digits have no sign to take off. -/
theorem splitSign_toDigits (n : Nat) :
    splitSign (Nat.toDigits 10 n) = (false, Nat.toDigits 10 n) := by
  have hdigit {c : Char} (hc : c ∈ Nat.toDigits 10 n) : c.isDigit = true :=
    Nat.isDigit_of_mem_toDigits (by decide) (by decide) hc
  unfold splitSign
  split
  next heq => exact absurd (hdigit (heq ▸ List.mem_cons_self)) (by decide)
  next heq => exact absurd (hdigit (heq ▸ List.mem_cons_self)) (by decide)
  next => rfl

end Decimal

namespace Binary64

/-- Whether the number is an integer. -/
def IsWhole : Binary64 → Prop
  | finite _ m e => Decimal.IsWhole m e
  | _ => False

/-- The written form of a number without its sign. -/
def magnitude (m : Nat) (e : Int) : String :=
  if m = 0 then "0" else Decimal.positional (Decimal.shortest m e)

theorem magnitude_cases {m : Nat} {e : Int} (hbits : m < 2 ^ 53) (hlow : -1074 ≤ e)
    (hhigh : e ≤ 971) :
    (∃ n : Nat, magnitude m e = toString n) ∧ Decimal.IsWhole m e ∨
      '.' ∈ (magnitude m e).toList ∧ ¬Decimal.IsWhole m e := by
  unfold magnitude
  split
  next hzero => exact Or.inl ⟨⟨0, rfl⟩, hzero ▸ dvd_zero _⟩
  next hne => exact Decimal.positional_shortest_cases (Nat.pos_of_ne_zero hne) hbits hlow hhigh

theorem isNumeral_unsigned_toString (n : Nat) :
    Text.isNumeral (Decimal.splitSign (toString n).toList).2 = true := by
  rw [Nat.toString_eq_repr, Nat.repr_eq_ofList_toDigits, String.toList_ofList,
    Decimal.splitSign_toDigits]
  exact Text.isNumeral_toDigits n

/-- Apart from its sign a number is written with digits alone just when it is whole. -/
theorem isNumeral_render_iff {x : Binary64} (hx : x.IsProper) :
    Text.isNumeral (Decimal.splitSign x.render.toList).2 = true ↔ x.IsWhole := by
  cases x with
  | nan negative => simp [render, IsWhole]; decide
  | infinite negative => cases negative <;> simp [render, IsWhole] <;> decide
  | finite negative m e =>
      obtain ⟨hbits, hlow, hhigh⟩ := hx
      have hrender : (finite negative m e).render =
          if negative then "-" ++ magnitude m e else magnitude m e := rfl
      have hunsigned : (Decimal.splitSign (finite negative m e).render.toList).2 =
          if negative then (magnitude m e).toList
          else (Decimal.splitSign (magnitude m e).toList).2 := by
        rw [hrender]
        cases negative with
        | false => rfl
        | true => simp [Decimal.splitSign]
      rw [hunsigned]
      rcases magnitude_cases hbits hlow hhigh with ⟨⟨n, htext⟩, hwhole⟩ | ⟨hpoint, hwhole⟩
      · rw [htext]
        refine iff_of_true ?_ hwhole
        cases negative with
        | false => exact isNumeral_unsigned_toString n
        | true => simpa [Nat.repr_eq_ofList_toDigits] using Text.isNumeral_toDigits n
      · refine iff_of_false ?_ hwhole
        rw [Bool.not_eq_true]
        have hkept := Decimal.mem_splitSign hpoint (by decide) (by decide)
        cases negative with
        | false => exact Text.isNumeral_of_mem_point hkept
        | true => exact Text.isNumeral_of_mem_point hpoint

end Binary64

end CallMigration
