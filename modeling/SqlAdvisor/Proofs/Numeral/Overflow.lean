import Mathlib.Algebra.Order.Field.Basic
import Mathlib.Data.Rat.Cast.Order
import Mathlib.Tactic.FieldSimp
import Mathlib.Tactic.Linarith
import Mathlib.Tactic.Positivity
import Mathlib.Tactic.Ring
import SqlAdvisor.Numeral.Decimal

/-! # Numerals that are too great

The greatest binary64 number is `2 ^ 1024 - 2 ^ 971`. What is nearer to it than to `2 ^ 1024` is rounded to it,
and the quantity halfway between goes up, because there the even mantissa is. So the numerals that cannot be
stored are exactly those from `2 ^ 1024 - 2 ^ 970` on.
-/

namespace SqlAdvisor.Numeral

/-- The least quantity that is too great to be stored. -/
def overflowBound : ℚ := 2 ^ 1024 - 2 ^ 970

theorem one_lt_overflowBound : 1 < overflowBound := by
  have double : (2 : ℚ) ^ 1024 = 2 ^ 54 * 2 ^ 970 := by rw [← pow_add]
  have unit : (1 : ℚ) ≤ 2 ^ 970 := one_le_pow₀ one_le_two
  rw [overflowBound, double]
  generalize (2 : ℚ) ^ 970 = u at *
  linarith only [unit]

/-- The quantity that the numeral writes, without its sign. -/
def Decimal.magnitude (d : Decimal) : ℚ := d.coefficient * (10 : ℚ) ^ d.exponent

/-- The integer is the nearest to a quotient; halfway between two, it is the even one. -/
structure IsNearest (numerator denominator n : Nat) : Prop where
  low : 2 * n * denominator < 2 * numerator + denominator ∨
    n % 2 = 0 ∧ 2 * n * denominator = 2 * numerator + denominator
  high : 2 * numerator < (2 * n + 1) * denominator ∨ n % 2 = 0 ∧ 2 * numerator = (2 * n + 1) * denominator

section Nearest

variable {numerator denominator m n : Nat}

theorem IsNearest.low_le (nearest : IsNearest numerator denominator n) :
    2 * n * denominator ≤ 2 * numerator + denominator :=
  nearest.low.elim le_of_lt fun bound => bound.2.le

theorem IsNearest.le_high (nearest : IsNearest numerator denominator n) :
    2 * numerator ≤ (2 * n + 1) * denominator :=
  nearest.high.elim le_of_lt fun bound => bound.2.le

theorem isNearest_roundHalfEven (pos : 0 < denominator) :
    IsNearest numerator denominator (roundHalfEven numerator denominator) := by
  have split := Nat.div_add_mod numerator denominator
  have rest := Nat.mod_lt numerator pos
  rw [roundHalfEven]
  generalize numerator / denominator = q at *
  generalize numerator % denominator = r at *
  subst split
  have below : 2 * q * denominator = 2 * (denominator * q) := by ring
  have middle : (2 * q + 1) * denominator = 2 * (denominator * q) + denominator := by ring
  have above : 2 * (q + 1) * denominator = 2 * (denominator * q) + 2 * denominator := by ring
  have next : (2 * (q + 1) + 1) * denominator = 2 * (denominator * q) + 3 * denominator := by ring
  split
  · exact ⟨.inl (by omega), .inl (by omega)⟩
  split
  · exact ⟨.inl (by omega), .inl (by omega)⟩
  -- Halfway, the quotient is the even integer, or else the next one is.
  rcases Nat.mod_two_eq_zero_or_one q with even | odd
  · rw [even, Nat.add_zero]
    exact ⟨.inl (by omega), .inr ⟨even, by omega⟩⟩
  · rw [odd]
    exact ⟨.inr ⟨by omega, by omega⟩, .inl (by omega)⟩

theorem IsNearest.le (pos : 0 < denominator) (first : IsNearest numerator denominator m)
    (second : IsNearest numerator denominator n) : m ≤ n := by
  by_contra more
  have reaches : (2 * n + 1) * denominator + denominator = 2 * (n + 1) * denominator := by ring
  obtain rfl | far : m = n + 1 ∨ n + 2 ≤ m := by omega
  · -- The quotient would be halfway between two even neighbours.
    have := first.low
    have := second.high
    omega
  · have product : 2 * (n + 2) * denominator ≤ 2 * m * denominator := Nat.mul_le_mul_right _ (by omega)
    have expanded : 2 * (n + 2) * denominator = 2 * (n + 1) * denominator + 2 * denominator := by ring
    have := first.low_le
    have := second.le_high
    omega

theorem roundHalfEven_eq_iff (pos : 0 < denominator) :
    roundHalfEven numerator denominator = n ↔ IsNearest numerator denominator n := by
  have rounded : IsNearest numerator denominator (roundHalfEven numerator denominator) := isNearest_roundHalfEven pos
  constructor
  · rintro rfl
    exact rounded
  · intro nearest
    exact (rounded.le pos nearest).antisymm (nearest.le pos rounded)

theorem roundHalfEven_eq_even (pos : 0 < denominator) (isEven : n % 2 = 0) (below : numerator < n * denominator) :
    roundHalfEven numerator denominator = n ↔ 2 * n * denominator ≤ 2 * numerator + denominator := by
  rw [roundHalfEven_eq_iff pos]
  refine ⟨IsNearest.low_le, fun reaches => ⟨reaches.lt_or_eq.imp_right fun bound => ⟨isEven, bound⟩, .inl ?_⟩⟩
  calc 2 * numerator < 2 * (n * denominator) := by omega
    _ ≤ (2 * n + 1) * denominator := by
        rw [← Nat.mul_assoc]
        exact Nat.mul_le_mul_right _ (Nat.le_succ _)

end Nearest

theorem powerUp_natCast (base n : Nat) : powerUp base n = base ^ n := rfl

theorem powerUp_neg_natCast (base n : Nat) : powerUp base (-n) = 1 := by
  simp [powerUp]

theorem powerUp_div_powerUp (base : Nat) (exponent : Int) :
    (powerUp base exponent : ℚ) / powerUp base (-exponent) = (base : ℚ) ^ exponent := by
  cases exponent with
  | ofNat n =>
      simp [powerUp]
  | negSucc n =>
      have up : (Int.negSucc n).toNat = 0 := rfl
      simp [powerUp, up, zpow_negSucc]

theorem powerUp_div (exponent : Int) : (powerUp 2 exponent : ℚ) / powerUp 2 (-exponent) = 2 ^ exponent :=
  powerUp_div_powerUp 2 exponent

namespace Binary64

/-- The power of two at or below a quotient, by its exponent. -/
def binade (numerator denominator : Nat) : Int :=
  let size : Int := numerator.log2 - denominator.log2
  if denominator * powerUp 2 size ≤ numerator * powerUp 2 (-size) then size else size - 1

variable {numerator denominator : Nat}

theorem binade_spec (hn : 0 < numerator) (hd : 0 < denominator) :
    (2 : ℚ) ^ binade numerator denominator ≤ numerator / denominator ∧
      (numerator / denominator : ℚ) < 2 ^ (binade numerator denominator + 1) := by
  have pos : (0 : ℚ) < denominator := by exact_mod_cast hd
  have logs (n : Nat) (h : 0 < n) : (2 : ℚ) ^ (n.log2 : Int) ≤ n ∧ (n : ℚ) < 2 ^ (n.log2 + 1 : Int) := by
    constructor
    · exact_mod_cast Nat.log2_self_le h.ne'
    · exact_mod_cast Nat.lt_log2_self
  obtain ⟨lowN, highN⟩ := logs numerator hn
  obtain ⟨lowD, highD⟩ := logs denominator hd
  set size : Int := numerator.log2 - denominator.log2 with isSize
  have below : (2 : ℚ) ^ (size - 1) ≤ numerator / denominator := by
    calc (2 : ℚ) ^ (size - 1) = 2 ^ (numerator.log2 : Int) / 2 ^ (denominator.log2 + 1 : Int) := by
          rw [← zpow_sub₀ two_ne_zero]
          congr 1
          omega
      _ ≤ numerator / denominator := div_le_div₀ (by positivity) lowN pos highD.le
  have above : (numerator / denominator : ℚ) < 2 ^ (size + 1) := by
    calc (numerator / denominator : ℚ) < 2 ^ (numerator.log2 + 1 : Int) / 2 ^ (denominator.log2 : Int) :=
          div_lt_div₀ highN lowD (zpow_nonneg zero_le_two _) (zpow_pos two_pos _)
      _ = 2 ^ (size + 1) := by
          rw [← zpow_sub₀ two_ne_zero]
          congr 1
          omega
  have reaches : denominator * powerUp 2 size ≤ numerator * powerUp 2 (-size) ↔
      (2 : ℚ) ^ size ≤ numerator / denominator := by
    have unit : (0 : ℚ) < powerUp 2 (-size) := by
      rw [powerUp]
      exact_mod_cast Nat.two_pow_pos _
    rw [← powerUp_div, div_le_div_iff₀ unit pos]
    norm_cast
    rw [mul_comm]
  rw [binade, ← isSize]
  split
  · rename_i reached
    exact ⟨reaches.mp reached, above⟩
  · rename_i unreached
    rw [sub_add_cancel]
    exact ⟨below, lt_of_not_ge (mt reaches.mpr unreached)⟩

theorem ofQuotient?_eq_none_iff (numerator denominator : Nat) :
    ofQuotient? numerator denominator = none ↔
      greatestExponent < (ofQuotient numerator denominator).exponent := by
  rw [ofQuotient?]
  simp

theorem ofQuotient_exponent (numerator denominator : Nat) :
    let exponent := max (binade numerator denominator - 52) leastExponent
    let mantissa :=
      roundHalfEven (numerator * powerUp 2 (-exponent)) (denominator * powerUp 2 exponent)
    (ofQuotient numerator denominator).exponent =
      if mantissa = Nat.pow 2 53 then exponent + 1 else exponent := by
  intro exponent mantissa
  rw [ofQuotient]
  change (if mantissa = Nat.pow 2 53 then (⟨Nat.pow 2 52, exponent + 1⟩ : Binary64)
    else ⟨mantissa, exponent⟩).exponent = _
  split <;> rfl

/-- Where the greatest exponent is reached, a quotient is too great if its mantissa is rounded up to `2 ^ 53`. -/
private theorem mantissa_overflows {unit : ℚ} (hd : 0 < denominator) (isUnit : unit = 2 ^ 970)
    (high : (numerator / denominator : ℚ) < 2 ^ 54 * unit) :
    roundHalfEven numerator (denominator * 2 ^ 971) = Nat.pow 2 53 ↔
      2 ^ 54 * unit - unit ≤ numerator / denominator := by
  have pos : (0 : ℚ) < denominator := by exact_mod_cast hd
  have divisor : ((denominator * 2 ^ 971 : Nat) : ℚ) = 2 * (unit * denominator) := by
    rw [Nat.cast_mul, Nat.cast_pow, Nat.cast_two, pow_succ, ← isUnit]
    ring
  have divisorPos : 0 < denominator * 2 ^ 971 := by positivity
  rw [div_lt_iff₀ pos, mul_assoc] at high
  rw [le_div_iff₀ pos, sub_mul, mul_assoc]
  generalize denominator * 2 ^ 971 = D at *
  generalize unit * denominator = u at *
  have below : numerator < Nat.pow 2 53 * D := by
    have : (numerator : ℚ) < 2 ^ 53 * D := by
      rw [divisor]
      linarith
    exact_mod_cast this
  rw [roundHalfEven_eq_even divisorPos rfl below]
  have cast : 2 * Nat.pow 2 53 * D ≤ 2 * numerator + D ↔ (2 * 2 ^ 53 * D : ℚ) ≤ 2 * numerator + D := by
    norm_cast
  rw [cast, divisor]
  constructor <;> intro h <;> linarith

/-- The quotients that are too great for a binary64 number. -/
theorem ofQuotient?_eq_none (hn : 0 < numerator) (hd : 0 < denominator) :
    ofQuotient? numerator denominator = none ↔ overflowBound ≤ numerator / denominator := by
  obtain ⟨low, high⟩ := binade_spec hn hd
  have double : (2 : ℚ) ^ (1024 : Int) = 2 ^ 54 * 2 ^ 970 := by
    rw [← pow_add]
    rfl
  have half : (2 : ℚ) ^ (1023 : Int) = 2 ^ 53 * 2 ^ 970 := by
    rw [← pow_add]
    rfl
  have bound : overflowBound = 2 ^ 54 * 2 ^ 970 - 2 ^ 970 := by rw [overflowBound, ← pow_add]
  have positive : (0 : ℚ) < 2 ^ 970 := by positivity
  rw [ofQuotient?_eq_none_iff, ofQuotient_exponent, bound]
  generalize isUnit : (2 : ℚ) ^ 970 = unit at *
  generalize binade numerator denominator = E at *
  rcases lt_trichotomy E 1023 with small | rfl | great
  · -- Even rounded up to the next power of two, the quotient stays in range.
    have least : max (E - 52) leastExponent + 1 ≤ greatestExponent := by
      rw [leastExponent, greatestExponent]
      omega
    have power : (2 : ℚ) ^ (E + 1) ≤ 2 ^ (1023 : Int) := zpow_le_zpow_right₀ one_le_two (by omega)
    rw [half] at power
    have fits : (numerator / denominator : ℚ) < 2 ^ 54 * unit - unit := by
      linarith only [high.trans_le power, positive]
    refine iff_of_false ?_ fits.not_ge
    split <;> omega
  · have exponent : max ((1023 : Int) - 52) leastExponent = (971 : Nat) := by decide
    have below : (numerator / denominator : ℚ) < 2 ^ 54 * unit := double ▸ high
    rw [exponent, powerUp_neg_natCast, powerUp_natCast, mul_one, ← mantissa_overflows hd isUnit.symm below]
    split
    · rename_i overflows
      exact iff_of_true (by decide) overflows
    · rename_i fits
      exact iff_of_false (by decide) fits
  · have least : greatestExponent < max (E - 52) leastExponent := by
      rw [leastExponent, greatestExponent]
      omega
    have power : (2 : ℚ) ^ (1024 : Int) ≤ 2 ^ E := zpow_le_zpow_right₀ one_le_two (by omega)
    rw [double] at power
    have reaches : 2 ^ 54 * unit - unit ≤ (numerator / denominator : ℚ) := by
      linarith only [power.trans low, positive]
    refine iff_of_true ?_ reaches
    split <;> omega

end Binary64

namespace Decimal

variable {d : Decimal}

theorem truncated?_eq_none_iff : d.truncated? = none ↔ d.magnitude? = none := by
  rw [truncated?, Option.map_eq_none_iff]

private theorem overflowBound_le_of_zeros {coefficient up : Nat} (pos : 0 < coefficient) (zeros : 400 < up) :
    overflowBound ≤ coefficient * (10 : ℚ) ^ up := by
  have scale : (2 : ℚ) ^ 1024 ≤ 10 ^ up := by
    calc (2 : ℚ) ^ 1024 ≤ 2 ^ (3 * up) := pow_le_pow_right₀ one_le_two (by omega)
      _ = 8 ^ up := by
          rw [pow_mul]
          norm_num
      _ ≤ 10 ^ up := pow_le_pow_left₀ (by norm_num) (by norm_num) up
  have least : (1 : ℚ) ≤ coefficient := by exact_mod_cast pos
  calc overflowBound ≤ 2 ^ 1024 := by
        rw [overflowBound]
        exact sub_le_self _ (by positivity)
    _ ≤ 10 ^ up := scale
    _ ≤ coefficient * 10 ^ up := le_mul_of_one_le_left (by positivity) least

theorem lt_of_places {coefficient places digits : Nat} (few : coefficient.log2 + 1 + digits ≤ 3 * places) :
    (coefficient / 10 ^ places : ℚ) < (2 ^ digits)⁻¹ := by
  have scaled : coefficient * 2 ^ digits < 10 ^ places := by
    calc coefficient * 2 ^ digits < 2 ^ (coefficient.log2 + 1) * 2 ^ digits :=
          Nat.mul_lt_mul_of_pos_right Nat.lt_log2_self (Nat.two_pow_pos _)
      _ = 2 ^ (coefficient.log2 + 1 + digits) := (Nat.pow_add ..).symm
      _ ≤ 2 ^ (3 * places) := Nat.pow_le_pow_right (by decide) few
      _ = 8 ^ places := by rw [Nat.pow_mul]
      _ ≤ 10 ^ places := Nat.pow_le_pow_left (by decide) places
  rw [← one_div, div_lt_div_iff₀ (by positivity) (by positivity), one_mul]
  exact_mod_cast scaled

/-- The numerals that are too great to be stored. -/
theorem truncated?_eq_none : d.truncated? = none ↔ overflowBound ≤ d.magnitude := by
  obtain ⟨negative, coefficient, exponent⟩ := d
  rw [truncated?_eq_none_iff, magnitude?, magnitude]
  dsimp only
  split
  · rename_i zero
    rw [zero, Nat.cast_zero, zero_mul]
    exact iff_of_false (by simp) (zero_lt_one.trans one_lt_overflowBound).not_ge
  · rename_i nonzero
    have pos : 0 < coefficient := Nat.pos_of_ne_zero nonzero
    cases exponent with
    | ofNat up =>
        rw [Int.ofNat_eq_natCast, zpow_natCast]
        dsimp only
        split
        · rename_i zeros
          exact iff_of_true rfl (overflowBound_le_of_zeros pos zeros)
        · have whole : 0 < coefficient * Nat.pow 10 up := Nat.mul_pos pos (Nat.pow_pos (by decide))
          rw [Binary64.ofQuotient?_eq_none whole one_pos, Nat.cast_one, div_one, Nat.cast_mul]
          norm_cast
    | negSucc down =>
        have scale : (coefficient : ℚ) * 10 ^ Int.negSucc down = coefficient / 10 ^ (down + 1) := by
          rw [zpow_negSucc, div_eq_mul_inv]
        rw [scale]
        dsimp only
        split
        · rename_i few
          have small : (coefficient / 10 ^ (down + 1) : ℚ) < (2 ^ 0)⁻¹ := lt_of_places (by omega)
          rw [pow_zero, inv_one] at small
          exact iff_of_false (by simp) (small.trans one_lt_overflowBound).not_ge
        · have unit : 0 < Nat.pow 10 (down + 1) := Nat.pow_pos (by decide)
          rw [Binary64.ofQuotient?_eq_none pos unit]
          norm_cast

end Decimal

end SqlAdvisor.Numeral
