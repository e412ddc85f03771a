import SqlAdvisor.Proofs.Numeral.Overflow

/-! # What is rounded to a number

A binary64 number stands for the quantities between the middles of the gaps to its neighbours. Below a power of two the
gap is half as wide. Every quantity that a number stands for is rounded to it, the number itself among them.
-/

namespace SqlAdvisor.Numeral

theorem roundHalfEven_eq {numerator denominator n : Nat} (pos : 0 < denominator)
    (low : (2 * n - 1 : ℚ) < 2 * (numerator / denominator) ∨
      n % 2 = 0 ∧ (2 * n - 1 : ℚ) = 2 * (numerator / denominator))
    (high : (2 * (numerator / denominator) : ℚ) < 2 * n + 1 ∨
      n % 2 = 0 ∧ (2 * (numerator / denominator) : ℚ) = 2 * n + 1) :
    roundHalfEven numerator denominator = n := by
  have posQ : (0 : ℚ) < denominator := by exact_mod_cast pos
  refine (roundHalfEven_eq_iff pos).mpr ⟨?low, ?high⟩
  case low =>
    refine low.imp (fun h => ?_) (And.imp_right fun h => ?_)
    · rw [mul_div_assoc', lt_div_iff₀ posQ, sub_mul, one_mul, sub_lt_iff_lt_add] at h
      exact_mod_cast h
    · rw [mul_div_assoc', eq_div_iff posQ.ne', sub_mul, one_mul, sub_eq_iff_eq_add] at h
      exact_mod_cast h
  case high =>
    refine high.imp (fun h => ?_) (And.imp_right fun h => ?_)
    · rw [mul_div_assoc', div_lt_iff₀ posQ] at h
      exact_mod_cast h
    · rw [mul_div_assoc', div_eq_iff posQ.ne'] at h
      exact_mod_cast h

namespace Binary64

/-- The number, as a quantity. -/
def value (x : Binary64) : ℚ := x.mantissa * (2 : ℚ) ^ x.exponent

/-- The number can be stored, and its mantissa has as many binary digits as it may have. -/
structure IsCanonical (x : Binary64) : Prop where
  mantissa : x.mantissa < 2 ^ 53
  least : leastExponent ≤ x.exponent
  greatest : x.exponent ≤ greatestExponent
  full : 2 ^ 52 ≤ x.mantissa ∨ x.exponent = leastExponent

/-- Below the number, the gap is half as wide as above. -/
def IsNarrow (x : Binary64) : Prop := x.mantissa = 2 ^ 52 ∧ leastExponent < x.exponent

instance (x : Binary64) : Decidable x.IsNarrow := inferInstanceAs (Decidable (_ ∧ _))

/-- The least quantity that the number stands for, in quarters of the last binary digit. -/
def lowQuarters (x : Binary64) : Nat := 4 * x.mantissa - if x.IsNarrow then 1 else 2

/-- The greatest quantity that the number stands for, in quarters of the last binary digit. -/
def highQuarters (x : Binary64) : Nat := 4 * x.mantissa + 2

/-- The number stands for the quantity. The bounds belong to it if the mantissa is even. -/
structure Covers (x : Binary64) (q : ℚ) : Prop where
  low : x.lowQuarters * (2 : ℚ) ^ x.exponent < 4 * q ∨
    x.mantissa % 2 = 0 ∧ x.lowQuarters * (2 : ℚ) ^ x.exponent = 4 * q
  high : 4 * q < x.highQuarters * (2 : ℚ) ^ x.exponent ∨
    x.mantissa % 2 = 0 ∧ 4 * q = x.highQuarters * (2 : ℚ) ^ x.exponent

variable {x : Binary64} {p q r : ℚ}

theorem two_zpow_add (exponent : Int) (digits : Nat) : (2 : ℚ) ^ (exponent + digits) = 2 ^ digits * 2 ^ exponent := by
  rw [zpow_add₀ two_ne_zero, mul_comm, zpow_natCast]

theorem unit_pos (x : Binary64) : (0 : ℚ) < 2 ^ x.exponent := zpow_pos two_pos _

theorem lowQuarters_cast (positive : 0 < x.mantissa) :
    (x.lowQuarters : ℚ) = 4 * x.mantissa - if x.IsNarrow then 1 else 2 := by
  rw [lowQuarters, Nat.cast_sub (by split <;> omega)]
  split <;> norm_num

theorem Covers.low_le (covers : x.Covers q) : x.lowQuarters * (2 : ℚ) ^ x.exponent ≤ 4 * q :=
  covers.low.elim le_of_lt fun bound => bound.2.le

theorem Covers.le_high (covers : x.Covers q) : 4 * q ≤ x.highQuarters * (2 : ℚ) ^ x.exponent :=
  covers.high.elim le_of_lt fun bound => bound.2.le

theorem Covers.of_between (first : x.Covers p) (last : x.Covers r) (low : p ≤ q) (high : q ≤ r) : x.Covers q := by
  constructor
  · rcases first.low with bound | ⟨even, bound⟩
    · exact .inl (by linarith only [bound, low])
    · rcases low.lt_or_eq with less | rfl
      · exact .inl (by linarith only [bound, less])
      · exact .inr ⟨even, bound⟩
  · rcases last.high with bound | ⟨even, bound⟩
    · exact .inl (by linarith only [bound, high])
    · rcases high.lt_or_eq with less | rfl
      · exact .inl (by linarith only [bound, less])
      · exact .inr ⟨even, bound⟩

theorem covers_value (positive : 0 < x.mantissa) : x.Covers x.value := by
  have unit := x.unit_pos
  constructor
  · left
    rw [lowQuarters_cast positive, value, ← mul_assoc]
    refine mul_lt_mul_of_pos_right ?_ unit
    split <;> linarith
  · left
    rw [highQuarters, value, ← mul_assoc]
    refine mul_lt_mul_of_pos_right ?_ unit
    push_cast
    linarith

theorem Covers.value_le (covers : x.Covers q) (positive : 0 < x.mantissa) : x.value ≤ 2 * q := by
  have least : 2 * x.mantissa ≤ x.lowQuarters := by
    rw [lowQuarters]
    split <;> omega
  have least : (2 * x.mantissa : ℚ) ≤ x.lowQuarters := by exact_mod_cast least
  have := mul_le_mul_of_nonneg_right least x.unit_pos.le
  rw [value]
  linarith only [covers.low_le, this]

theorem unit_le_value (positive : 0 < x.mantissa) : 2 ^ x.exponent ≤ x.value :=
  le_mul_of_one_le_left x.unit_pos.le (by exact_mod_cast positive)

theorem Covers.lt_of_canonical (covers : x.Covers q) (canonical : x.IsCanonical) (positive : 0 < x.mantissa) :
    ((2 : ℚ) ^ 1076)⁻¹ < q := by
  have fourth : (2 : ℚ) ^ leastExponent = 2 ^ 2 * (2 ^ 1076)⁻¹ := by
    rw [← zpow_natCast (2 : ℚ) 1076, ← zpow_neg]
    exact two_zpow_add (-1076) 2
  have least : (2 : ℚ) ^ leastExponent ≤ 2 * q :=
    calc (2 : ℚ) ^ leastExponent ≤ 2 ^ x.exponent := zpow_le_zpow_right₀ one_le_two canonical.least
      _ ≤ x.value := unit_le_value positive
      _ ≤ 2 * q := covers.value_le positive
  have quarter : (0 : ℚ) < (2 ^ 1076)⁻¹ := by positivity
  rw [fourth] at least
  generalize ((2 : ℚ) ^ 1076)⁻¹ = smallest at *
  linarith only [least, quarter]

theorem Covers.lt_overflowBound (covers : x.Covers q) (canonical : x.IsCanonical) : q < overflowBound := by
  have most : x.mantissa ≤ 2 ^ 53 - 1 := Nat.le_sub_one_of_lt canonical.mantissa
  have greatest : (2 : ℚ) ^ x.exponent ≤ 2 * 2 ^ 970 := by
    have power : (2 : ℚ) ^ greatestExponent = 2 * 2 ^ 970 := by
      rw [← pow_succ']
      rfl
    exact power ▸ zpow_le_zpow_right₀ one_le_two canonical.greatest
  have bound : overflowBound = 2 ^ 54 * 2 ^ 970 - 2 ^ 970 := by rw [overflowBound, ← pow_add]
  have high : 4 * q < (4 * 2 ^ 53 - 2 : ℚ) * 2 ^ x.exponent := by
    have unit := x.unit_pos
    -- The greatest mantissa is odd, so that the quantity does not reach its bound.
    rcases covers.high with below | ⟨even, reaches⟩
    · refine below.trans_le (mul_le_mul_of_nonneg_right ?_ unit.le)
      have : x.highQuarters + 2 ≤ 4 * 2 ^ 53 := by
        rw [highQuarters]
        omega
      rw [le_sub_iff_add_le]
      exact_mod_cast this
    · rw [reaches]
      refine mul_lt_mul_of_pos_right ?_ unit
      have : x.highQuarters + 2 < 4 * 2 ^ 53 := by
        rw [highQuarters]
        omega
      rw [lt_sub_iff_add_lt]
      exact_mod_cast this
  rw [bound]
  generalize (2 : ℚ) ^ x.exponent = u at *
  generalize (2 : ℚ) ^ 970 = w at *
  linarith only [high, greatest]

theorem value_eq_div (x : Binary64) : x.value = x.numerator / x.denominator := by
  rw [value, numerator, denominator, Nat.cast_mul, mul_div_assoc, powerUp_div]

theorem whole_of_value {n : Nat} (isValue : x.value = n) : x.whole = n := by
  have pos : 0 < x.denominator := Nat.two_pow_pos _
  have posQ : (x.denominator : ℚ) ≠ 0 := by exact_mod_cast pos.ne'
  rw [value_eq_div, div_eq_iff posQ] at isValue
  have isValue : x.numerator = n * x.denominator := by exact_mod_cast isValue
  rw [whole, isValue, Nat.mul_div_cancel _ pos]

theorem value_zero : zero.value = 0 := by rw [value, zero, Nat.cast_zero, zero_mul]

theorem mantissa_pos_iff : 0 < x.mantissa ↔ 0 < x.value := by
  rw [value, mul_pos_iff_of_pos_right x.unit_pos, Nat.cast_pos]

/-! ## Rounding -/

theorem div_scaled (numerator denominator : Nat) (exponent : Int) :
    ((numerator * powerUp 2 (-exponent) : Nat) / (denominator * powerUp 2 exponent : Nat) : ℚ) =
      numerator / denominator / 2 ^ exponent := by
  rw [Nat.cast_mul, Nat.cast_mul, mul_div_mul_comm, ← powerUp_div, div_div_eq_mul_div, mul_div_assoc]

theorem powerUp_pos (exponent : Int) : 0 < powerUp 2 exponent := Nat.two_pow_pos _

variable {numerator denominator : Nat}

theorem roundHalfEven_scaled {exponent : Int} {n : Nat} (hd : 0 < denominator)
    (low : (2 * n - 1) * 2 ^ exponent < 2 * (numerator / denominator : ℚ) ∨
      n % 2 = 0 ∧ (2 * n - 1) * 2 ^ exponent = 2 * (numerator / denominator : ℚ))
    (high : 2 * (numerator / denominator : ℚ) < (2 * n + 1) * 2 ^ exponent ∨
      n % 2 = 0 ∧ 2 * (numerator / denominator : ℚ) = (2 * n + 1) * 2 ^ exponent) :
    roundHalfEven (numerator * powerUp 2 (-exponent)) (denominator * powerUp 2 exponent) = n := by
  have unit : (0 : ℚ) < 2 ^ exponent := zpow_pos two_pos _
  apply roundHalfEven_eq (Nat.mul_pos hd (powerUp_pos exponent))
  · rw [div_scaled, mul_div_assoc', lt_div_iff₀ unit, eq_div_iff unit.ne']
    exact low
  · rw [div_scaled, mul_div_assoc', div_lt_iff₀ unit, div_eq_iff unit.ne']
    exact high

theorem ofQuotient_eq_ite {exponent : Int} {mantissa : Nat}
    (isExponent : max (binade numerator denominator - 52) leastExponent = exponent)
    (isMantissa : roundHalfEven (numerator * powerUp 2 (-exponent)) (denominator * powerUp 2 exponent) = mantissa) :
    ofQuotient numerator denominator =
      if mantissa = Nat.pow 2 53 then ⟨Nat.pow 2 52, exponent + 1⟩ else ⟨mantissa, exponent⟩ := by
  subst isExponent isMantissa
  rfl

theorem binade_eq {exponent : Int} (hn : 0 < numerator) (hd : 0 < denominator)
    (low : (2 : ℚ) ^ exponent ≤ numerator / denominator) (high : (numerator / denominator : ℚ) < 2 ^ (exponent + 1)) :
    binade numerator denominator = exponent := by
  obtain ⟨least, most⟩ := binade_spec hn hd
  have := (zpow_lt_zpow_iff_right₀ one_lt_two).mp (least.trans_lt high)
  have := (zpow_lt_zpow_iff_right₀ one_lt_two).mp (low.trans_lt most)
  omega

/-- What a number stands for is in the half unit around it. -/
theorem Covers.half_unit (covers : x.Covers q) (positive : 0 < x.mantissa) :
    ((2 * x.mantissa - 1) * 2 ^ x.exponent < 2 * q ∨
        x.mantissa % 2 = 0 ∧ (2 * x.mantissa - 1) * 2 ^ x.exponent = 2 * q) ∧
      (2 * q < (2 * x.mantissa + 1) * 2 ^ x.exponent ∨
        x.mantissa % 2 = 0 ∧ 2 * q = (2 * x.mantissa + 1) * 2 ^ x.exponent) := by
  have unit := x.unit_pos
  obtain ⟨low, high⟩ := covers
  rw [lowQuarters_cast positive] at low
  rw [highQuarters, Nat.cast_add, Nat.cast_mul] at high
  push_cast at high
  constructor
  · split at low
    · left
      rcases low with bound | ⟨-, bound⟩ <;> linarith only [bound, unit]
    · refine low.imp (fun bound => ?_) (And.imp_right fun bound => ?_) <;> linarith only [bound]
  · refine high.imp (fun bound => ?_) (And.imp_right fun bound => ?_) <;> linarith only [bound]

theorem Covers.lt_next (covers : x.Covers q) (canonical : x.IsCanonical) : q < 2 ^ (x.exponent + 53) := by
  have most : x.highQuarters < 4 * 2 ^ 53 := by
    have := canonical.mantissa
    rw [highQuarters]
    omega
  have most : (x.highQuarters : ℚ) < 4 * 2 ^ 53 := by exact_mod_cast most
  have power : (2 : ℚ) ^ (x.exponent + 53) = 2 ^ 53 * 2 ^ x.exponent := two_zpow_add x.exponent 53
  have := mul_lt_mul_of_pos_right most x.unit_pos
  rw [power]
  linarith only [this, covers.le_high]

theorem ofQuotient_of_full (hn : 0 < numerator) (hd : 0 < denominator) (canonical : x.IsCanonical)
    (positive : 0 < x.mantissa) (covers : x.Covers (numerator / denominator))
    (full : x.exponent = leastExponent ∨ (2 : ℚ) ^ (x.exponent + 52) ≤ numerator / denominator) :
    ofQuotient numerator denominator = x := by
  obtain ⟨least, most⟩ := binade_spec hn hd
  have exponent : max (binade numerator denominator - 52) leastExponent = x.exponent := by
    have := (zpow_lt_zpow_iff_right₀ one_lt_two).mp (least.trans_lt (covers.lt_next canonical))
    rcases full with isLeast | full
    · omega
    · have := (zpow_lt_zpow_iff_right₀ one_lt_two).mp (full.trans_lt most)
      have := canonical.least
      omega
  obtain ⟨low, high⟩ := covers.half_unit positive
  have mantissa := roundHalfEven_scaled hd low high
  have fits : x.mantissa ≠ Nat.pow 2 53 := canonical.mantissa.ne
  rw [ofQuotient_eq_ite exponent mantissa, if_neg fits]

/-- A quotient just below a power of two is rounded up to it. -/
theorem ofQuotient_of_narrow (hn : 0 < numerator) (hd : 0 < denominator) (narrow : x.IsNarrow)
    (covers : x.Covers (numerator / denominator)) (below : (numerator / denominator : ℚ) < 2 ^ (x.exponent + 52)) :
    ofQuotient numerator denominator = x := by
  obtain ⟨isPower, above⟩ := narrow
  have positive : 0 < x.mantissa := isPower ▸ Nat.two_pow_pos 52
  have unit := x.unit_pos
  have low := covers.low_le
  rw [lowQuarters_cast positive, if_pos ⟨isPower, above⟩, isPower] at low
  have half : (2 : ℚ) ^ x.exponent = 2 * 2 ^ (x.exponent - 1) := by
    rw [← zpow_one_add₀ two_ne_zero]
    congr 1
    omega
  have power : (2 : ℚ) ^ (x.exponent + 52) = 2 ^ 52 * 2 ^ x.exponent := two_zpow_add x.exponent 52
  have lower : (2 : ℚ) ^ (x.exponent + 51) = 2 ^ 51 * 2 ^ x.exponent := two_zpow_add x.exponent 51
  have binade : binade numerator denominator = x.exponent + 51 := by
    refine binade_eq hn hd ?_ (by rwa [add_assoc])
    rw [lower]
    norm_num at low ⊢
    linarith only [low, unit]
  have exponent : max (Binary64.binade numerator denominator - 52) leastExponent = x.exponent - 1 := by omega
  have mantissa : roundHalfEven (numerator * powerUp 2 (-(x.exponent - 1)))
      (denominator * powerUp 2 (x.exponent - 1)) = Nat.pow 2 53 := by
    rw [power] at below
    rw [half] at below low unit
    refine roundHalfEven_scaled hd ?_ (.inl ?_)
    · have reaches : (2 * (Nat.pow 2 53 : Nat) - 1) * 2 ^ (x.exponent - 1) ≤ 2 * (numerator / denominator : ℚ) := by
        norm_num at low ⊢
        linarith only [low]
      exact reaches.lt_or_eq.imp_right fun reached => ⟨rfl, reached⟩
    · norm_num at below ⊢
      linarith only [below, unit]
  rw [ofQuotient_eq_ite exponent mantissa, if_pos rfl, sub_add_cancel]
  exact congrArg (Binary64.mk · x.exponent) isPower.symm

/-- A number stands for what is below its power of two only if it is that power: a greater mantissa would keep the
    quantities above. -/
theorem Covers.mantissa_eq (covers : x.Covers q) (full : 2 ^ 52 ≤ x.mantissa) (below : q < 2 ^ (x.exponent + 52)) :
    x.mantissa = 2 ^ 52 := by
  by_contra other
  have positive : 0 < x.mantissa := (Nat.two_pow_pos 52).trans_le full
  have more : (2 ^ 52 + 1 : ℚ) ≤ x.mantissa := by exact_mod_cast lt_of_le_of_ne full (Ne.symm other)
  have power : (2 : ℚ) ^ (x.exponent + 52) = 2 ^ 52 * 2 ^ x.exponent := two_zpow_add x.exponent 52
  have low : (2 * x.mantissa - 1) * 2 ^ x.exponent ≤ 2 * q :=
    (covers.half_unit positive).1.elim le_of_lt fun bound => bound.2.le
  have unit := x.unit_pos
  have product := mul_le_mul_of_nonneg_right more unit.le
  rw [power] at below
  linarith only [low, product, below, unit]

/-- Rounding leads to the number that stands for the quotient. -/
theorem ofQuotient_eq_of_covers (hn : 0 < numerator) (hd : 0 < denominator) (canonical : x.IsCanonical)
    (positive : 0 < x.mantissa) (covers : x.Covers (numerator / denominator)) : ofQuotient numerator denominator = x := by
  by_cases full : x.exponent = leastExponent ∨ (2 : ℚ) ^ (x.exponent + 52) ≤ numerator / denominator
  · exact ofQuotient_of_full hn hd canonical positive covers full
  · push Not at full
    obtain ⟨notLeast, below⟩ := full
    have isPower : x.mantissa = 2 ^ 52 := covers.mantissa_eq (canonical.full.resolve_right notLeast) below
    exact ofQuotient_of_narrow hn hd ⟨isPower, lt_of_le_of_ne canonical.least (Ne.symm notLeast)⟩ covers below

/-- A quantity is rounded to one number only. -/
theorem Covers.unique {y : Binary64} (covers : x.Covers q) (other : y.Covers q) (canonical : x.IsCanonical)
    (canonicalOther : y.IsCanonical) (positive : 0 < x.mantissa) (positiveOther : 0 < y.mantissa) : x = y := by
  have pos : 0 < q := by linarith only [x.unit_pos, unit_le_value positive, covers.value_le positive]
  have quotient : q = (q.num.toNat : ℚ) / q.den := by
    have num : ((q.num.toNat : Int) : ℚ) = q.num := congrArg _ (Int.toNat_of_nonneg (Rat.num_nonneg.mpr pos.le))
    rw [← Int.cast_natCast q.num.toNat, num, Rat.num_div_den]
  have num : 0 < q.num.toNat := by
    have := Rat.num_pos.mpr pos
    omega
  rw [quotient] at covers other
  rw [← ofQuotient_eq_of_covers num q.den_pos canonical positive covers,
    ofQuotient_eq_of_covers num q.den_pos canonicalOther positiveOther other]

theorem Covers.lt_of_value_lt {y : Binary64} (covers : x.Covers q) (canonical : x.IsCanonical)
    (canonicalOther : y.IsCanonical) (positive : 0 < x.mantissa) (less : x.value < y.value) : q < y.value := by
  by_contra reaches
  have positiveOther : 0 < y.mantissa := mantissa_pos_iff.mpr ((mantissa_pos_iff.mp positive).trans less)
  have between := (covers_value positive).of_between covers less.le (not_lt.mp reaches)
  have same := between.unique (covers_value positiveOther) canonical canonicalOther positive positiveOther
  exact less.ne (congrArg value same)

theorem ofQuotient?_eq_of_covers (hn : 0 < numerator) (hd : 0 < denominator) (canonical : x.IsCanonical)
    (positive : 0 < x.mantissa) (covers : x.Covers (numerator / denominator)) :
    ofQuotient? numerator denominator = some x := by
  rw [ofQuotient?, ofQuotient_eq_of_covers hn hd canonical positive covers]
  exact if_pos canonical.greatest

end Binary64

namespace Decimal

open Binary64

variable {d : Decimal} {x : Binary64}

theorem magnitude_pos_iff : 0 < d.magnitude ↔ 0 < d.coefficient := by
  rw [magnitude, mul_pos_iff_of_pos_right (zpow_pos (by norm_num) _), Nat.cast_pos]

theorem magnitude?_eq_of_covers (canonical : x.IsCanonical) (positive : 0 < x.mantissa)
    (covers : x.Covers d.magnitude) : d.magnitude? = some x := by
  have stored : d.magnitude? ≠ none := by
    rw [Ne, ← truncated?_eq_none_iff, truncated?_eq_none, not_le]
    exact covers.lt_overflowBound canonical
  have large := covers.lt_of_canonical canonical positive
  have nonzero := magnitude_pos_iff.mp ((inv_pos.mpr (by positivity)).trans large)
  obtain ⟨negative, coefficient, exponent⟩ := d
  rw [magnitude?] at stored ⊢
  rw [magnitude] at covers large
  dsimp only at *
  rw [if_neg (nonzero.ne')] at stored ⊢
  cases exponent with
  | ofNat up =>
      dsimp only at stored ⊢
      split at stored
      · exact absurd rfl stored
      · rename_i few
        rw [if_neg few]
        refine ofQuotient?_eq_of_covers (Nat.mul_pos nonzero (Nat.pow_pos (by decide))) one_pos canonical positive ?_
        rw [Int.ofNat_eq_natCast, zpow_natCast] at covers
        rw [Nat.cast_one, div_one]
        exact_mod_cast covers
  | negSucc down =>
      rw [zpow_negSucc, ← div_eq_mul_inv] at covers large
      have many : ¬coefficient.log2 + 1077 ≤ 3 * (down + 1) := fun few => large.not_gt (lt_of_places few)
      dsimp only
      rw [if_neg many]
      refine ofQuotient?_eq_of_covers nonzero (Nat.pow_pos (by decide)) canonical positive ?_
      exact_mod_cast covers

theorem magnitude?_of_zero (zero : d.coefficient = 0) : d.magnitude? = some .zero := by
  rw [magnitude?]
  exact if_pos zero

/-- The quantity that the numeral writes. -/
def value (d : Decimal) : ℚ := if d.negative then -d.magnitude else d.magnitude

/-- An integer that can be stored keeps its value, however it is written. -/
theorem truncated?_of_value {n : Nat} (canonical : x.IsCanonical) (exact : x.value = n) (written : d.value = n) :
    d.truncated? = some (n : Int) := by
  rcases Nat.eq_zero_or_pos d.coefficient with zero | pos
  · have magnitude : d.magnitude = 0 := by rw [Decimal.magnitude, zero, Nat.cast_zero, zero_mul]
    have isZero : (n : ℚ) = 0 := by
      rw [← written, value, magnitude, neg_zero, ite_self]
    have whole : Binary64.zero.whole = 0 := whole_of_value (value_zero.trans Nat.cast_zero.symm)
    rw [truncated?, magnitude?_of_zero zero, Option.map_some, whole, Nat.cast_eq_zero.mp isZero]
    cases d.negative <;> rfl
  · have magnitude := magnitude_pos_iff.mpr pos
    have positive : d.negative = false := by
      by_contra negative
      rw [value, if_pos (by simpa using negative)] at written
      have := Nat.cast_nonneg (α := ℚ) n
      linarith only [written, magnitude, this]
    rw [value, positive, if_neg Bool.false_ne_true] at written
    have covers : x.Covers d.magnitude :=
      (written.trans exact.symm) ▸ covers_value (mantissa_pos_iff.mpr (exact ▸ written ▸ magnitude))
    rw [truncated?, magnitude?_eq_of_covers canonical (mantissa_pos_iff.mpr (exact ▸ written ▸ magnitude)) covers,
      Option.map_some, whole_of_value exact, positive]
    rfl

end Decimal

end SqlAdvisor.Numeral
