import SqlAdvisor.Proofs.Numeral.Notation

/-! # Shortest texts

The shortest text of a binary64 number writes a quantity that the number stands for. So it is read back as the number,
even where it writes another quantity than the number itself.
-/

namespace SqlAdvisor.Numeral

theorem compare_scaled {a b : Nat} {p q c : ℚ} (pos : 0 < c) (left : (a : ℚ) = p * c) (right : (b : ℚ) = q * c) :
    compare a b = compare p q := by
  rcases lt_trichotomy p q with less | rfl | greater
  · have scaled : (a : ℚ) < b := by
      rw [left, right]
      exact mul_lt_mul_of_pos_right less pos
    rw [compare_lt_iff_lt.mpr less, compare_lt_iff_lt.mpr (by exact_mod_cast scaled)]
  · have scaled : (a : ℚ) = b := left.trans right.symm
    rw [compare_eq_iff_eq.mpr rfl, compare_eq_iff_eq.mpr (by exact_mod_cast scaled)]
  · have scaled : (b : ℚ) < a := by
      rw [left, right]
      exact mul_lt_mul_of_pos_right greater pos
    rw [compare_gt_iff_gt.mpr greater, compare_gt_iff_gt.mpr (by exact_mod_cast scaled)]

theorem powerUp_eq {base : Nat} (pos : 0 < base) (exponent : Int) :
    (powerUp base exponent : ℚ) = (base : ℚ) ^ exponent * powerUp base (-exponent) := by
  have unit : (powerUp base (-exponent) : ℚ) ≠ 0 := by exact_mod_cast (Nat.pow_pos pos).ne'
  rw [← div_eq_iff unit, powerUp_div_powerUp]

namespace Binary64

variable {x : Binary64} {digits : Nat} {scale : Int}

/-! ## Quantities that a number stands for -/

theorem compareQuarters_eq (x : Binary64) (digits : Nat) (scale : Int) (quarters : Nat) :
    x.compareQuarters digits scale quarters =
      compare (4 * (digits * (10 : ℚ) ^ scale)) (quarters * 2 ^ x.exponent) := by
  have ten : (powerUp 10 scale : ℚ) = 10 ^ scale * powerUp 10 (-scale) := powerUp_eq (by decide) scale
  have two : (powerUp 2 x.exponent : ℚ) = 2 ^ x.exponent * powerUp 2 (-x.exponent) := powerUp_eq (by decide) x.exponent
  have unit : (0 : ℚ) < powerUp 10 (-scale) * powerUp 2 (-x.exponent) := by
    exact_mod_cast Nat.mul_pos (Nat.pow_pos (by decide)) (powerUp_pos _)
  refine compare_scaled unit ?_ ?_
  · rw [denominator]
    push_cast
    rw [ten]
    ring
  · push_cast
    rw [two]
    ring

theorem standsFor_iff : x.standsFor digits scale = true ↔ x.Covers (digits * (10 : ℚ) ^ scale) := by
  have narrow : (decide (x.mantissa = Nat.pow 2 52) && decide (leastExponent < x.exponent)) = true ↔ x.IsNarrow := by
    rw [Bool.and_eq_true, decide_eq_true_eq, decide_eq_true_eq]
    rfl
  have low : (4 * x.mantissa - if (decide (x.mantissa = Nat.pow 2 52) && decide (leastExponent < x.exponent)) = true
      then 1 else 2) = x.lowQuarters := by
    rw [lowQuarters, if_congr narrow rfl rfl]
  rw [standsFor, low, ← highQuarters, compareQuarters_eq, compareQuarters_eq]
  simp only [Bool.and_eq_true, Bool.or_eq_true, decide_eq_true_eq, compare_gt_iff_gt, compare_lt_iff_lt,
    compare_eq_iff_eq]
  constructor
  · rintro ⟨low, high⟩
    exact ⟨low.imp_right (And.imp_right Eq.symm), high⟩
  · rintro ⟨low, high⟩
    exact ⟨low.imp_right (And.imp_right Eq.symm), high⟩

end Binary64

/-! ## Scaled integers as runs of digits -/

namespace DecimalDigits

/-- The run of digits of an integer in units of a power of ten, without the zeros at its end. -/
def ofScaled (found : Nat) (scale : Int) : DecimalDigits :=
  let digits := Nat.toDigits 10 found
  ⟨(digits.reverse.dropWhile (· = '0')).reverse, digits.length + scale⟩

variable {found : Nat} {scale : Int}

theorem toDigits_eq (found : Nat) (scale : Int) :
    ∃ zeros, Nat.toDigits 10 found = (ofScaled found scale).digits ++ List.replicate zeros '0' := by
  let written := Nat.toDigits 10 found
  let dropped := (written.reverse.takeWhile (· = '0')).reverse
  have zeros : dropped = List.replicate dropped.length '0' := by
    refine List.eq_replicate_of_mem fun c mem => ?_
    simpa using List.mem_takeWhile_imp (List.mem_reverse.mp mem)
  refine ⟨dropped.length, ?_⟩
  rw [← zeros, ofScaled]
  dsimp only
  rw [← List.reverse_append, List.takeWhile_append_dropWhile, List.reverse_reverse]

theorem isDigit_ofScaled : ∀ c ∈ (ofScaled found scale).digits, c.isDigit = true := by
  intro c mem
  obtain ⟨zeros, written⟩ := toDigits_eq found scale
  exact isDigit_toDigits c (written ▸ List.mem_append_left _ mem)

theorem ofScaled_ne_nil (pos : 0 < found) : (ofScaled found scale).digits ≠ [] := by
  intro none
  obtain ⟨zeros, written⟩ := toDigits_eq found scale
  have value := digitsValue_toDigits found
  rw [written, none, List.nil_append, digitsValue_zeros] at value
  omega

theorem value_ofScaled (found : Nat) (scale : Int) : (ofScaled found scale).value = found * (10 : ℚ) ^ scale := by
  obtain ⟨zeros, written⟩ := toDigits_eq found scale
  have value : found = digitsValue (ofScaled found scale).digits * 10 ^ zeros := by
    have := digitsValue_toDigits found
    rw [written, digitsValue_append, digitsValue_zeros, List.length_replicate] at this
    exact this.symm
  have length := congrArg List.length written
  rw [List.length_append, List.length_replicate] at length
  have point : (ofScaled found scale).point - (ofScaled found scale).digits.length = zeros + scale := by
    have : (ofScaled found scale).point = (Nat.toDigits 10 found).length + scale := rfl
    omega
  rw [DecimalDigits.value, point, zpow_add₀ (by norm_num), zpow_natCast, ← mul_assoc]
  congr 1
  exact_mod_cast value.symm

theorem point_ofScaled_le (pos : 0 < found) (digits : Int) :
    (ofScaled found scale).point ≤ digits ↔ (found : ℚ) * 10 ^ scale < 10 ^ digits := by
  have count (length : Nat) (given : 0 < length) : (Nat.toDigits 10 found).length ≤ length ↔ found < 10 ^ length :=
    Nat.length_toDigits_le_iff (by decide) given
  have isPoint : (ofScaled found scale).point = (Nat.toDigits 10 found).length + scale := rfl
  have given : 0 < (Nat.toDigits 10 found).length := List.length_pos_iff.mpr Nat.toDigits_ne_nil
  rw [isPoint]
  generalize (Nat.toDigits 10 found).length = length at *
  have ten : (1 : ℚ) < 10 := by norm_num
  have unit : (0 : ℚ) < 10 ^ scale := zpow_pos (by norm_num) _
  constructor
  · intro few
    have less : (found : ℚ) < 10 ^ (length : Int) := by exact_mod_cast (count length given).mp le_rfl
    calc (found : ℚ) * 10 ^ scale < 10 ^ (length : Int) * 10 ^ scale := mul_lt_mul_of_pos_right less unit
      _ = 10 ^ (length + scale) := (zpow_add₀ (by norm_num) _ _).symm
      _ ≤ 10 ^ digits := zpow_le_zpow_right₀ ten.le few
  · intro less
    by_contra many
    have least : 10 ^ (length - 1) ≤ found := by
      rcases Nat.eq_or_lt_of_le given with one | several
      · rw [← one]
        exact pos
      · by_contra below
        have := (count (length - 1) (by omega)).mpr (by omega)
        omega
    have least : (10 : ℚ) ^ ((length - 1 : Nat) : Int) ≤ found := by exact_mod_cast least
    refine less.not_ge ?_
    calc (10 : ℚ) ^ digits ≤ 10 ^ (((length - 1 : Nat) : Int) + scale) := zpow_le_zpow_right₀ ten.le (by omega)
      _ = 10 ^ ((length - 1 : Nat) : Int) * 10 ^ scale := zpow_add₀ (by norm_num) _ _
      _ ≤ found * 10 ^ scale := mul_le_mul_of_nonneg_right least unit.le

end DecimalDigits

/-! ## The shortest digits -/

namespace Binary64

variable {x : Binary64}

theorem value_eq_scaled (x : Binary64) :
    ((x.numerator * powerUp 5 (-x.exponent) : Nat) : ℚ) * 10 ^ (min x.exponent 0) = x.value := by
  rw [numerator, value, Nat.cast_mul, Nat.cast_mul, mul_assoc, mul_assoc]
  congr 1
  cases x.exponent with
  | ofNat n => simp [powerUp]
  | negSucc n =>
      have two : powerUp 2 (Int.negSucc n) = 1 := rfl
      have five : powerUp 5 (-Int.negSucc n) = 5 ^ (n + 1) := rfl
      have least : min (Int.negSucc n) 0 = Int.negSucc n := rfl
      have ten : (10 : ℚ) ^ (n + 1) = 5 ^ (n + 1) * 2 ^ (n + 1) := by
        rw [← mul_pow]
        norm_num
      rw [two, five, least, zpow_negSucc, zpow_negSucc, ten]
      push_cast
      field_simp

/-- The quantity of which the shortest digits are. -/
def shortestQuantity (x : Binary64) : Nat × Int :=
  ((List.range 17).findSome? fun fewer => x.withDigits? (fewer + 1)).getD
    (x.numerator * powerUp 5 (-x.exponent), min x.exponent 0)

theorem shortest_eq (x : Binary64) : x.shortest = .ofScaled x.shortestQuantity.1 x.shortestQuantity.2 := rfl

/-- The shortest digits are those of a quantity that the number stands for. -/
theorem covers_shortestQuantity (positive : 0 < x.mantissa) :
    x.Covers (x.shortestQuantity.1 * (10 : ℚ) ^ x.shortestQuantity.2) := by
  rw [shortestQuantity]
  cases found : (List.range 17).findSome? fun fewer => x.withDigits? (fewer + 1) with
  | none =>
      rw [Option.getD_none, value_eq_scaled]
      exact covers_value positive
  | some quantity =>
      obtain ⟨fewer, -, suffice⟩ := List.exists_of_findSome?_eq_some found
      rw [withDigits?, Option.map_eq_some_iff] at suffice
      obtain ⟨n, neighbour, rfl⟩ := suffice
      have stands := List.find?_some neighbour
      exact standsFor_iff.mp stands

theorem shortestQuantity_pos (positive : 0 < x.mantissa) : 0 < x.shortestQuantity.1 := by
  have least := (covers_shortestQuantity positive).value_le positive
  rw [Nat.pos_iff_ne_zero]
  intro zero
  rw [zero, Nat.cast_zero, zero_mul, mul_zero] at least
  exact absurd (mantissa_pos_iff.mp positive) least.not_gt

/-- The text of a number is read back as the number. -/
theorem magnitude?_of_text (canonical : x.IsCanonical) (positive : 0 < x.mantissa) :
    ∃ read, decimal? x.shortest.text.toList = some read ∧ read.negative = false ∧ read.magnitude? = some x := by
  have pos := shortestQuantity_pos positive
  obtain ⟨read, reads, unsigned, magnitude⟩ :=
    @DecimalDigits.decimal?_text x.shortest (DecimalDigits.ofScaled_ne_nil pos) DecimalDigits.isDigit_ofScaled
  have covers := covers_shortestQuantity positive
  rw [shortest_eq, DecimalDigits.value_ofScaled] at magnitude
  exact ⟨read, reads, unsigned, Decimal.magnitude?_eq_of_covers canonical positive (magnitude ▸ covers)⟩

/-- Between one and `10 ^ 16` a number is written without an exponent. -/
theorem not_isScaled_shortest (canonical : x.IsCanonical) (least : 1 ≤ x.value) (small : x.value < 10 ^ 16) :
    ¬x.shortest.IsScaled := by
  have positive : 0 < x.mantissa := mantissa_pos_iff.mpr (zero_lt_one.trans_le least)
  have pos := shortestQuantity_pos positive
  have covers := covers_shortestQuantity positive
  -- The bound is a number itself, so that what is rounded to less does not reach it.
  let bound : Binary64 := ⟨5 * 10 ^ 15, 1⟩
  have isBound : bound.value = 10 ^ 16 := by norm_num [value, bound]
  have canonicalBound : bound.IsCanonical := ⟨by decide, by decide, by decide, .inl (by decide)⟩
  have below := covers.lt_of_value_lt canonical canonicalBound positive (isBound ▸ small)
  rw [DecimalDigits.IsScaled, shortest_eq, not_or, not_le, not_lt]
  constructor
  · by_contra before
    have tiny := (DecimalDigits.point_ofScaled_le pos (-4)).mp (not_lt.mp before)
    have := covers.value_le positive
    norm_num at tiny
    linarith only [tiny, this, least]
  · rw [DecimalDigits.point_ofScaled_le pos]
    rw [isBound] at below
    exact_mod_cast below

end Binary64

end SqlAdvisor.Numeral
