import SqlAdvisor.Numeral.Shortest
import SqlAdvisor.Proofs.Numeral.Nearest
import SqlAdvisor.Proofs.Numeral.Written

/-! # Decimal numerals as they are written

A run of digits with a point in it is written with zeros up to the point, or with an exponent. Either way it is read
back with its value.
-/

namespace SqlAdvisor.Numeral

/-! ## Runs of digits -/

/-- The number that a run of digits writes. -/
def digitsValue (run : List Char) : Nat := ofDigits (run.map fun c => c.toNat - 48)

theorem foldl_digits (start : Nat) (digits : List Nat) :
    digits.foldl (fun value digit => 10 * value + digit) start = start * 10 ^ digits.length + ofDigits digits := by
  induction digits generalizing start with
  | nil => simp [ofDigits]
  | cons d rest ih =>
      rw [ofDigits, List.foldl_cons, List.foldl_cons, ih, ih (10 * 0 + d), List.length_cons]
      ring

theorem digitsValue_append (run rest : List Char) :
    digitsValue (run ++ rest) = digitsValue run * 10 ^ rest.length + digitsValue rest := by
  rw [digitsValue, List.map_append, ofDigits, List.foldl_append, foldl_digits, List.length_map]
  rfl

theorem digitsValue_zeros (count : Nat) : digitsValue (List.replicate count '0') = 0 := by
  induction count with
  | zero => rfl
  | succ count ih =>
      rw [List.replicate_succ', digitsValue_append, ih]
      rfl

theorem digitsValue_toDigits (n : Nat) : digitsValue (Nat.toDigits 10 n) = n := by
  rw [digitsValue, ofDigits, List.foldl_map]
  exact Nat.ofDigitChars_ten_toDigits

theorem isDigit_toDigits {n : Nat} : ∀ c ∈ Nat.toDigits 10 n, c.isDigit = true :=
  fun _ mem => Nat.isDigit_of_mem_toDigits (by decide) (by decide) mem

theorem isDigit_zeros {count : Nat} : ∀ c ∈ List.replicate count '0', c.isDigit = true := by
  intro c mem
  rw [List.eq_of_mem_replicate mem]
  rfl

theorem optionalDigits?_of_isDigit {run : List Char} (digits : ∀ c ∈ run, c.isDigit = true) :
    optionalDigits? run = some (run.map fun c => c.toNat - 48) := by
  cases run with
  | nil => rfl
  | cons c rest => exact digits?_of_isDigit (List.cons_ne_nil c rest) digits

/-! ## Numerals -/

/-- A fraction behind its point, if there is a fraction. -/
def pointed (fraction : List Char) : List Char := if fraction.isEmpty then [] else '.' :: fraction

variable {whole fraction suffix : List Char}

theorem ne_of_isDigit {c other : Char} (digit : c.isDigit = true) (noDigit : other.isDigit = false) : c ≠ other := by
  rintro rfl
  exact absurd digit (by simp [noDigit])

theorem not_isExponentMark_of_isDigit {c : Char} (digit : c.isDigit = true) : isExponentMark c = false := by
  simp [isExponentMark, ne_of_isDigit digit (rfl : 'e'.isDigit = false), ne_of_isDigit digit (rfl : 'E'.isDigit = false)]

theorem mem_pointed {c : Char} (mem : c ∈ pointed fraction) : c = '.' ∨ c ∈ fraction := by
  rw [pointed] at mem
  split at mem
  · cases mem
  · exact List.mem_cons.mp mem

theorem splitSign_cons {c : Char} {rest : List Char} (digit : c.isDigit = true) :
    splitSign (c :: rest) = (false, c :: rest) := by
  unfold splitSign
  split
  · exact absurd digit (by simp_all)
  · exact absurd digit (by simp_all)
  · rfl

theorem decimal?_written {exponent : Int} (given : whole ≠ []) (wholeDigits : ∀ c ∈ whole, c.isDigit = true)
    (fractionDigits : ∀ c ∈ fraction, c.isDigit = true) (marked : suffix = [] ∨ ∃ rest, suffix = 'e' :: rest)
    (read : exponent? suffix = some exponent) :
    decimal? (whole ++ pointed fraction ++ suffix) =
      some ⟨false, digitsValue (whole ++ fraction), exponent - fraction.length⟩ := by
  have unmarked : ∀ c ∈ whole ++ pointed fraction, (!isExponentMark c) = true := by
    intro c mem
    rw [Bool.not_eq_true']
    rcases List.mem_append.mp mem with mem | mem
    · exact not_isExponentMark_of_isDigit (wholeDigits c mem)
    · rcases mem_pointed mem with rfl | mem
      · rfl
      · exact not_isExponentMark_of_isDigit (fractionDigits c mem)
  have unpointed : ∀ c ∈ whole, decide (c ≠ '.') = true := fun c mem =>
    decide_eq_true (ne_of_isDigit (wholeDigits c mem) rfl)
  have unsigned : splitSign (whole ++ pointed fraction ++ suffix) = (false, whole ++ pointed fraction ++ suffix) := by
    obtain ⟨first, others, rfl⟩ := List.exists_cons_of_ne_nil given
    exact splitSign_cons (wholeDigits first List.mem_cons_self)
  have mantissa : (whole ++ pointed fraction ++ suffix).takeWhile (fun c => !isExponentMark c) =
      whole ++ pointed fraction := by
    have stops : suffix.takeWhile (fun c => !isExponentMark c) = [] := by
      rcases marked with rfl | ⟨rest, rfl⟩ <;> rfl
    rw [List.takeWhile_append_of_pos unmarked, stops, List.append_nil]
  have remains : (whole ++ pointed fraction ++ suffix).dropWhile (fun c => !isExponentMark c) = suffix := by
    rw [List.dropWhile_append_of_pos unmarked]
    rcases marked with rfl | ⟨rest, rfl⟩ <;> rfl
  have wholePart : (whole ++ pointed fraction).takeWhile (· ≠ '.') = whole := by
    have stops : (pointed fraction).takeWhile (· ≠ '.') = [] := by
      rw [pointed]
      split <;> rfl
    rw [List.takeWhile_append_of_pos unpointed, stops, List.append_nil]
  have fractionPart : ((whole ++ pointed fraction).dropWhile (· ≠ '.')).drop 1 = fraction := by
    rw [List.dropWhile_append_of_pos unpointed, pointed]
    split
    · rename_i empty
      exact (List.isEmpty_iff.mp empty).symm
    · rfl
  rw [decimal?, unsigned]
  simp only [mantissa, remains, read, wholePart, fractionPart, optionalDigits?_of_isDigit wholeDigits,
    optionalDigits?_of_isDigit fractionDigits]
  simp [given, digitsValue]

/-! ## Runs with a point -/

namespace DecimalDigits

/-- An exponent is written as a mark, a sign, and digits that may begin with zeros. -/
theorem toList_exponentText (exponent : Int) : ∃ zeros, (exponentText exponent).toList =
    'e' :: (if exponent < 0 then '-' else '+') :: (List.replicate zeros '0' ++ Nat.toDigits 10 exponent.natAbs) := by
  have sign : (if exponent < 0 then "e-" else "e+").toList = ['e', if exponent < 0 then '-' else '+'] := by
    split <;> rfl
  have pad : ∃ zeros, (if (toString exponent.natAbs).length < 2 then "0" else "").toList = List.replicate zeros '0' := by
    split
    · exact ⟨1, rfl⟩
    · exact ⟨0, rfl⟩
  obtain ⟨zeros, pad⟩ := pad
  refine ⟨zeros, ?_⟩
  rw [exponentText, String.toList_append, String.toList_append, sign, pad, Nat.toString_eq_repr, Nat.toList_repr]
  rfl

theorem exponent?_exponentText (exponent : Int) : exponent? (exponentText exponent).toList = some exponent := by
  obtain ⟨zeros, written⟩ := toList_exponentText exponent
  have digits : ∀ c ∈ List.replicate zeros '0' ++ Nat.toDigits 10 exponent.natAbs, c.isDigit = true := by
    intro c mem
    exact (List.mem_append.mp mem).elim (isDigit_zeros c) (isDigit_toDigits c)
  have given : List.replicate zeros '0' ++ Nat.toDigits 10 exponent.natAbs ≠ [] :=
    List.append_ne_nil_of_right_ne_nil _ Nat.toDigits_ne_nil
  have value : digitsValue (List.replicate zeros '0' ++ Nat.toDigits 10 exponent.natAbs) = exponent.natAbs := by
    rw [digitsValue_append, digitsValue_zeros, digitsValue_toDigits, Nat.zero_mul, Nat.zero_add]
  rw [digitsValue] at value
  rw [written, exponent?]
  by_cases negative : exponent < 0
  · simp only [if_pos negative, splitSign, digits?_of_isDigit given digits, Option.map_some, value, signed]
    rw [if_pos trivial, Option.some_inj]
    omega
  · simp only [if_neg negative, splitSign, digits?_of_isDigit given digits, Option.map_some, value, signed]
    rw [if_neg Bool.false_ne_true, Option.some_inj]
    omega

variable {d : DecimalDigits}

/-- The value of a run of digits with a point in it. -/
def value (d : DecimalDigits) : ℚ := digitsValue d.digits * (10 : ℚ) ^ (d.point - d.digits.length)

/-- The run is written with an exponent. -/
def IsScaled (d : DecimalDigits) : Prop := d.point ≤ -4 ∨ 16 < d.point

theorem text_of_scaled (scaled : d.IsScaled) : d.text.toList =
    d.digits.take 1 ++ pointed (d.digits.drop 1) ++ (exponentText (d.point - 1)).toList := by
  have condition : (decide (d.point ≤ -4) || decide (16 < d.point)) = true := by simpa [IsScaled] using scaled
  rw [text]
  dsimp only
  rw [if_pos condition, String.toList_append, String.toList_ofList]
  rfl

/-- The digits before the point, with zeros up to it. -/
def wholeDigits (d : DecimalDigits) : List Char :=
  d.digits.take d.point.toNat ++ List.replicate (d.point - d.digits.length).toNat '0'

/-- The digits behind the point, with zeros from it on. -/
def fractionDigits (d : DecimalDigits) : List Char :=
  List.replicate (-d.point).toNat '0' ++ d.digits.drop d.point.toNat

/-- A run, or a zero for the empty one. -/
def orZero (run : List Char) : List Char := if run.isEmpty then ['0'] else run

theorem text_of_plain (plain : ¬d.IsScaled) : d.text.toList =
    orZero d.wholeDigits ++ pointed (orZero d.fractionDigits) ++ [] := by
  have condition : ¬(decide (d.point ≤ -4) || decide (16 < d.point)) = true := by simpa [IsScaled] using plain
  have given : (orZero d.fractionDigits).isEmpty = false := by
    rw [orZero]
    split
    · rfl
    · rename_i h
      simpa using h
  rw [text]
  dsimp only
  rw [if_neg condition, String.toList_ofList, pointed, given, if_neg Bool.false_ne_true, List.append_nil]
  rfl

theorem digitsValue_orZero (run : List Char) : digitsValue (orZero run) = digitsValue run := by
  rw [orZero]
  split
  · rename_i empty
    rw [List.isEmpty_iff.mp empty]
    rfl
  · rfl

theorem value_orZero (whole fraction : List Char) :
    (digitsValue (orZero whole ++ orZero fraction) : ℚ) * 10 ^ (-(orZero fraction).length : Int) =
      digitsValue whole + digitsValue fraction * 10 ^ (-fraction.length : Int) := by
  have scale (run : List Char) : (10 : ℚ) ^ run.length * 10 ^ (-run.length : Int) = 1 := by
    rw [← zpow_natCast, ← zpow_add₀ (by norm_num), add_neg_cancel, zpow_zero]
  rw [digitsValue_append, digitsValue_orZero, Nat.cast_add, Nat.cast_mul, Nat.cast_pow, Nat.cast_ofNat, add_mul,
    mul_assoc, scale, mul_one, digitsValue_orZero, orZero]
  split
  · rename_i empty
    rw [List.isEmpty_iff.mp empty]
    simp [digitsValue, ofDigits]
  · rfl

theorem digitsValue_wholeDigits (d : DecimalDigits) : digitsValue d.wholeDigits =
    digitsValue (d.digits.take d.point.toNat) * 10 ^ (d.point - d.digits.length).toNat := by
  rw [wholeDigits, digitsValue_append, digitsValue_zeros, List.length_replicate, Nat.add_zero]

theorem digitsValue_fractionDigits (d : DecimalDigits) :
    digitsValue d.fractionDigits = digitsValue (d.digits.drop d.point.toNat) := by
  rw [fractionDigits, digitsValue_append, digitsValue_zeros, Nat.zero_mul, Nat.zero_add]

theorem value_plain (d : DecimalDigits) :
    (digitsValue d.wholeDigits : ℚ) + digitsValue d.fractionDigits * 10 ^ (-d.fractionDigits.length : Int) = d.value := by
  let before := d.digits.take d.point.toNat
  let behind := d.digits.drop d.point.toNat
  have run : digitsValue d.digits = digitsValue before * 10 ^ behind.length + digitsValue behind := by
    rw [← digitsValue_append, List.take_append_drop]
  have length : behind.length = d.digits.length - d.point.toNat := List.length_drop
  -- Zeros before the point stand for digits that are not there, so that there is no digit behind it, and the other way.
  have whole : (digitsValue d.wholeDigits : ℚ) =
      digitsValue before * 10 ^ behind.length * 10 ^ (d.point - d.digits.length) := by
    rw [digitsValue_wholeDigits, Nat.cast_mul, Nat.cast_pow, Nat.cast_ofNat]
    change (digitsValue before : ℚ) * _ = _
    rcases le_or_gt d.point 0 with none | some
    · have empty : before = [] := List.take_eq_nil_iff.mpr (.inl (Int.toNat_of_nonpos none))
      simp [empty, digitsValue, ofDigits]
    · rw [mul_assoc, ← zpow_natCast, ← zpow_natCast, ← zpow_add₀ (by norm_num)]
      congr 2
      omega
  have fraction : (digitsValue d.fractionDigits : ℚ) * 10 ^ (-d.fractionDigits.length : Int) =
      digitsValue behind * 10 ^ (d.point - d.digits.length) := by
    rw [digitsValue_fractionDigits]
    change (digitsValue behind : ℚ) * _ = _
    rcases le_or_gt (d.digits.length : Int) d.point with none | some
    · have empty : behind = [] := List.drop_of_length_le (by omega)
      simp [empty, digitsValue, ofDigits]
    · have written : d.fractionDigits.length = (-d.point).toNat + behind.length := by
        rw [fractionDigits, List.length_append, List.length_replicate]
      congr 2
      omega
  calc (digitsValue d.wholeDigits : ℚ) + digitsValue d.fractionDigits * 10 ^ (-d.fractionDigits.length : Int)
      = (digitsValue before * 10 ^ behind.length + digitsValue behind) * 10 ^ (d.point - d.digits.length) := by
        rw [whole, fraction, add_mul]
    _ = d.value := by rw [value, run, Nat.cast_add, Nat.cast_mul, Nat.cast_pow, Nat.cast_ofNat]

/-- The parts of the text of a run: digits before the point and behind it, and an exponent. -/
structure IsWritten (d : DecimalDigits) (whole fraction suffix : List Char) : Prop where
  text : d.text.toList = whole ++ pointed fraction ++ suffix
  given : whole ≠ []
  inWhole : ∀ c ∈ whole, c.isDigit = true
  inFraction : ∀ c ∈ fraction, c.isDigit = true
  value : ∃ exponent, exponent? suffix = some exponent ∧
    (digitsValue (whole ++ fraction) : ℚ) * 10 ^ (exponent - fraction.length) = d.value
  shape : ¬d.IsScaled ∧ fraction ≠ [] ∧ suffix = [] ∨
    d.IsScaled ∧ fraction = d.digits.drop 1 ∧ ∃ exponent, suffix = (exponentText exponent).toList

theorem isWritten_of_scaled (given : d.digits ≠ []) (digits : ∀ c ∈ d.digits, c.isDigit = true)
    (scaled : d.IsScaled) : d.IsWritten (d.digits.take 1) (d.digits.drop 1) (exponentText (d.point - 1)).toList where
  text := text_of_scaled scaled
  given := by simpa using given
  inWhole c mem := digits c (List.mem_of_mem_take mem)
  inFraction c mem := digits c (List.mem_of_mem_drop mem)
  value := by
    refine ⟨d.point - 1, exponent?_exponentText _, ?_⟩
    have length := List.length_pos_iff.mpr given
    rw [value, List.take_append_drop, List.length_drop]
    congr 2
    omega
  shape := .inr ⟨scaled, rfl, _, rfl⟩

theorem orZero_ne_nil (run : List Char) : orZero run ≠ [] := by
  rw [orZero]
  split
  · exact List.cons_ne_nil _ _
  · rename_i nonempty
    simpa using nonempty

theorem isDigit_orZero {run : List Char} (digits : ∀ c ∈ run, c.isDigit = true) :
    ∀ c ∈ orZero run, c.isDigit = true := by
  rw [orZero]
  split
  · exact List.forall_mem_singleton.mpr rfl
  · exact digits

theorem isWritten_of_plain (digits : ∀ c ∈ d.digits, c.isDigit = true) (plain : ¬d.IsScaled) :
    d.IsWritten (orZero d.wholeDigits) (orZero d.fractionDigits) [] where
  text := text_of_plain plain
  given := orZero_ne_nil _
  inWhole := by
    refine isDigit_orZero fun c mem => ?_
    exact (List.mem_append.mp mem).elim (fun mem => digits c (List.mem_of_mem_take mem)) (isDigit_zeros c)
  inFraction := by
    refine isDigit_orZero fun c mem => ?_
    exact (List.mem_append.mp mem).elim (isDigit_zeros c) fun mem => digits c (List.mem_of_mem_drop mem)
  value := ⟨0, rfl, by rw [← value_plain, ← value_orZero, Int.zero_sub]⟩
  shape := .inl ⟨plain, orZero_ne_nil _, rfl⟩

theorem exists_isWritten (given : d.digits ≠ []) (digits : ∀ c ∈ d.digits, c.isDigit = true) :
    ∃ whole fraction suffix, d.IsWritten whole fraction suffix := by
  by_cases scaled : d.IsScaled
  · exact ⟨_, _, _, isWritten_of_scaled given digits scaled⟩
  · exact ⟨_, _, _, isWritten_of_plain digits scaled⟩

variable {whole fraction suffix : List Char}

theorem IsWritten.marked (written : d.IsWritten whole fraction suffix) :
    suffix = [] ∨ ∃ rest, suffix = 'e' :: rest := by
  obtain ⟨-, -, none⟩ | ⟨-, -, exponent, rfl⟩ := written.shape
  · exact .inl none
  · exact .inr ⟨_, (toList_exponentText exponent).choose_spec⟩

/-- What is written of a run of digits is read back as a numeral of its value. -/
theorem decimal?_text (given : d.digits ≠ []) (digits : ∀ c ∈ d.digits, c.isDigit = true) :
    ∃ read, decimal? d.text.toList = some read ∧ read.negative = false ∧ read.magnitude = d.value := by
  obtain ⟨whole, fraction, suffix, written⟩ := exists_isWritten given digits
  obtain ⟨exponent, reads, value⟩ := written.value
  rw [written.text, decimal?_written written.given written.inWhole written.inFraction written.marked reads]
  exact ⟨_, rfl, rfl, value⟩

theorem mem_exponentText {exponent : Int} {c : Char} (mem : c ∈ (exponentText exponent).toList) :
    c.isDigit = true ∨ c ∈ ['e', '+', '-'] := by
  obtain ⟨zeros, written⟩ := toList_exponentText exponent
  rw [written] at mem
  rcases List.mem_cons.mp mem with rfl | mem
  · exact .inr (by simp)
  · rcases List.mem_cons.mp mem with rfl | mem
    · split <;> exact .inr (by simp)
    · exact .inl ((List.mem_append.mp mem).elim (isDigit_zeros c) (isDigit_toDigits c))

theorem mem_text (given : d.digits ≠ []) (digits : ∀ c ∈ d.digits, c.isDigit = true) {c : Char}
    (mem : c ∈ d.text.toList) : c.isDigit = true ∨ c ∈ ['.', 'e', '+', '-'] := by
  obtain ⟨whole, fraction, suffix, written⟩ := exists_isWritten given digits
  rw [written.text] at mem
  rcases List.mem_append.mp mem with mem | mem
  · rcases List.mem_append.mp mem with mem | mem
    · exact .inl (written.inWhole c mem)
    · exact (mem_pointed mem).symm.imp (written.inFraction c) fun point => by simp [point]
  · obtain ⟨-, -, rfl⟩ | ⟨-, -, exponent, rfl⟩ := written.shape
    · cases mem
    · exact (mem_exponentText mem).imp_right (List.mem_cons_of_mem _)

theorem point_mem_text (given : d.digits ≠ []) (digits : ∀ c ∈ d.digits, c.isDigit = true) :
    '.' ∈ d.text.toList ↔ ¬(d.IsScaled ∧ d.digits.length = 1) := by
  obtain ⟨whole, fraction, suffix, written⟩ := exists_isWritten given digits
  have pointed : '.' ∈ d.text.toList ↔ fraction ≠ [] := by
    have noWhole : '.' ∉ whole := fun mem => absurd (written.inWhole _ mem) (by decide)
    have noSuffix : '.' ∉ suffix := by
      obtain ⟨-, -, rfl⟩ | ⟨-, -, exponent, rfl⟩ := written.shape
      · exact List.not_mem_nil
      · exact fun mem => (mem_exponentText mem).elim (by decide) (by decide)
    rw [written.text, List.mem_append, List.mem_append, pointed]
    cases fraction <;> simp [noWhole, noSuffix]
  have length := List.length_pos_iff.mpr given
  rw [pointed]
  obtain ⟨plain, given, -⟩ | ⟨scaled, rfl, -⟩ := written.shape
  · exact iff_of_true given fun h => plain h.1
  · rw [Ne, List.drop_eq_nil_iff]
    simp only [scaled, true_and]
    omega

theorem mark_mem_text (given : d.digits ≠ []) (digits : ∀ c ∈ d.digits, c.isDigit = true)
    (unpointed : '.' ∉ d.text.toList) : 'e' ∈ d.text.toList := by
  obtain ⟨scaled, -⟩ := not_not.mp (mt (point_mem_text given digits).mpr unpointed)
  obtain ⟨zeros, written⟩ := toList_exponentText (d.point - 1)
  rw [text_of_scaled scaled, written]
  simp

end DecimalDigits

end SqlAdvisor.Numeral
