import SqlAdvisor.Proofs.Explain.Narrative
import SqlAdvisor.Proofs.Numeral.Shortest

/-! # Row estimates in any spelling

A point in an estimate decides how it is read: with one as a decimal numeral, and without one as an integer, which may
have no exponent and not too many digits. So an estimate keeps its value in any spelling but one that has an exponent,
or very many digits, and no point.
-/

namespace SqlAdvisor

namespace Numeral

/-! ## Numerals without a point -/

/-- How many digits there are in a text. -/
def digitCount (text : List Char) : Nat := text.countP fun c => (Text.digitValue? c).isSome

theorem digitCount_cons {c : Char} {d : Nat} (digit : Text.digitValue? c = some d) (rest : List Char) :
    digitCount (c :: rest) = digitCount rest + 1 := by
  rw [digitCount, List.countP_cons_of_pos (by simp [digit])]
  rfl

theorem digits?_eq_some {run : List Char} {digits : List Nat} (read : digits? run = some digits) :
    (∀ c ∈ run, c = '_' ∨ (Text.digitValue? c).isSome = true) ∧ digitCount run = digits.length := by
  have noDigit : Text.digitValue? '_' = none := by decide
  fun_induction digits? run generalizing digits with
  | case1 => cases read
  | case2 c =>
      obtain ⟨digit, value, rfl⟩ := Option.map_eq_some_iff.mp read
      exact ⟨List.forall_mem_singleton.mpr (.inr (by simp [value])), digitCount_cons value []⟩
  | case3 c rest ih =>
      obtain ⟨digit, value, read⟩ := Option.bind_eq_some_iff.mp read
      obtain ⟨others, rest, read⟩ := Option.bind_eq_some_iff.mp read
      cases read
      obtain ⟨solid, count⟩ := ih rest
      refine ⟨List.forall_mem_cons.mpr ⟨.inr (by simp [value]), List.forall_mem_cons.mpr ⟨.inl rfl, solid⟩⟩, ?_⟩
      rw [digitCount_cons value, digitCount, List.countP_cons_of_neg (by simp [noDigit]), ← digitCount, count]
      rfl
  | case4 c rest several other ih =>
      obtain ⟨digit, value, read⟩ := Option.bind_eq_some_iff.mp read
      obtain ⟨others, rest, read⟩ := Option.bind_eq_some_iff.mp read
      cases read
      obtain ⟨solid, count⟩ := ih rest
      refine ⟨List.forall_mem_cons.mpr ⟨.inr (by simp [value]), solid⟩, ?_⟩
      rw [digitCount_cons value, count]
      rfl

theorem exists_sign (text : List Char) : ∃ sign, (∀ c ∈ sign, c = '-' ∨ c = '+') ∧
    text = sign ++ (splitSign text).2 := by
  fun_cases splitSign text with
  | case1 rest => exact ⟨['-'], by simp, rfl⟩
  | case2 rest => exact ⟨['+'], by simp, rfl⟩
  | case3 => exact ⟨[], by simp, rfl⟩

variable {text : List Char} {d : Decimal}

theorem integer?_eq (text : List Char) : integer? text = (digits? (splitSign text).2).bind fun digits =>
    if digits.length ≤ digitLimit then some (signed (splitSign text).1 (ofDigits digits)) else none := by
  rw [integer?]
  obtain ⟨negative, run⟩ := splitSign text
  dsimp only
  cases digits? run <;> rfl

theorem integer?_of_marked (marked : ∃ c ∈ text, isExponentMark c = true) : integer? text = none := by
  obtain ⟨c, mem, mark⟩ := marked
  obtain ⟨sign, isSign, split⟩ := exists_sign text
  have noDigit : ∀ c, isExponentMark c = true → c ≠ '_' ∧ c ≠ '-' ∧ c ≠ '+' ∧ Text.digitValue? c = none := by
    intro c mark
    simp only [isExponentMark, Bool.or_eq_true, decide_eq_true_eq] at mark
    rcases mark with rfl | rfl <;> decide
  obtain ⟨noGap, noMinus, noPlus, noValue⟩ := noDigit c mark
  have inRun : c ∈ (splitSign text).2 := by
    rw [split] at mem
    exact (List.mem_append.mp mem).resolve_left fun mem => (isSign c mem).elim noMinus noPlus
  rw [integer?_eq]
  cases read : digits? (splitSign text).2 with
  | none => rfl
  | some digits => exact ((digits?_eq_some read).1 c inRun).elim (absurd · noGap) fun digit => by simp [noValue] at digit

theorem digitCount_splitSign (text : List Char) : digitCount text = digitCount (splitSign text).2 := by
  obtain ⟨sign, isSign, split⟩ := exists_sign text
  have noDigit : digitCount sign = 0 := by
    rw [digitCount, List.countP_eq_zero]
    intro c mem
    rcases isSign c mem with rfl | rfl <;> decide
  rw [split, digitCount, List.countP_append, ← digitCount, noDigit, Nat.zero_add, ← split]
  rfl

theorem digits?_of_decimal? (unpointed : '.' ∉ text) (unmarked : ∀ c ∈ text, isExponentMark c = false)
    (read : decimal? text = some d) :
    ∃ digits, digits? (splitSign text).2 = some digits ∧ d = ⟨(splitSign text).1, ofDigits digits, 0⟩ := by
  obtain ⟨sign, -, split⟩ := exists_sign text
  have inText : ∀ c ∈ (splitSign text).2, c ∈ text := fun c mem => split ▸ List.mem_append_right sign mem
  rw [decimal?] at read
  generalize splitSign text = parts at *
  obtain ⟨negative, run⟩ := parts
  dsimp only at *
  have mantissa : run.takeWhile (fun c => !isExponentMark c) = run :=
    List.takeWhile_eq_self_iff.mpr fun c mem => by simp [unmarked c (inText c mem)]
  have noExponent : run.dropWhile (fun c => !isExponentMark c) = [] :=
    List.dropWhile_eq_nil_iff.mpr fun c mem => by simp [unmarked c (inText c mem)]
  have isWhole : run.takeWhile (· ≠ '.') = run :=
    List.takeWhile_eq_self_iff.mpr fun c mem => decide_eq_true (ne_of_mem_of_not_mem (inText c mem) unpointed)
  have noFraction : run.dropWhile (· ≠ '.') = [] :=
    List.dropWhile_eq_nil_iff.mpr fun c mem => decide_eq_true (ne_of_mem_of_not_mem (inText c mem) unpointed)
  simp only [mantissa, noExponent, isWhole, noFraction] at read
  obtain ⟨exponent, isZero, read⟩ := Option.bind_eq_some_iff.mp read
  obtain ⟨digits, written, read⟩ := Option.bind_eq_some_iff.mp read
  obtain ⟨fraction, isEmpty, read⟩ := Option.bind_eq_some_iff.mp read
  cases isZero
  cases isEmpty
  split at read
  · cases read
  · rename_i given
    cases read
    refine ⟨digits, ?_, by rw [List.append_nil]; rfl⟩
    cases run with
    | nil =>
        cases written
        exact absurd rfl given
    | cons c rest => exact written

/-- A decimal numeral without a point and an exponent is an integer, unless it has too many digits. -/
theorem integer?_of_decimal? (unpointed : '.' ∉ text) (unmarked : ∀ c ∈ text, isExponentMark c = false)
    (read : decimal? text = some d) : d.exponent = 0 ∧
      integer? text = if digitCount text ≤ digitLimit then some (signed d.negative d.coefficient) else none := by
  obtain ⟨digits, written, rfl⟩ := digits?_of_decimal? unpointed unmarked read
  refine ⟨rfl, ?_⟩
  rw [integer?_eq, digitCount_splitSign, written, (digits?_eq_some written).2, Option.bind_some]

theorem Decimal.value_of_whole (whole : d.exponent = 0) : d.value = (signed d.negative d.coefficient : Int) := by
  rw [Decimal.value, Decimal.magnitude, whole, zpow_zero, mul_one, signed]
  split <;> simp

/-! ## Texts of integral numbers -/

/-- The integer is a binary64 number. -/
def IsStorable (n : Nat) : Prop := ∃ x : Binary64, x.IsCanonical ∧ x.value = n

/-- The text of the floating number of an integer. -/
def floatText (n : Nat) : String := (Decimal.mk false n 0).shortestText

/-- The text writes the integer: it is a decimal numeral of its value, or the text of its floating number. -/
inductive Writes (n : Nat) : List Char → Prop where
  | exact {text : List Char} {d : Decimal} (read : decimal? text = some d) (value : d.value = n) : Writes n text
  | float : Writes n (floatText n).toList

variable {n : Nat} {x : Binary64}

/-- What is known of a text that writes a floating number of integral value. -/
structure IsFloatText (text : List Char) (n : Nat) : Prop where
  solid : ∀ c ∈ text, Text.isBlank c = false
  read : ∃ d, decimal? text = some d ∧ d.truncated? = some (n : Int)
  scaled : '.' ∉ text → 'e' ∈ text ∧ 10 ^ 16 ≤ n

theorem isBlank_of_mem_marks {c : Char} (mark : c ∈ ['.', 'e', '+', '-']) : Text.isBlank c = false := by
  simp only [List.mem_cons, List.not_mem_nil, or_false] at mark
  rcases mark with rfl | rfl | rfl | rfl <;> rfl

theorem isFloatText_zero : IsFloatText ['0', '.', '0'] 0 where
  solid c mem := by
    simp only [List.mem_cons, List.not_mem_nil, or_false] at mem
    rcases mem with rfl | rfl | rfl <;> rfl
  read := by
    have canonical : Binary64.zero.IsCanonical := ⟨by decide, by decide, by decide, .inr rfl⟩
    have written : (Decimal.mk false 0 (-1)).value = (0 : Nat) := by simp [Decimal.value, Decimal.magnitude]
    exact ⟨_, rfl, Decimal.truncated?_of_value canonical (Binary64.value_zero.trans Nat.cast_zero.symm) written⟩
  scaled unpointed := absurd (by simp) unpointed

theorem isFloatText_shortest (canonical : x.IsCanonical) (exact : x.value = n) (positive : 0 < n) :
    IsFloatText x.shortest.text.toList n := by
  have mantissa : 0 < x.mantissa := by
    rw [Binary64.mantissa_pos_iff, exact]
    exact_mod_cast positive
  have given : x.shortest.digits ≠ [] := DecimalDigits.ofScaled_ne_nil (Binary64.shortestQuantity_pos mantissa)
  have digits : ∀ c ∈ x.shortest.digits, c.isDigit = true := DecimalDigits.isDigit_ofScaled
  refine ⟨fun c mem => ?solid, ?read, fun unpointed => ⟨DecimalDigits.mark_mem_text given digits unpointed, ?great⟩⟩
  case solid =>
    rcases DecimalDigits.mem_text given digits mem with digit | mark
    · exact Text.not_isBlank_of_isDigit digit
    · exact isBlank_of_mem_marks mark
  case read =>
    obtain ⟨read, reads, unsigned, magnitude⟩ := Binary64.magnitude?_of_text canonical mantissa
    refine ⟨read, reads, ?_⟩
    rw [Decimal.truncated?, magnitude, Option.map_some, unsigned, Binary64.whole_of_value exact]
    rfl
  case great =>
    by_contra small
    refine unpointed ((DecimalDigits.point_mem_text given digits).mpr fun single => ?_)
    refine Binary64.not_isScaled_shortest canonical ?_ ?_ single.1
    · rw [exact]
      exact_mod_cast positive
    · rw [exact]
      exact_mod_cast not_le.mp small

/-- The text of a floating number of integral value is read back with its value. -/
theorem isFloatText_floatText (storable : IsStorable n) : IsFloatText (floatText n).toList n := by
  obtain ⟨x, canonical, exact⟩ := storable
  rcases Nat.eq_zero_or_pos n with rfl | positive
  · have zero : (floatText 0).toList = ['0', '.', '0'] := by
      rw [floatText, Decimal.shortestText, Decimal.magnitude?_of_zero rfl]
      rfl
    rw [zero]
    exact isFloatText_zero
  · have mantissa : 0 < x.mantissa := by
      rw [Binary64.mantissa_pos_iff, exact]
      exact_mod_cast positive
    have magnitude : (Decimal.mk false n 0).magnitude = x.value := by
      rw [exact, Decimal.magnitude, zpow_zero, mul_one]
    have stored := Decimal.magnitude?_eq_of_covers canonical mantissa (magnitude ▸ Binary64.covers_value mantissa)
    have text : floatText n = x.shortest.text := by
      rw [floatText, Decimal.shortestText, stored]
      dsimp only
      rw [if_neg mantissa.ne', if_neg Bool.false_ne_true, String.empty_append]
    rw [text]
    exact isFloatText_shortest canonical exact positive

end Numeral

/-! ## Estimates -/

/-- An estimate is misread if it has no point, but an exponent or too many digits for an integer. -/
def IsMisread (text : List Char) : Prop :=
  '.' ∉ text ∧ ((∃ c ∈ text, Numeral.isExponentMark c = true) ∨ Numeral.digitLimit < Numeral.digitCount text)

/-- What the log says of a cell whose estimate cannot be read. -/
def unreadRecord (cell : Option String) : LogRecord :=
  ⟨.warning, .correlation, "Could not parse row estimate: '" ++ Text.strip (cell.getD "") ++ "'"⟩

variable {cell : Option String} {n : Nat}

theorem rowCount_of_rowNumber? {number? : Option Int} (given : writtenIn cell ≠ [])
    (number : rowNumber? (writtenIn cell) = .ok number?) :
    rowCount cell = .ok ⟨number?.getD 0, if number?.isSome then [] else [unreadRecord cell]⟩ := by
  have nonempty : ¬(Text.strip (cell.getD "")).isEmpty = true := by
    rw [String.isEmpty_iff]
    intro empty
    exact given (by rw [writtenIn, empty]; rfl)
  rw [writtenIn] at number
  rw [rowCount]
  dsimp only
  rw [if_neg nonempty, number]
  cases number? <;> rfl

theorem rowNumber?_of_pointed {text : List Char} {d : Numeral.Decimal} (point : '.' ∈ text)
    (read : Numeral.decimal? text = some d) (truncated : d.truncated? = some (n : Int)) :
    (¬IsMisread text → rowNumber? text = .ok (some n)) ∧ (IsMisread text → rowNumber? text = .ok none) := by
  refine ⟨fun _ => ?_, fun misread => absurd point misread.1⟩
  rw [rowNumber?, if_pos (List.contains_iff_mem.mpr point), read]
  dsimp only
  rw [truncated]

theorem rowNumber?_of_marked {text : List Char} (unpointed : '.' ∉ text)
    (marked : ∃ c ∈ text, Numeral.isExponentMark c = true) :
    (¬IsMisread text → rowNumber? text = .ok (some n)) ∧ (IsMisread text → rowNumber? text = .ok none) := by
  refine ⟨fun right => absurd ⟨unpointed, .inl marked⟩ right, fun _ => ?_⟩
  rw [rowNumber?, if_neg (mt List.contains_iff_mem.mp unpointed), Numeral.integer?_of_marked marked]

theorem rowNumber?_of_value {x : Numeral.Binary64} {text : List Char} {d : Numeral.Decimal} (canonical : x.IsCanonical)
    (exact : x.value = n) (read : Numeral.decimal? text = some d) (written : d.value = n) :
    (¬IsMisread text → rowNumber? text = .ok (some n)) ∧ (IsMisread text → rowNumber? text = .ok none) := by
  by_cases point : '.' ∈ text
  · exact rowNumber?_of_pointed point read (Numeral.Decimal.truncated?_of_value canonical exact written)
  by_cases marked : ∃ c ∈ text, Numeral.isExponentMark c = true
  · exact rowNumber?_of_marked point marked
  · have unmarked : ∀ c ∈ text, Numeral.isExponentMark c = false := by
      push Not at marked
      exact fun c mem => Bool.eq_false_iff.mpr (marked c mem)
    obtain ⟨whole, reads⟩ := Numeral.integer?_of_decimal? point unmarked read
    have value : Numeral.signed d.negative d.coefficient = n := by
      rw [Numeral.Decimal.value_of_whole whole] at written
      exact_mod_cast written
    rw [rowNumber?, if_neg (mt List.contains_iff_mem.mp point), reads, value]
    by_cases few : Numeral.digitCount text ≤ Numeral.digitLimit
    · rw [if_pos few]
      exact ⟨fun _ => rfl, fun misread => (misread.2.elim marked few.not_gt).elim⟩
    · rw [if_neg few]
      exact ⟨fun right => absurd ⟨point, .inr (not_le.mp few)⟩ right, fun _ => rfl⟩

theorem rowNumber?_of_isFloatText {text : List Char} (isText : Numeral.IsFloatText text n) :
    (¬IsMisread text → rowNumber? text = .ok (some n)) ∧ (IsMisread text → rowNumber? text = .ok none) := by
  by_cases point : '.' ∈ text
  · obtain ⟨d, read, truncated⟩ := isText.read
    exact rowNumber?_of_pointed point read truncated
  · exact rowNumber?_of_marked point ⟨'e', (isText.scaled point).1, rfl⟩

theorem ne_nil_of_decimal? {text : List Char} {d : Numeral.Decimal} (read : Numeral.decimal? text = some d) :
    text ≠ [] := by
  rintro rfl
  cases read

/-- A cell that writes an integer which can be stored counts as it, unless it is misread. -/
theorem rowCount_of_writes (storable : Numeral.IsStorable n) (written : Numeral.Writes n (writtenIn cell)) :
    (¬IsMisread (writtenIn cell) → rowCount cell = .ok ⟨n, []⟩) ∧
      (IsMisread (writtenIn cell) → rowCount cell = .ok ⟨0, [unreadRecord cell]⟩) := by
  have number : writtenIn cell ≠ [] ∧ (¬IsMisread (writtenIn cell) → rowNumber? (writtenIn cell) = .ok (some n)) ∧
      (IsMisread (writtenIn cell) → rowNumber? (writtenIn cell) = .ok none) := by
    generalize writtenIn cell = text at *
    cases written with
    | exact read value =>
        obtain ⟨x, canonical, exact⟩ := storable
        exact ⟨ne_nil_of_decimal? read, rowNumber?_of_value canonical exact read value⟩
    | float =>
        have isText := Numeral.isFloatText_floatText storable
        obtain ⟨d, read, -⟩ := isText.read
        exact ⟨ne_nil_of_decimal? read, rowNumber?_of_isFloatText isText⟩
  obtain ⟨given, right, wrong⟩ := number
  exact ⟨fun h => rowCount_of_rowNumber? given (right h), fun h => rowCount_of_rowNumber? given (wrong h)⟩

theorem Numeral.IsStorable.isReadable (storable : IsStorable n) : IsReadable n := by
  obtain ⟨x, canonical, exact⟩ := storable
  rw [IsReadable, Int.natAbs_natCast]
  rcases Nat.eq_zero_or_pos n with rfl | positive
  · exact Nat.pow_pos (by decide)
  · have mantissa : 0 < x.mantissa := by
      rw [Binary64.mantissa_pos_iff, exact]
      exact_mod_cast positive
    have few : (n : ℚ) < (2 ^ digitLimit : Nat) := by
      calc (n : ℚ) = x.value := exact.symm
        _ < overflowBound := (Binary64.covers_value mantissa).lt_overflowBound canonical
        _ ≤ 2 ^ 1024 := sub_le_self _ (by positivity)
        _ ≤ 2 ^ digitLimit := pow_le_pow_right₀ one_le_two (by decide)
        _ = (2 ^ digitLimit : Nat) := by rw [Nat.cast_pow, Nat.cast_two]
    calc n < 2 ^ digitLimit := Nat.cast_lt.mp few
      _ ≤ 10 ^ digitLimit := Nat.pow_le_pow_left (by decide) digitLimit

/-- The datum is a number of the value: an integer, or a floating number. -/
inductive Datum.IsCount (n : Nat) : Datum → Prop where
  | int : IsCount n (.int n)
  | float : IsCount n (.float (Numeral.floatText n))

theorem toList_toString_natCast (n : Nat) : (toString (n : Int)).toList = Nat.toDigits 10 n := by
  rw [Numeral.toList_toString, if_neg (by simp)]
  rfl

theorem not_isMisread_toString (readable : Numeral.IsReadable n) : ¬IsMisread (toString (n : Int)).toList := by
  rw [toList_toString_natCast]
  rintro ⟨-, ⟨c, mem, mark⟩ | many⟩
  · simp [Numeral.not_isExponentMark_of_isDigit (Numeral.isDigit_toDigits c mem)] at mark
  · have length := (Nat.length_toDigits_le_iff (by decide) (by decide)).mpr readable
    exact absurd (many.trans_le (List.countP_le_length.trans length)) (lt_irrefl _)

theorem writes_toString (n : Nat) : Numeral.Writes n (toString (n : Int)).toList := by
  have digits : ∀ c ∈ Nat.toDigits 10 n, c.isDigit = true := Numeral.isDigit_toDigits
  have read := Numeral.decimal?_written Nat.toDigits_ne_nil digits (List.forall_mem_nil _) (.inl rfl)
    (rfl : Numeral.exponent? [] = some 0)
  have text : Nat.toDigits 10 n ++ Numeral.pointed [] ++ [] = (toString (n : Int)).toList := by
    rw [toList_toString_natCast, List.append_nil]
    exact List.append_nil _
  refine .exact (text ▸ read) ?_
  rw [Numeral.Decimal.value_of_whole rfl, List.append_nil, Numeral.digitsValue_toDigits]
  rfl

variable {row : ExplainRow} {datum : Datum}

theorem Datum.IsCount.writes (storable : Numeral.IsStorable n) (count : datum.IsCount n) :
    Numeral.Writes n datum.display.toList ∧ ∀ c ∈ datum.display.toList, Text.isBlank c = false := by
  cases count with
  | int =>
      refine ⟨writes_toString n, fun c mem => ?_⟩
      have mem : c ∈ (toString (n : Int)).toList := mem
      rw [toList_toString_natCast] at mem
      exact Text.not_isBlank_of_isDigit (Numeral.isDigit_toDigits c mem)
  | float => exact ⟨.float, (Numeral.isFloatText_floatText storable).solid⟩

theorem rowCount_of_isCount (storable : Numeral.IsStorable n) (given : row.get? "rows" = some datum)
    (count : datum.IsCount n) :
    (¬IsMisread datum.display.toList → ∃ log, rowCount (row.text? "rows") = .ok ⟨n, log⟩) ∧
      (IsMisread datum.display.toList → ∃ log, rowCount (row.text? "rows") = .ok ⟨0, log⟩) := by
  obtain ⟨writes, solid⟩ := count.writes storable
  have text : row.text? "rows" = some datum.display := by
    rw [ExplainRow.text?, given]
    cases count <;> rfl
  have whole : writtenIn (some datum.display) = datum.display.toList := by
    rw [writtenIn, Option.getD_some, Text.strip_of_solid solid]
  rw [text, ← whole]
  obtain ⟨right, wrong⟩ := rowCount_of_writes storable (whole ▸ writes)
  exact ⟨fun h => ⟨_, right h⟩, fun h => ⟨_, wrong h⟩⟩

theorem estimate_of_isCount (storable : Numeral.IsStorable n) (given : row.get? "rows" = some datum)
    (count : datum.IsCount n) :
    (¬IsMisread datum.display.toList → row.estimate = n) ∧ (IsMisread datum.display.toList → row.estimate = 0) := by
  obtain ⟨right, wrong⟩ := rowCount_of_isCount storable given count
  rw [ExplainRow.estimate]
  constructor
  · intro h
    obtain ⟨log, counted⟩ := right h
    rw [counted]
  · intro h
    obtain ⟨log, counted⟩ := wrong h
    rw [counted]

theorem not_isTooGreat_of_isCount (storable : Numeral.IsStorable n) (given : row.get? "rows" = some datum)
    (count : datum.IsCount n) : ¬IsTooGreat (row.text? "rows") := by
  intro great
  have refused := rowCount_eq_error.mpr ⟨rfl, great⟩
  obtain ⟨right, wrong⟩ := rowCount_of_isCount storable given count
  by_cases misread : IsMisread datum.display.toList
  · obtain ⟨log, counted⟩ := wrong misread
    exact nomatch refused.symm.trans counted
  · obtain ⟨log, counted⟩ := right misread
    exact nomatch refused.symm.trans counted

/-- Only great floating numbers are misread. -/
theorem eq_float_of_isMisread (storable : Numeral.IsStorable n) (count : datum.IsCount n)
    (misread : IsMisread datum.display.toList) : datum = .float (Numeral.floatText n) ∧ 10 ^ 16 ≤ n := by
  cases count with
  | int => exact absurd misread (not_isMisread_toString storable.isReadable)
  | float => exact ⟨rfl, ((Numeral.isFloatText_floatText storable).scaled misread.1).2⟩

theorem exists_highRowEstimate_iff {aliases : AliasMap} {usages : TableUsages} {thresholds : Thresholds}
    {index : Nat} {report : Logged RowReport} {table : String}
    (reported : RowReport.ofRow aliases usages thresholds row index = .ok report)
    (about : row.IsAbout aliases usages table) :
    (∃ warning ∈ report.value.warnings, warning.table = table ∧ warning.type = .highRowEstimate) ↔
      thresholds.high < row.estimate := by
  have isTable : (RowSubject.ofRow index row aliases usages).table = some table := RowSubject.tableOf_eq_some.mpr about
  have told := @RowReport.mem_types_findings (RowSubject.ofRow index row aliases usages) row thresholds row.estimate
    .highRowEstimate
  rw [RowReport.ofRow_value reported, RowReport.ofEstimate, RowReport.warnings]
  dsimp only
  rw [isTable, ← decide_eq_true_iff (p := thresholds.high < row.estimate)]
  refine Iff.trans ?_ told
  simp [RowReport.toWarning]

/-- An integer that can be stored keeps its value in any spelling that is not misread, and counts as zero in any that
    is. So the estimate in a row, be it an integer or a floating number of integral value, is compared with the
    threshold by its value, or as zero where its text is misread. That of an integer never is, and that of a floating
    number only if it is great. -/
theorem estimates_read_by_value (storable : Numeral.IsStorable n) :
    (∀ cell : Option String, Numeral.Writes n (writtenIn cell) →
      (¬IsMisread (writtenIn cell) → rowCount cell = .ok ⟨n, []⟩) ∧
      (IsMisread (writtenIn cell) → rowCount cell = .ok ⟨0, [unreadRecord cell]⟩)) ∧
    (∀ (row : ExplainRow) (datum : Datum), row.get? "rows" = some datum → datum.IsCount n →
      ∀ aliases usages thresholds index, (usages.AreNamed →
          ∃ report, RowReport.ofRow aliases usages thresholds row index = .ok report) ∧
        ∀ report, RowReport.ofRow aliases usages thresholds row index = .ok report →
          ∀ table, row.IsAbout aliases usages table →
            (¬IsMisread datum.display.toList →
              ((∃ warning ∈ report.value.warnings, warning.table = table ∧ warning.type = .highRowEstimate) ↔
                thresholds.high < n)) ∧
            (IsMisread datum.display.toList →
              ((∃ warning ∈ report.value.warnings, warning.table = table ∧ warning.type = .highRowEstimate) ↔
                thresholds.high < 0))) ∧
    ∀ datum : Datum, datum.IsCount n → IsMisread datum.display.toList →
      datum = .float (Numeral.floatText n) ∧ 10 ^ 16 ≤ n := by
  refine ⟨fun cell written => rowCount_of_writes storable written, fun row datum given count => ?rows,
    fun datum count misread => eq_float_of_isMisread storable count misread⟩
  case rows =>
    intro aliases usages thresholds index
    refine ⟨fun named => ?_, fun report reported table about => ?_⟩
    · have fits := not_isTooGreat_of_isCount storable given count
      exact (RowReport.ofRow_total_iff index).mpr (.of_areNamed named fits)
    · obtain ⟨right, wrong⟩ := estimate_of_isCount storable given count
      rw [exists_highRowEstimate_iff reported about]
      exact ⟨fun h => by rw [right h], fun h => by rw [wrong h]⟩

/-- A scan of a table with an estimate. -/
def scanOf (rows : Datum) : ExplainRow := .ofCells [("table", .text "orders"), ("type", .text "ref"), ("rows", rows)]

theorem isStorable_fifteenThousand : Numeral.IsStorable 15000 :=
  ⟨⟨15000 * 2 ^ 39, -39⟩, ⟨by decide, by decide, by decide, .inl (by decide)⟩, by norm_num [Numeral.Binary64.value]⟩

theorem estimates_read_by_value_fifteenThousand :
    rowCount (some " 1.5e4 ") = .ok ⟨15000, []⟩ ∧ ∃ report,
      RowReport.ofRow ∅ (.ofList [(.known "orders", {})]) {} (scanOf (.int 15000)) 0 = .ok report ∧
        ∃ warning ∈ report.value.warnings, warning.table = "orders" ∧ warning.type = .highRowEstimate := by
  obtain ⟨read, raised, -⟩ := estimates_read_by_value isStorable_fifteenThousand
  have written : writtenIn (some " 1.5e4 ") = ['1', '.', '5', 'e', '4'] := by with_unfolding_all rfl
  have numeral : Numeral.decimal? (writtenIn (some " 1.5e4 ")) = some ⟨false, 15, 3⟩ := by with_unfolding_all rfl
  have value : (Numeral.Decimal.mk false 15 3).value = (15000 : Nat) := by
    norm_num [Numeral.Decimal.value, Numeral.Decimal.magnitude]
  have pointed : ¬IsMisread (writtenIn (some " 1.5e4 ")) := fun misread => absurd misread.1 (by simp [written])
  have cell : (scanOf (.int 15000)).get? "rows" = some (.int (15000 : Nat)) := by with_unfolding_all rfl
  obtain ⟨-, told⟩ := raised _ _ cell .int ∅ (.ofList [(.known "orders", {})]) {} 0
  have reported : ∃ report,
      RowReport.ofRow ∅ (.ofList [(.known "orders", {})]) {} (scanOf (.int 15000)) 0 = .ok report :=
    ⟨_, by with_unfolding_all rfl⟩
  obtain ⟨report, reported⟩ := reported
  have about : (scanOf (.int 15000)).IsAbout ∅ (.ofList [(.known "orders", {})]) "orders" :=
    ⟨"orders", by with_unfolding_all rfl, by decide, by with_unfolding_all rfl⟩
  have whole := not_isMisread_toString isStorable_fifteenThousand.isReadable
  exact ⟨(read _ (.exact numeral value)).1 pointed, report, reported,
    ((told report reported "orders" about).1 whole).mpr (by decide)⟩

/-- The text of the floating number `10 ^ 16` is a numeral of it, but counts as zero. -/
theorem ten_quadrillion_misread : Numeral.IsStorable (10 ^ 16) ∧ Numeral.floatText (10 ^ 16) = "1e+16" ∧
    Numeral.Writes (10 ^ 16) (writtenIn (some "1e+16")) ∧
    rowCount (some "1e+16") =
      .ok ⟨0, [⟨.warning, .correlation, "Could not parse row estimate: '1e+16'"⟩]⟩ := by
  have numeral : Numeral.decimal? (writtenIn (some "1e+16")) = some ⟨false, 1, 16⟩ := by with_unfolding_all rfl
  have value : (Numeral.Decimal.mk false 1 16).value = (10 ^ 16 : Nat) := by
    norm_num [Numeral.Decimal.value, Numeral.Decimal.magnitude]
  refine ⟨⟨⟨5 * 10 ^ 15, 1⟩, ⟨by decide, by decide, by decide, .inl (by decide)⟩, ?_⟩, ?_, .exact numeral value, ?_⟩
  · norm_num [Numeral.Binary64.value]
  · with_unfolding_all rfl
  · with_unfolding_all rfl

end SqlAdvisor
