import Mathlib
import SqlAdvisor.Datum.Json
import SqlAdvisor.Explain.RowCount

/-! # Integers as they are written

An integer that is written out is read back as itself, unless it has more digits than a numeral may have. No integer in
a JSON document has so many.
-/

namespace SqlAdvisor

namespace Numeral

/-! ## Digits -/

theorem digitValue?_of_isDigit {c : Char} (digit : c.isDigit = true) : Text.digitValue? c = some (c.toNat - 48) := by
  obtain ⟨least, most⟩ : 48 ≤ c.toNat ∧ c.toNat ≤ 57 := Char.isDigit_iff_toNat.mp digit
  rw [Text.digitValue?, Text.digitRanges, List.find?_cons_of_pos (by simp [least, most]), Option.map_some]
  congr 1
  omega

theorem digits?_of_isDigit {cs : List Char} (given : cs ≠ []) (digits : ∀ c ∈ cs, c.isDigit = true) :
    digits? cs = some (cs.map fun c => c.toNat - 48) := by
  fun_induction digits? cs with
  | case1 => exact absurd rfl given
  | case2 c => rw [digitValue?_of_isDigit (digits c List.mem_cons_self)]; rfl
  | case3 c rest ih => exact absurd (digits '_' (by simp)) (by decide)
  | case4 c rest several other ih =>
      obtain ⟨first, others⟩ := List.forall_mem_cons.mp digits
      have some : rest ≠ [] := several
      rw [digitValue?_of_isDigit first, ih some others]
      rfl

theorem digits?_lt {cs : List Char} {digits : List Nat} (read : digits? cs = some digits) : ∀ d ∈ digits, d < 10 := by
  fun_induction digits? cs generalizing digits with
  | case1 => cases read
  | case2 c =>
      obtain ⟨digit, value, rfl⟩ := Option.map_eq_some_iff.mp read
      exact List.forall_mem_singleton.mpr (Text.digitValue?_lt value)
  | case3 c rest ih =>
      obtain ⟨digit, value, read⟩ := Option.bind_eq_some_iff.mp read
      obtain ⟨others, rest, read⟩ := Option.bind_eq_some_iff.mp read
      cases read
      exact List.forall_mem_cons.mpr ⟨Text.digitValue?_lt value, ih rest⟩
  | case4 c rest several other ih =>
      obtain ⟨digit, value, read⟩ := Option.bind_eq_some_iff.mp read
      obtain ⟨others, rest, read⟩ := Option.bind_eq_some_iff.mp read
      cases read
      exact List.forall_mem_cons.mpr ⟨Text.digitValue?_lt value, ih rest⟩

theorem ofDigits_lt {digits : List Nat} (below : ∀ d ∈ digits, d < 10) : ofDigits digits < 10 ^ digits.length := by
  have further (start : Nat) : digits.foldl (fun value digit => 10 * value + digit) start <
      (start + 1) * 10 ^ digits.length := by
    induction digits generalizing start with
    | nil => simp
    | cons d rest ih =>
        obtain ⟨first, others⟩ := List.forall_mem_cons.mp below
        calc
          rest.foldl (fun value digit => 10 * value + digit) (10 * start + d)
              < (10 * start + d + 1) * 10 ^ rest.length := ih others _
          _ ≤ (10 * (start + 1)) * 10 ^ rest.length := Nat.mul_le_mul_right _ (by omega)
          _ = (start + 1) * 10 ^ (rest.length + 1) := by ring
  simpa [ofDigits] using further 0

/-- A number is read back from its decimal digits. -/
theorem digits?_toDigits (n : Nat) : ∃ digits, digits? (Nat.toDigits 10 n) = some digits ∧
    digits.length = (Nat.toDigits 10 n).length ∧ ofDigits digits = n := by
  have isDigit : ∀ c ∈ Nat.toDigits 10 n, c.isDigit = true :=
    fun c mem => Nat.isDigit_of_mem_toDigits (by decide) (by decide) mem
  refine ⟨_, digits?_of_isDigit Nat.toDigits_ne_nil isDigit, List.length_map _, ?_⟩
  rw [ofDigits, List.foldl_map]
  exact Nat.ofDigitChars_ten_toDigits

/-! ## Integers -/

/-- The integer has few enough digits to be read back. -/
def IsReadable (k : Int) : Prop := k.natAbs < 10 ^ digitLimit

theorem splitSign_of_isDigit {cs : List Char} (digits : ∀ c ∈ cs, c.isDigit = true) : splitSign cs = (false, cs) := by
  fun_cases splitSign cs with
  | case1 rest => exact absurd (digits '-' List.mem_cons_self) (by decide)
  | case2 rest => exact absurd (digits '+' List.mem_cons_self) (by decide)
  | case3 => rfl

theorem toList_toString (k : Int) : (toString k).toList =
    (if k < 0 then ['-'] else []) ++ Nat.toDigits 10 k.natAbs := by
  rw [Int.toString_eq_repr]
  cases k with
  | ofNat n =>
      rw [if_neg (by simp)]
      exact Nat.toList_repr
  | negSucc n =>
      rw [if_pos (Int.negSucc_lt_zero n), Int.repr, String.toList_append, Nat.toList_repr]
      rfl

theorem splitSign_toString (k : Int) : splitSign (toString k).toList = (decide (k < 0), Nat.toDigits 10 k.natAbs) := by
  rw [toList_toString]
  by_cases negative : k < 0
  · rw [if_pos negative, decide_eq_true negative]
    rfl
  · rw [if_neg negative, decide_eq_false negative, List.nil_append]
    exact splitSign_of_isDigit fun c mem => Nat.isDigit_of_mem_toDigits (by decide) (by decide) mem

theorem integer?_toString {k : Int} (readable : IsReadable k) : integer? (toString k).toList = some k := by
  obtain ⟨digits, read, length, value⟩ := digits?_toDigits k.natAbs
  have fits : digits.length ≤ digitLimit := by
    rw [length, Nat.length_toDigits_le_iff (by decide) (by decide)]
    exact readable
  rw [integer?, splitSign_toString]
  simp only [read, if_pos fits, value, signed, decide_eq_true_eq]
  split <;> congr 1 <;> omega

theorem isReadable_of_integer? {text : List Char} {k : Int} (read : integer? text = some k) : IsReadable k := by
  rw [integer?] at read
  generalize splitSign text = parts at read
  obtain ⟨negative, run⟩ := parts
  dsimp only at read
  split at read
  · rename_i digits value
    split at read
    · rename_i fits
      cases read
      have magnitude : (signed negative (ofDigits digits)).natAbs = ofDigits digits := by
        cases negative <;> simp [signed]
      rw [IsReadable, magnitude]
      exact (ofDigits_lt (digits?_lt value)).trans_le (Nat.pow_le_pow_right (by decide) fits)
    · cases read
  · cases read

end Numeral

/-- An integer that a JSON document writes is readable. -/
theorem Json.isReadable_of_wordDatum? {word : String} {k : Int} (written : wordDatum? word = some (.int k)) :
    Numeral.IsReadable k := by
  unfold wordDatum? at written
  split at written
  · cases written
  · cases written
  · cases written
  · dsimp only at written
    split at written
    · cases written
    · split at written
      · rename_i value read
        cases written
        exact Numeral.isReadable_of_integer? read
      · obtain ⟨value, -, written⟩ := Option.map_eq_some_iff.mp written
        cases written

/-! ## Estimates -/

theorem mem_toString {k : Int} {c : Char} (mem : c ∈ (toString k).toList) : c = '-' ∨ c.isDigit = true := by
  rw [Numeral.toList_toString] at mem
  rcases List.mem_append.mp mem with sign | digit
  · split at sign
    · exact .inl (List.mem_singleton.mp sign)
    · cases sign
  · exact .inr (Nat.isDigit_of_mem_toDigits (by decide) (by decide) digit)

namespace Text

theorem not_isBlank_of_isDigit {c : Char} (digit : c.isDigit = true) : isBlank c = false := by
  obtain ⟨least, most⟩ : 48 ≤ c.toNat ∧ c.toNat ≤ 57 := Char.isDigit_iff_toNat.mp digit
  simp only [isBlank, inRanges, blankRanges, List.any_cons, List.any_nil, Bool.or_false, Bool.or_eq_false_iff,
    Bool.and_eq_false_iff, decide_eq_false_iff_not]
  omega

theorem strip_of_solid {s : String} (solid : ∀ c ∈ s.toList, isBlank c = false) : strip s = s := by
  have kept {cs : List Char} (solid : ∀ c ∈ cs, isBlank c = false) : cs.dropWhile isBlank = cs := by
    cases cs with
    | nil => rfl
    | cons c rest => rw [List.dropWhile_cons_of_neg (by simp [solid c List.mem_cons_self])]
  have keptEnd : s.toList.reverse.dropWhile isBlank = s.toList.reverse :=
    kept fun c mem => solid c (List.mem_reverse.mp mem)
  rw [strip, kept solid, dropBlankEnd, keptEnd, List.reverse_reverse, String.ofList_toList]

end Text

theorem rowCount_toString {k : Int} (readable : Numeral.IsReadable k) : rowCount (some (toString k)) = .ok ⟨k, []⟩ := by
  have read := Numeral.integer?_toString readable
  have solid : ∀ c ∈ (toString k).toList, Text.isBlank c = false := by
    intro c mem
    rcases mem_toString mem with rfl | digit
    · decide
    · exact Text.not_isBlank_of_isDigit digit
  have whole : ¬(toString k).toList.contains '.' = true := by
    rw [List.contains_iff_mem]
    intro mem
    rcases mem_toString mem with sign | digit
    · exact absurd sign (by decide)
    · exact absurd digit (by decide)
  have given : ¬(toString k).isEmpty = true := by
    rw [String.isEmpty_iff]
    intro empty
    rw [empty] at read
    cases read
  rw [rowCount, Option.getD_some, Text.strip_of_solid solid]
  dsimp only
  rw [if_neg given, rowNumber?, if_neg whole, read]
  rfl

end SqlAdvisor
