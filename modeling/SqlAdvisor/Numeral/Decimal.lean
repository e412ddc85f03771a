import SqlAdvisor.Numeral.Binary64
import SqlAdvisor.Numeral.Integer

/-! # Decimal numerals

A decimal numeral has a whole part, a fraction or both, and an optional exponent. Its value is kept
exactly; `truncated?` passes it through the nearest binary64 number, as a measured quantity would be
stored, and drops the fraction.
-/

namespace SqlAdvisor.Numeral

/-- The number `± coefficient * 10 ^ exponent`. -/
structure Decimal where
  negative : Bool
  coefficient : Nat
  exponent : Int

/-- The digits of a run that may be empty. -/
def optionalDigits? : List Char → Option (List Nat)
  | [] => some []
  | run => digits? run

/-- Whether a character introduces the exponent of a decimal numeral. -/
def isExponentMark (c : Char) : Bool :=
  c = 'e' || c = 'E'

/-- The exponent written after a mantissa, which is zero when nothing follows. -/
def exponent? : List Char → Option Int
  | [] => some 0
  | _ :: written =>
    let (negative, run) := splitSign written
    (digits? run).map fun digits => signed negative (ofDigits digits)

/-- The value of a decimal numeral: at least one digit stands around the point, which may be missing. -/
def decimal? (text : List Char) : Option Decimal := do
  let (negative, unsigned) := splitSign text
  let mantissa := unsigned.takeWhile fun c => !isExponentMark c
  let exponent ← exponent? (unsigned.dropWhile fun c => !isExponentMark c)
  let whole ← optionalDigits? (mantissa.takeWhile (· ≠ '.'))
  let fraction ← optionalDigits? ((mantissa.dropWhile (· ≠ '.')).drop 1)
  if whole.isEmpty && fraction.isEmpty then none
  else return ⟨negative, ofDigits (whole ++ fraction), exponent - fraction.length⟩

namespace Decimal

/-- The binary64 number nearest to the magnitude; `none` when it is not finite. The first cases are decided by
    size alone: `10 ^ 401` is beyond every binary64 number, and `2 ^ -1076` is nearer to zero than to any
    other. -/
def magnitude? (d : Decimal) : Option Binary64 :=
  if d.coefficient = 0 then some .zero
  else match d.exponent with
  | .ofNat up =>
    if 400 < up then none else Binary64.ofQuotient? (d.coefficient * Nat.pow 10 up) 1
  | .negSucc down =>
    if d.coefficient.log2 + 1077 ≤ 3 * (down + 1) then some .zero
    else Binary64.ofQuotient? d.coefficient (Nat.pow 10 (down + 1))

/-- The nearest binary64 number without its fraction; `none` when it is not finite. -/
def truncated? (d : Decimal) : Option Int :=
  d.magnitude?.map fun x => signed d.negative x.whole

/-- The nearest binary64 number as a multiple of the least positive one; `none` when it is not finite. -/
def quanta? (d : Decimal) : Option Int :=
  d.magnitude?.map fun x => signed d.negative x.quanta

/-- Whether the number is greater than an integer. -/
def exceeds (d : Decimal) (n : Int) : Bool :=
  let value := signed d.negative d.coefficient
  match d.exponent with
  | .ofNat up => n < value * Nat.pow 10 up
  | .negSucc down => n * Nat.pow 10 (down + 1) < value

def isZero (d : Decimal) : Bool :=
  d.coefficient = 0

end Decimal

end SqlAdvisor.Numeral
