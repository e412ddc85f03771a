import SqlAdvisor.Numeral.Decimal

/-! # The shortest text of a binary64 number

A binary64 number stands for all quantities that round to it. It is written as the one of them with the fewest
digits; among several of these as the one nearest to it, and halfway between two as the even one.
-/

namespace SqlAdvisor.Numeral

/-- A run of decimal digits, of which the first `point` stand before the decimal point. -/
structure DecimalDigits where
  digits : List Char
  point : Int

namespace Binary64

/-- How the quantity `digits * 10 ^ scale` compares with `quarters` quarters of the last binary digit. -/
def compareQuarters (x : Binary64) (digits : Nat) (scale : Int) (quarters : Nat) : Ordering :=
  compare (4 * digits * powerUp 10 scale * x.denominator)
    (quarters * powerUp 2 x.exponent * powerUp 10 (-scale))

/-- Whether the quantity `digits * 10 ^ scale` rounds to the number. The halves of the gaps to both neighbours
    belong to an even mantissa; below a power of two the gap is half as wide. -/
def standsFor (x : Binary64) (digits : Nat) (scale : Int) : Bool :=
  let narrow := x.mantissa = Nat.pow 2 52 && leastExponent < x.exponent
  let low := x.compareQuarters digits scale (4 * x.mantissa - if narrow then 1 else 2)
  let high := x.compareQuarters digits scale (4 * x.mantissa + 2)
  let even := x.mantissa % 2 = 0
  (low = .gt || even && low = .eq) && (high = .lt || even && high = .eq)

/-- How many digits stand before the decimal point; the zeros behind it count negative. -/
def pointOf (x : Binary64) : Int :=
  if x.denominator ≤ x.numerator then (Nat.toDigits 10 (x.numerator / x.denominator)).length
  else 1 - (Nat.toDigits 10 (x.denominator / x.numerator)).length

/-- The two neighbouring integers between which the number lies, measured in units of `10 ^ scale`; the nearer
    one, and of two as near the even one, is first. -/
def neighbours (x : Binary64) (scale : Int) : List Nat :=
  let dividend := x.numerator * powerUp 10 (-scale)
  let divisor := x.denominator * powerUp 10 scale
  let below := dividend / divisor
  if roundHalfEven dividend divisor = below then [below, below + 1] else [below + 1, below]

/-- The quantity `n * 10 ^ scale` that stands for the number with so many digits, if there is one. -/
def withDigits? (x : Binary64) (count : Nat) : Option (Nat × Int) :=
  let scale := x.pointOf - count
  ((x.neighbours scale).find? fun n => x.standsFor n scale).map (·, scale)

/-- The shortest digits of a positive number. Seventeen always suffice; the exact value would come after them. -/
def shortest (x : Binary64) : DecimalDigits :=
  let exact := (x.numerator * powerUp 5 (-x.exponent), min x.exponent 0)
  let (found, scale) :=
    ((List.range 17).findSome? fun fewer => x.withDigits? (fewer + 1)).getD exact
  let digits := Nat.toDigits 10 found
  ⟨(digits.reverse.dropWhile (· = '0')).reverse, digits.length + scale⟩

end Binary64

namespace DecimalDigits

/-- An exponent, with its sign and at least two digits. -/
def exponentText (exponent : Int) : String :=
  let digits := toString exponent.natAbs
  (if exponent < 0 then "e-" else "e+") ++ (if digits.length < 2 then "0" else "") ++ digits

/-- The digits as text: with an exponent from `10 ^ 16` on and below `10 ^ -4`, else around the point. -/
def text (d : DecimalDigits) : String :=
  let zeros (count : Int) := List.replicate count.toNat '0'
  if d.point ≤ -4 || 16 < d.point then
    let rest := d.digits.drop 1
    String.ofList (d.digits.take 1 ++ (if rest.isEmpty then [] else '.' :: rest)) ++
      exponentText (d.point - 1)
  else
    let whole := d.digits.take d.point.toNat ++ zeros (d.point - d.digits.length)
    let fraction := zeros (-d.point) ++ d.digits.drop d.point.toNat
    let orZero (digits : List Char) := if digits.isEmpty then ['0'] else digits
    String.ofList (orZero whole ++ '.' :: orZero fraction)

end DecimalDigits

namespace Decimal

/-- The shortest text of the nearest binary64 number. -/
def shortestText (d : Decimal) : String :=
  (if d.negative then "-" else "") ++
    match d.magnitude? with
    | some x => if x.mantissa = 0 then "0.0" else x.shortest.text
    | none => "inf"

end Decimal

end SqlAdvisor.Numeral
