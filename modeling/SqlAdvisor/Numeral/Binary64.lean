/-! # Rounding to binary64

Measured quantities are stored as binary64 numbers, which have 53 significant binary digits. A quantity goes
to the nearest of them, and halfway between two to the one that ends in zero.
-/

namespace SqlAdvisor.Numeral

/-- The integer nearest to a quotient; halfway between two, the even one. -/
def roundHalfEven (numerator denominator : Nat) : Nat :=
  let quotient := numerator / denominator
  let rest := numerator % denominator
  if 2 * rest < denominator then quotient
  else if denominator < 2 * rest then quotient + 1
  else quotient + quotient % 2

/-- The power of a base to a positive exponent, and one for any other exponent. -/
def powerUp (base : Nat) (exponent : Int) : Nat := Nat.pow base exponent.toNat

/-- The binary64 number `mantissa * 2 ^ exponent`, where the mantissa has 53 binary digits, or fewer if the
    exponent is the least one. -/
structure Binary64 where
  mantissa : Nat
  exponent : Int

namespace Binary64

def leastExponent : Int := -1074

def greatestExponent : Int := 971

def zero : Binary64 := ⟨0, leastExponent⟩

def numerator (x : Binary64) : Nat := x.mantissa * powerUp 2 x.exponent

def denominator (x : Binary64) : Nat := powerUp 2 (-x.exponent)

/-- How often the least positive number fits into one. -/
def quantaPerUnit : Nat := powerUp 2 (-leastExponent)

/-- The number as a multiple of the least positive one. -/
def quanta (x : Binary64) : Nat := x.mantissa * powerUp 2 (x.exponent - leastExponent)

def whole (x : Binary64) : Nat := x.numerator / x.denominator

/-- The number nearest to a positive quotient, without regard to the greatest exponent. -/
def ofQuotient (numerator denominator : Nat) : Binary64 :=
  let size : Int := numerator.log2 - denominator.log2
  let reached := denominator * powerUp 2 size ≤ numerator * powerUp 2 (-size)
  let exponent := max ((if reached then size else size - 1) - 52) leastExponent
  let mantissa :=
    roundHalfEven (numerator * powerUp 2 (-exponent)) (denominator * powerUp 2 exponent)
  if mantissa = Nat.pow 2 53 then ⟨Nat.pow 2 52, exponent + 1⟩ else ⟨mantissa, exponent⟩

/-- The number nearest to a positive quotient; `none` beyond the greatest one. -/
def ofQuotient? (numerator denominator : Nat) : Option Binary64 :=
  let x := ofQuotient numerator denominator
  if x.exponent ≤ greatestExponent then some x else none

/-- The integer with 53 significant binary digits that is nearest to an integer. -/
def nearestInt (n : Int) : Int :=
  let unit := Nat.pow 2 (n.natAbs.log2 - 52)
  n.sign * (roundHalfEven n.natAbs unit * unit : Nat)

end Binary64

end SqlAdvisor.Numeral
