import SqlAdvisor.Numeral.Binary64

/-! # Elapsed time

A clock tells seconds as binary64 numbers. What has elapsed between two readings is told in whole milliseconds.
-/

namespace SqlAdvisor

/-- Two readings of a clock, in ticks of which a power of two make a second. -/
structure Stopwatch where
  ticksPerSecond : Nat := 64
  started : Int := 0
  stopped : Int := 0

namespace Stopwatch

/-- Whether a binary64 number can be so many ticks long. -/
def inRange (clock : Stopwatch) (ticks : Int) : Bool :=
  ticks.natAbs < clock.ticksPerSecond * Nat.pow 2 1024

/-- The whole milliseconds between the readings, without a fraction. Both readings, their difference and its
    product with 1000 are rounded. Dividing by the ticks of a second shifts the digits and keeps them, so that
    it can be left to the end. There is no answer where one of these numbers is too great. -/
def elapsedMs? (clock : Stopwatch) : Option Int :=
  let first := Numeral.Binary64.nearestInt clock.started
  let last := Numeral.Binary64.nearestInt clock.stopped
  let product :=
    Numeral.Binary64.nearestInt (1000 * Numeral.Binary64.nearestInt (last - first))
  if clock.inRange first && clock.inRange last && clock.inRange product then
    some (Int.tdiv product clock.ticksPerSecond)
  else none

end Stopwatch

end SqlAdvisor
