import UniversalModule.Number.Power

/-!
Finite floating-point numbers of sixty-four bits, in exact arithmetic on natural numbers. A
magnitude is the rank of its absolute value: zero has rank 0, the least positive number rank 1,
and ranks grow with the numbers. Every operation rounds the exact result once, to the nearest
number and to the even rank of two that are equally near.
-/

namespace UniversalModule

structure Binary64 where
  negative : Bool
  magnitude : Nat
  finite : magnitude < 2047 * twoTo 52
deriving DecidableEq

namespace Binary64

def zero (negative : Bool) : Binary64 := ⟨negative, 0, by decide⟩

def isZero (x : Binary64) : Bool := x.magnitude == 0

/-- A number is its significand times two to the power of its exponent. -/
def significand (x : Binary64) : Nat :=
  if x.magnitude < twoTo 52 then x.magnitude else twoTo 52 + x.magnitude % twoTo 52

/-- The exponent, raised by 1074 so that it is never negative. -/
def raisedExponent (x : Binary64) : Nat := x.magnitude / twoTo 52 - 1

def numerator (x : Binary64) : Nat := x.significand * twoTo (x.raisedExponent - 1074)

def denominator (x : Binary64) : Nat := twoTo (1074 - x.raisedExponent)

/-- The natural number nearest to a quotient; of two, the even one. -/
def nearest (numerator denominator : Nat) : Nat :=
  let quotient := numerator / denominator
  let double := 2 * (numerator % denominator)
  if double < denominator then quotient
  else if denominator < double then quotient + 1
  else quotient + quotient % 2

/-- The raised exponent of the numbers around a positive quotient: the least for which the
significand stays below `2 ^ 53`. -/
def exponentFor (numerator denominator : Nat) : Nat :=
  let guess := numerator.log2 + 1074 - denominator.log2 - 52
  if numerator * twoTo 1074 < denominator * twoTo (guess + 52) then guess - 1 else guess

/-- The number nearest to a quotient, unless it is too large to be finite. -/
def ofRatio (negative : Bool) (numerator denominator : Nat) : Option Binary64 :=
  if numerator = 0 then some (zero negative)
  else
    let exponent := exponentFor numerator denominator
    let rank := exponent * twoTo 52 + nearest (numerator * twoTo 1074) (denominator * twoTo exponent)
    if finite : rank < 2047 * twoTo 52 then some ⟨negative, rank, finite⟩ else none

def ofNat (n : Nat) : Option Binary64 := ofRatio false n 1

def times (x y : Binary64) : Option Binary64 :=
  ofRatio (x.negative != y.negative) (x.numerator * y.numerator) (x.denominator * y.denominator)

def dividedBy (x y : Binary64) : Option Binary64 :=
  ofRatio (x.negative != y.negative) (x.numerator * y.denominator) (x.denominator * y.numerator)

/-- The number nearest to `digits` times ten to the given power. A power that leaves no doubt
is not written out. -/
def ofDecimal (negative : Bool) (digits : Nat) (power : Int) : Option Binary64 :=
  let places : Int := (Nat.toDigits 10 digits).length + power
  if digits = 0 ∨ places < -400 then some (zero negative)
  else if 400 < places then none
  else ofRatio negative (digits * tenTo power.toNat) (tenTo (-power).toNat)

example : (ofNat 1).map (·.magnitude) = some (1023 * twoTo 52) := by decide +kernel
example : (ofDecimal false 5 (-324)).map (·.magnitude) = some 1 := by decide +kernel
example : (ofDecimal false 17976931348623157 292).map (·.magnitude) = some (2047 * twoTo 52 - 1) := by
  decide +kernel
example : ofDecimal false 1 309 = none := by decide +kernel

end Binary64

end UniversalModule
