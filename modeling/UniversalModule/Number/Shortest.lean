import UniversalModule.Number.Binary64

/-!
The shortest decimals of floating-point numbers: the fewest digits that lie between the halfway
points to the neighbours, and of those digits the nearest. A halfway point itself belongs to the
number whose significand is even.
-/

namespace UniversalModule

/-- A decimal: its digits times ten to the given power. -/
structure Decimal where
  digits : Nat
  power : Int
deriving DecidableEq

namespace Decimal

/-- Removes the zeros at the end of the digits. -/
def stripZeros : Nat → Nat → Nat × Nat
  | 0, digits => (digits, 0)
  | fuel + 1, digits =>
      if digits ≠ 0 ∧ digits % 10 = 0 then
        let (rest, zeros) := stripZeros fuel (digits / 10)
        (rest, zeros + 1)
      else (digits, 0)

def normal (decimal : Decimal) : Decimal :=
  let (digits, zeros) := stripZeros 400 decimal.digits
  ⟨digits, decimal.power + zeros⟩

end Decimal

namespace Binary64

/-- The interval of values that round to a number, as numerators over four times its
denominator: the lower end, the number itself and the upper end. -/
structure Neighbourhood where
  lower : Nat
  middle : Nat
  upper : Nat
  denominator : Nat
  closed : Bool

def neighbourhood (x : Binary64) : Neighbourhood :=
  let unit := twoTo (x.raisedExponent - 1074)
  let narrow := x.significand = twoTo 52 ∧ 0 < x.raisedExponent
  { lower := 4 * x.numerator - if narrow then unit else 2 * unit
    middle := 4 * x.numerator
    upper := 4 * x.numerator + 2 * unit
    denominator := 4 * x.denominator
    closed := x.significand % 2 = 0 }

def Neighbourhood.contains (around : Neighbourhood) (numerator denominator : Nat) : Bool :=
  let value := numerator * around.denominator
  let lower := around.lower * denominator
  let upper := around.upper * denominator
  if around.closed then lower ≤ value ∧ value ≤ upper else lower < value ∧ value < upper

/-- The number of digits before the decimal point, negative for zeros after it: the least power
of ten above a positive quotient. -/
def decimalPlaces (numerator denominator : Nat) : Int :=
  if denominator ≤ numerator then (Nat.toDigits 10 (numerator / denominator)).length
  else
    let zeros := (Nat.toDigits 10 (denominator / numerator)).length
    if denominator ≤ numerator * tenTo (zeros - 1) then 2 - (zeros : Int) else 1 - (zeros : Int)

/-- The decimal with the given power that lies nearest, if one rounds to the number. -/
def onGrid (around : Neighbourhood) (power : Int) : Option Decimal :=
  let up := tenTo power.toNat
  let down := tenTo (-power).toNat
  let value := around.middle * down
  let step := around.denominator * up
  let below := value / step
  let fits (digits : Nat) := around.contains (digits * up) down
  let twice := 2 * (value % step)
  match fits below, fits (below + 1) with
  | true, true =>
      let upward := step < twice ∨ (step = twice ∧ below % 2 = 1)
      some ⟨if upward then below + 1 else below, power⟩
  | true, false => some ⟨below, power⟩
  | false, true => some ⟨below + 1, power⟩
  | false, false => none

/-- The shortest decimal of the absolute value. Seventeen digits always suffice. -/
def shortest (x : Binary64) : Decimal :=
  if x.isZero then ⟨0, 0⟩
  else
    let around := x.neighbourhood
    let places := decimalPlaces x.numerator x.denominator
    let found := (List.range 17).findSome? fun (extra : Nat) => onGrid around (places - 1 - extra)
    (found.getD ⟨0, 0⟩).normal

example : (ofDecimal false 1 (-1)).map shortest = some ⟨1, -1⟩ := by decide +kernel
example : (ofDecimal false 30000000000000004 (-17)).map shortest = some ⟨30000000000000004, -17⟩ := by
  decide +kernel
example : (ofDecimal false 5 (-324)).map shortest = some ⟨5, -324⟩ := by decide +kernel
example : (ofDecimal false 9007199254740993 0).map shortest = some ⟨9007199254740992, 0⟩ := by
  decide +kernel

end Binary64

end UniversalModule
