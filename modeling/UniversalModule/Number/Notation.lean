import UniversalModule.Number.Shortest
import UniversalModule.Text.Basic

/-!
Finite floating-point numbers with a given number of digits: with places behind the point, with an
exponent, or in the shorter of the two forms. Every digit is that of the exact value, rounded to
the nearest digit and to the even one of two that are equally near. Signs are left out.
-/

namespace UniversalModule

namespace Binary64

/-- Digits with zeros in front of them, so that there are as many as wanted. -/
def padDigits (count : Nat) (digits : Text) : Text := List.replicate (count - digits.length) '0' ++ digits

def withPoint (whole places : Text) : Text := if places.isEmpty then whole else whole ++ '.' :: places

def fixed (x : Binary64) (places : Nat) : Text :=
  let scaled := nearest (x.numerator * tenTo places) x.denominator
  let digits := padDigits (places + 1) (Nat.toDigits 10 scaled)
  withPoint (digits.take (digits.length - places)) (digits.drop (digits.length - places))

/-- The digits of a number, one more than the places, and the power of ten of the first digit. -/
def leadingDigits (x : Binary64) (places : Nat) : Text × Int :=
  if x.isZero then (List.replicate (places + 1) '0', 0)
  else
    let power := decimalPlaces x.numerator x.denominator - 1
    let raised := (places : Int) - power
    let scaled := nearest (x.numerator * tenTo raised.toNat) (x.denominator * tenTo (-raised).toNat)
    if scaled < tenTo (places + 1) then (Nat.toDigits 10 scaled, power)
    else (Nat.toDigits 10 (scaled / 10), power + 1)

def exponentText (power : Int) : Text :=
  'e' :: (if power < 0 then '-' else '+') :: padDigits 2 (Nat.toDigits 10 power.natAbs)

/-- With one digit before the point and an exponent. -/
def scientific (x : Binary64) (places : Nat) : Text :=
  let (digits, power) := x.leadingDigits places
  withPoint (digits.take 1) (digits.drop 1) ++ exponentText power

/-- Without the zeros at the end of the places. -/
def dropZeros (text : Text) : Text :=
  if text.contains '.' then
    let kept := (text.reverse.dropWhile (· == '0')).reverse
    if kept.getLast? = some '.' then kept.dropLast else kept
  else text

/-- With at most some digits that count, in the form that suits the size of the number. -/
def general (x : Binary64) (keepsZeros : Bool) (count : Nat) : Text :=
  let count := max count 1
  let (digits, power) := x.leadingDigits (count - 1)
  let trim (text : Text) : Text := if keepsZeros then text else dropZeros text
  if power < -4 ∨ (count : Int) ≤ power then
    trim (withPoint (digits.take 1) (digits.drop 1)) ++ exponentText power
  else trim (x.fixed ((count : Int) - 1 - power).toNat)

example : (ofDecimal false 25 (-1)).map (String.ofList <| fixed · 0) = some "2" := by decide +kernel
example : (ofDecimal false 31415 (-4)).map (String.ofList <| fixed · 2) = some "3.14" := by decide +kernel
example : (ofDecimal false 1 20).map (String.ofList <| general · false 6) = some "1e+20" := by decide +kernel
example : (ofDecimal false 1 (-1)).map (String.ofList <| general · false 6) = some "0.1" := by decide +kernel

end Binary64

/-- A decimal at the beginning of a text: its sign, digits and power of ten, and how long it is. -/
structure LeadingDecimal where
  negative : Bool
  digits : Nat
  power : Int
  length : Nat

def valueOfDigits (digits : Text) : Nat :=
  digits.foldl (fun value c => 10 * value + (c.toNat - '0'.toNat)) 0

/-- The exponent at the beginning of a text, and how long it is. -/
def leadingExponent (text : Text) : Int × Nat :=
  match text with
  | e :: rest =>
      if e = 'e' ∨ e = 'E' then
        let (isNegative, signs, rest) :=
          match rest with
          | '-' :: rest => (true, 1, rest)
          | '+' :: rest => (false, 1, rest)
          | rest => (false, 0, rest)
        let digits := rest.takeWhile Char.isDigit
        if digits.isEmpty then (0, 0)
        else
          let value : Int := valueOfDigits digits
          (if isNegative then -value else value, 1 + signs + digits.length)
      else (0, 0)
  | [] => (0, 0)

/-- Reads the decimal at the beginning of a text, if one is there. -/
def leadingDecimal? (text : Text) : Option LeadingDecimal :=
  let (negative, signs, rest) :=
    match text with
    | '-' :: rest => (true, 1, rest)
    | '+' :: rest => (false, 1, rest)
    | rest => (false, 0, rest)
  let whole := rest.takeWhile Char.isDigit
  let (places, pointed) :=
    match rest.drop whole.length with
    | '.' :: rest => (rest.takeWhile Char.isDigit, 1)
    | _ => ([], 0)
  if whole.isEmpty ∧ places.isEmpty then none
  else
    let length := whole.length + pointed + places.length
    let (power, exponentLength) := leadingExponent (rest.drop length)
    some ⟨negative, valueOfDigits (whole ++ places), power - places.length,
      signs + length + exponentLength⟩

end UniversalModule
