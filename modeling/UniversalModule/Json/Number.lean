import UniversalModule.Json.Value

/-!
Numbers as JSON writes them. The significant digits of a number are those that fit sixty-four
bits; later digits before the point only raise the power of ten, later ones after it count for
nothing. The significand is then multiplied or divided by the power of ten, rounding each time.
-/

namespace UniversalModule.Json

/-- The parts of a number: its sign, the digits before and after the point, and the exponent. -/
structure Numeral where
  negative : Bool
  digits : Text
  fraction : Option Text
  exponent : Option (Bool × Text)
deriving DecidableEq

def splitDigits (text : Text) : Text × Text := (text.takeWhile Char.isDigit, text.dropWhile Char.isDigit)

def readDigits (text : Text) : Option (Text × Text) :=
  match splitDigits text with
  | ([], _) => none
  | parts => some parts

def readFraction : Text → Option (Option Text × Text)
  | '.' :: rest => (readDigits rest).map fun (digits, rest) => (some digits, rest)
  | rest => some (none, rest)

def readExponentSign : Text → Bool × Text
  | '+' :: rest => (false, rest)
  | '-' :: rest => (true, rest)
  | rest => (false, rest)

def readExponent : Text → Option (Option (Bool × Text) × Text)
  | [] => some (none, [])
  | c :: rest =>
      if c = 'e' ∨ c = 'E' then
        let (negative, rest) := readExponentSign rest
        (readDigits rest).map fun (digits, rest) => (some (negative, digits), rest)
      else some (none, c :: rest)

def readSign : Text → Bool × Text
  | '-' :: rest => (true, rest)
  | rest => (false, rest)

/-- Reads a number. A zero before the point stands alone. -/
def readNumeral (text : Text) : Option (Numeral × Text) := do
  let (negative, rest) := readSign text
  let (digits, rest) ← readDigits rest
  if digits.head? = some '0' ∧ digits.length ≠ 1 then none
  else
    let (fraction, rest) ← readFraction rest
    let (exponent, rest) ← readExponent rest
    some (⟨negative, digits, fraction, exponent⟩, rest)

def digitValue (c : Char) : Nat := c.toNat - '0'.toNat

def digitsValue (digits : Text) : Nat := digits.foldl (fun value c => 10 * value + digitValue c) 0

/-- Adds digits to a significand as long as it fits sixty-four bits, and counts those left over. -/
def significant (value : Nat) : Text → Nat × Nat
  | [] => (value, 0)
  | c :: rest =>
      let next := 10 * value + digitValue c
      if next < twoTo 64 then significant next rest else (value, rest.length + 1)

def greatestPower : Nat := 308

/-- A number times a power of ten, in steps of at most the greatest one. It is refused when it
grows too large; what grows too small is zero. -/
def scaled : Nat → Binary64 → Int → Option Binary64
  | 0, x, _ => some x
  | steps + 1, x, power =>
      if power.natAbs ≤ greatestPower then do
        let factor ← Binary64.ofDecimal false 1 power.natAbs
        if 0 ≤ power then x.times factor else x.dividedBy factor
      else if x.isZero then some x
      else if 0 ≤ power then none
      else do
        let factor ← Binary64.ofDecimal false 1 greatestPower
        let smaller ← x.dividedBy factor
        scaled steps smaller (power + greatestPower)

namespace Numeral

def isPlain (n : Numeral) : Bool := n.fraction.isNone && n.exponent.isNone

/-- The floating-point number that is read. An exponent that does not fit thirty-two bits is too
large, or the number is zero. -/
def real? (n : Numeral) : Option Binary64 := do
  let (significand, more) := significant 0 n.digits
  let fraction := n.fraction.getD []
  let (significand, unread) := significant significand fraction
  let shift : Int := (more : Int) - (fraction.length - unread : Nat)
  let magnitude ←
    match n.exponent with
    | none => do scaled 8 (← Binary64.ofNat significand) shift
    | some (lowered, digits) =>
        if digitsValue digits < twoTo 31 then
          let power : Int := digitsValue digits
          do scaled 8 (← Binary64.ofNat significand) (if lowered then shift - power else shift + power)
        else if significand ≠ 0 ∧ lowered = false then none
        else some (Binary64.zero false)
  some { magnitude with negative := n.negative }

/-- The whole number that is read: it has neither fraction nor exponent, fits sixty-four bits and
is not the negative zero. -/
def whole? (n : Numeral) : Option Whole :=
  if n.isPlain = false ∨ (n.negative = true ∧ digitsValue n.digits = 0) then none
  else Whole.of? (if n.negative then -(digitsValue n.digits : Int) else digitsValue n.digits)

def value? (n : Numeral) : Option Value :=
  match n.whole? with
  | some whole => some (.whole whole)
  | none => n.real?.map .real

end Numeral

end UniversalModule.Json
