import UniversalModule.Host.Shell.Format
import UniversalModule.Number.Notation

/-!
Values of scripts that work on records. A text that was read and looks like a number counts as one
where it is compared.
-/

namespace UniversalModule.Host.Records

inductive Value where
  | unset
  | number (value : Float)
  | text (text : Text)
  /-- A text that was read. -/
  | input (text : Text)
deriving Inhabited

def toFloat (x : Binary64) : Float :=
  Float.ofBits (UInt64.ofNat ((if x.negative then twoTo 63 else 0) + x.magnitude))

def ofFloat? (x : Float) : Option Binary64 :=
  let bits := x.toBits.toNat
  let magnitude := bits % twoTo 63
  if finite : magnitude < 2047 * twoTo 52 then some ⟨twoTo 63 ≤ bits, magnitude, finite⟩ else none

def truncated (x : Float) : Float := if x < 0 then x.ceil else x.floor

/-- The integer part of a number, kept inside sixty-four bits. -/
def integerOf (x : Float) : Int :=
  match ofFloat? x with
  | some exact =>
      let amount := exact.numerator / exact.denominator
      if exact.negative then -(min amount (twoTo 63) : Nat) else (min amount (twoTo 63 - 1) : Nat)
  | none => if 0 < x then twoTo 63 - 1 else -(twoTo 63 : Nat)

def isSpace (c : Char) : Bool := c == ' ' || ('\t' ≤ c && c ≤ '\r')

def ofDecimal (decimal : LeadingDecimal) : Float :=
  match Binary64.ofDecimal decimal.negative decimal.digits decimal.power with
  | some x => toFloat x
  | none => if decimal.negative then -(1 / 0) else 1 / 0

/-- The number at the beginning of a text, which is 0 if none is there. -/
def numberOf (text : Text) : Float :=
  match leadingDecimal? (text.dropWhile isSpace) with
  | some decimal => ofDecimal decimal
  | none => 0

def looksNumeric (text : Text) : Bool :=
  let rest := text.dropWhile isSpace
  match leadingDecimal? rest with
  | some decimal => (rest.drop decimal.length).all isSpace
  | none => false

/-- The name of a number that is not finite. What is no number has a sign. -/
def nameOfInfinite (x : Float) : Text :=
  if x.isNaN then "-nan" else if x < 0 then "-inf" else "inf"

def convertNumber (conversion : Shell.Conversion) (letter : Char) (x : Float) : Bytes :=
  match ofFloat? x with
  | some exact =>
      if "eEfFgG".toList.contains letter then conversion.float letter exact
      else conversion.number letter (integerOf x)
  | none => conversion.text (nameOfInfinite x).utf8

/-- The text of a whole number, if it is one that can be told exactly. -/
def wholeText? (x : Float) : Option Text :=
  match ofFloat? x with
  | none => some (nameOfInfinite x)
  | some exact =>
      let amount := exact.numerator / exact.denominator
      if exact.numerator % exact.denominator = 0 ∧ amount ≤ twoTo 64 then
        let digits := Text.ofNat (min amount (twoTo 64 - 1))
        some (if exact.negative ∧ amount ≠ 0 then '-' :: digits else digits)
      else none

/-- The complaint about an expression that cannot be read. -/
def regexProblem (message source : Text) : Text :=
  let reason : Text := if "Unmatched (".toList.isPrefixOf message then "missing ')'" else "missing operand"
  "regular expression compile failed (" ++ reason ++ ")\n" ++ source

namespace Value

def toNumber : Value → Float
  | .unset => 0
  | .number value => value
  | .text chars => numberOf chars
  | .input chars => numberOf chars

def isNumeric : Value → Bool
  | .unset => true
  | .number _ => true
  | .text _ => false
  | .input chars => looksNumeric chars

def isTrue : Value → Bool
  | .unset => false
  | .number value => value != 0
  | .text chars => !chars.isEmpty
  | .input chars => if looksNumeric chars then numberOf chars != 0 else !chars.isEmpty

def ofBool (value : Bool) : Value := .number (if value then 1 else 0)

def ofNat (value : Nat) : Value := .number (Float.ofNat value)

end Value

end UniversalModule.Host.Records
