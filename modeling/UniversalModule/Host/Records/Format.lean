import UniversalModule.Host.Records.Script
import UniversalModule.Host.Records.Value
import UniversalModule.Host.Utility.Work

/-!
Values as text: numbers in the form that a script asks for, and values under a format.
-/

namespace UniversalModule.Host.Records

open Utility (octets bytesOf)

/-- A number in the form of a format with one conversion. -/
def numberText (format : Text) (x : Float) : Text :=
  match wholeText? x with
  | some text => text
  | none =>
      let (before, rest) := (format.takeWhile (· != '%'), (format.dropWhile (· != '%')).tail)
      let (conversion, rest, _) := Shell.takeConversion .program rest []
      match rest with
      | letter :: rest => before ++ octets (convertNumber conversion letter x) ++ rest
      | [] => format

/-- A value as text, with numbers in the form of a format. -/
def Value.toText (format : Text) : Value → Text
  | .unset => []
  | .number x => numberText format x
  | .text chars => chars
  | .input chars => chars

def convertValue (format : Text) (conversion : Shell.Conversion) (letter : Char) (value : Value) : Text :=
  if letter = 's' then octets (conversion.text (bytesOf (value.toText format)))
  else if letter = 'c' then
    let shown : Text :=
      match value with
      | .number x => [Char.ofNat ((integerOf x) % 256).toNat]
      | value => (value.toText format).take 1
    octets (conversion.pad false [] (bytesOf shown))
  else octets (convertNumber conversion letter value.toNumber)

/-- Values under a format; nothing when there are too few of them. -/
def formatted? (form : Text) : Nat → Text → List Value → Option Text
  | 0, _, _ => some []
  | _ + 1, [], _ => some []
  | fuel + 1, '%' :: '%' :: rest, values => (formatted? form fuel rest values).map ('%' :: ·)
  | fuel + 1, '%' :: rest, values =>
      let (conversion, behind, left) :=
        Shell.takeConversion .program rest (values.map (Value.toText form))
      let values := values.drop (values.length - left.length)
      match behind, values with
      | [], _ => some ('%' :: rest)
      | letter :: behind, values =>
          if !"sdciouxXeEfFgG".toList.contains letter then
            (formatted? form fuel behind values).map fun others =>
              '%' :: (rest.take (rest.length - behind.length) ++ others)
          else
            match values with
            | [] => none
            | value :: values =>
                (formatted? form fuel behind values).map (convertValue form conversion letter value ++ ·)
  | fuel + 1, c :: rest, values => (formatted? form fuel rest values).map (c :: ·)

def compareTexts : Text → Text → Ordering
  | [], [] => .eq
  | [], _ :: _ => .lt
  | _ :: _, [] => .gt
  | c :: first, d :: second => if c = d then compareTexts first second else compare c.toNat d.toNat

/-- Whether a relation holds between two values: of numbers, if both count as numbers. -/
def Relation.holds (format : Text) (relation : Relation) (first second : Value) : Bool :=
  if first.isNumeric ∧ second.isNumeric then
    let x := first.toNumber
    let y := second.toNumber
    match relation with
    | .less => x < y
    | .notMore => x ≤ y
    | .equal => x == y
    | .notEqual => x != y
    | .notLess => y ≤ x
    | .more => y < x
  else
    let order := compareTexts (first.toText format) (second.toText format)
    match relation with
    | .less => order == .lt
    | .notMore => order != .gt
    | .equal => order == .eq
    | .notEqual => order != .eq
    | .notLess => order != .lt
    | .more => order == .gt

def Arithmetic.apply (operation : Arithmetic) (x y : Float) : Float :=
  match operation with
  | .plus => x + y
  | .minus => x - y
  | .times => x * y
  | .dividedBy => x / y
  | .remainder => if y == 0 then 0 / 0 else x - y * truncated (x / y)
  | .power => Float.pow x y

end UniversalModule.Host.Records
