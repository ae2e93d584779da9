import UniversalModule.Json.Value
import UniversalModule.Text.Utf8
import UniversalModule.Yaml.Node

/-!
The value of a scalar where nothing says what it should be. A plain scalar is null, a truth value
or a number if it reads as one, and a string otherwise; a tag of the core schema demands its kind.
-/

namespace UniversalModule.Yaml

def isNull (text : Text) : Bool :=
  text == "null".toList || text == "Null".toList || text == "NULL".toList || text == "~".toList

def boolean? (text : Text) : Option Bool :=
  if text = "true".toList ∨ text = "True".toList ∨ text = "TRUE".toList then some true
  else if text = "false".toList ∨ text = "False".toList ∨ text = "FALSE".toList then some false
  else none

def natural? (base : Nat) (digits : Text) : Option Nat :=
  if digits.isEmpty then none
  else
    digits.foldlM (fun value c => do
      let digit ← hexValue? c
      if digit < base then some (base * value + digit) else none) 0

/-- Several digits that begin with a zero are no number. -/
def isZeroLed (digits : Text) : Bool :=
  1 < digits.length && digits.head? == some '0' && digits.all Char.isDigit

/-- A number without sign, in decimal or after the sign of its base. -/
def magnitude? (text : Text) : Option Nat :=
  match text with
  | '0' :: 'x' :: digits => natural? 16 digits
  | '0' :: 'o' :: digits => natural? 8 digits
  | '0' :: 'b' :: digits => natural? 2 digits
  | digits => if isZeroLed digits then none else natural? 10 digits

def integer? (text : Text) : Option Int :=
  match text with
  | '+' :: digits => (magnitude? digits).map Int.ofNat
  | '-' :: digits => (magnitude? digits).map fun value => -(value : Int)
  | digits => (magnitude? digits).map Int.ofNat

def exponent? (text : Text) : Option Int :=
  match text with
  | [] => some 0
  | c :: rest =>
      if c ≠ 'e' ∧ c ≠ 'E' then none
      else
        match rest with
        | '+' :: digits => (natural? 10 digits).map Int.ofNat
        | '-' :: digits => (natural? 10 digits).map fun value => -(value : Int)
        | digits => (natural? 10 digits).map Int.ofNat

/-- A number with a fraction or a power of ten; there is a digit before or after the point. -/
def decimal? (negative : Bool) (text : Text) : Option Binary64 := do
  let digits := text.takeWhile Char.isDigit
  let rest := text.dropWhile Char.isDigit
  let (fraction, rest) :=
    match rest with
    | '.' :: rest => (rest.takeWhile Char.isDigit, rest.dropWhile Char.isDigit)
    | rest => ([], rest)
  let significand ← natural? 10 (digits ++ fraction)
  Binary64.ofDecimal negative significand ((← exponent? rest) - fraction.length)

/-- A floating-point number; infinities and what is not a number have no value in JSON. -/
def real? (text : Text) : Option Json.Value :=
  let isInfinite (text : Text) : Bool :=
    text == ".inf".toList || text == ".Inf".toList || text == ".INF".toList
  if text = ".nan".toList ∨ text = ".NaN".toList ∨ text = ".NAN".toList then some .null
  else
    let (negative, unsigned) :=
      match text with
      | '+' :: rest => (false, rest)
      | '-' :: rest => (true, rest)
      | rest => (false, rest)
    if isInfinite unsigned then some .null else (decimal? negative unsigned).map .real

/-- An integer of more than 64 bits is refused; one of more than 128 bits counts as none. -/
def wide (value : Int) : Bool := -(twoTo 127 : Int) ≤ value && value < twoTo 128

/-- The value of a scalar without a tag of its own. -/
def plainValue? (text : Text) : Option Json.Value :=
  let other : Json.Value :=
    if isZeroLed ((Text.after? ['+'] text).getD ((Text.after? ['-'] text).getD text)) then .string text
    else (real? text).getD (.string text)
  if text.isEmpty ∨ isNull text then some .null
  else
    match boolean? text, integer? text with
    | some value, _ => some (.boolean value)
    | none, none => some other
    | none, some value =>
        match Json.Whole.of? value with
        | some whole => some (.whole whole)
        | none => if wide value then none else some other

def booleanTag : Text := "tag:yaml.org,2002:bool"

def integerTag : Text := "tag:yaml.org,2002:int"

def realTag : Text := "tag:yaml.org,2002:float"

def nullTag : Text := "tag:yaml.org,2002:null"

/-- A tag that is not of the core schema names a kind that no value has, if it is text. -/
def isForeign (tag : Option Text) : Bool :=
  match tag with
  | some ('!' :: name) => (Text.ofUtf8? (name.map fun c => UInt8.ofNat c.toNat)).isSome
  | _ => false

def scalarValue? (tag : Option Text) (text : Text) (style : Style) : Option Json.Value :=
  if isForeign tag then none
  else if tag = some booleanTag then (boolean? text).map .boolean
  else if tag = some integerTag then
    (integer? text).bind fun value => (Json.Whole.of? value).map .whole
  else if tag = some realTag then real? text
  else if tag = some nullTag then if isNull text then some .null else none
  else
    let untagged := tag.all fun tag => tag.head? == some '!'
    if untagged ∧ style = .plain then plainValue? text else some (.string text)

end UniversalModule.Yaml
