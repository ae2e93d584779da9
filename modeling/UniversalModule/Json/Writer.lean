import UniversalModule.Json.Value
import UniversalModule.Number.Shortest

/-!
Values as JSON text. The form for scripts also escapes the two line separators U+2028 and U+2029,
which JSON leaves raw and older engines take for line ends inside a literal.
-/

namespace UniversalModule.Json

inductive Form where
  | data
  | script
deriving DecidableEq

/-- The hexadecimal digit of a value below sixteen, in lower case. -/
def hexDigit (value : Nat) : Char := Nat.digitChar value

def unicodeEscape (code : Nat) : Text :=
  '\\' :: 'u' :: hexDigit (code / 4096 % 16) :: hexDigit (code / 256 % 16) ::
    hexDigit (code / 16 % 16) :: hexDigit (code % 16) :: []

/-- A character as it is written between quotes. -/
def escaped (form : Form) (c : Char) : Text :=
  if c = '"' then ['\\', '"']
  else if c = '\\' then ['\\', '\\']
  else if c = '\n' then ['\\', 'n']
  else if c = '\r' then ['\\', 'r']
  else if c = '\t' then ['\\', 't']
  else if c = '\x08' then ['\\', 'b']
  else if c = '\x0c' then ['\\', 'f']
  else if c.toNat < 0x20 then unicodeEscape c.toNat
  else if form = .script ∧ (c = '\u2028' ∨ c = '\u2029') then unicodeEscape c.toNat
  else [c]

def quoted (form : Form) (text : Text) : Text :=
  '"' :: (text.flatMap (escaped form) ++ ['"'])

/-- A number without fraction, with its sign when it is negative. -/
def wholeText (n : Int) : Text :=
  if n < 0 then '-' :: Text.ofNat n.natAbs else Text.ofNat n.natAbs

/-- Floating-point numbers have at least one digit after the point. From 1e-5 up to below 1e16
they are written out, otherwise with an exponent that shows its sign. -/
def decimalText (decimal : Decimal) : Text :=
  let digits := Text.ofNat decimal.digits
  let point : Int := digits.length + decimal.power
  let zeros (count : Int) : Text := List.replicate count.toNat '0'
  if 0 ≤ decimal.power ∧ point ≤ 16 then digits ++ zeros decimal.power ++ ".0"
  else if 0 < point ∧ point ≤ 16 then
    digits.take point.toNat ++ '.' :: digits.drop point.toNat
  else if -5 < point ∧ point ≤ 0 then "0." ++ zeros (-point) ++ digits
  else
    let lead := if digits.length = 1 then digits else digits.take 1 ++ '.' :: digits.drop 1
    let sign := if point - 1 < 0 then '-' else '+'
    lead ++ 'e' :: sign :: Text.ofNat (point - 1).natAbs

def realText (x : Binary64) : Text :=
  let text := decimalText x.shortest
  if x.negative then '-' :: text else text

namespace Value

mutual

def render (form : Form) : Value → Text
  | .null => "null"
  | .boolean true => "true"
  | .boolean false => "false"
  | .whole n => wholeText n.value
  | .real x => realText x
  | .string text => quoted form text
  | .array items => '[' :: (renderItems form items ++ [']'])
  | .object members => '\x7b' :: (renderMembers form members ++ ['\x7d'])

def renderItems (form : Form) : List Value → Text
  | [] => []
  | [item] => render form item
  | item :: next :: rest => render form item ++ ',' :: renderItems form (next :: rest)

def renderMembers (form : Form) : List (Text × Value) → Text
  | [] => []
  | [(key, value)] => quoted form key ++ ':' :: render form value
  | (key, value) :: next :: rest =>
      quoted form key ++ ':' :: (render form value ++ ',' :: renderMembers form (next :: rest))

end

/-- A line break and two spaces for every level. -/
def breakAt (level : Nat) : Text := '\n' :: List.replicate (2 * level) ' '

mutual

/-- The text of a value with every item and member on a line of its own. -/
def renderPretty (level : Nat) : Value → Text
  | .array [] => "[]"
  | .array (item :: rest) =>
      '[' :: (renderPrettyItems (level + 1) (item :: rest) ++ breakAt level ++ [']'])
  | .object [] => ['\x7b', '\x7d']
  | .object (member :: rest) =>
      '\x7b' :: (renderPrettyMembers (level + 1) (member :: rest) ++ breakAt level ++ ['\x7d'])
  | .null => "null"
  | .boolean true => "true"
  | .boolean false => "false"
  | .whole n => wholeText n.value
  | .real x => realText x
  | .string text => quoted .data text

def renderPrettyItems (level : Nat) : List Value → Text
  | [] => []
  | [item] => breakAt level ++ renderPretty level item
  | item :: next :: rest =>
      breakAt level ++ renderPretty level item ++ ',' :: renderPrettyItems level (next :: rest)

def renderPrettyMembers (level : Nat) : List (Text × Value) → Text
  | [] => []
  | [(key, value)] => breakAt level ++ quoted .data key ++ ':' :: ' ' :: renderPretty level value
  | (key, value) :: next :: rest =>
      breakAt level ++ quoted .data key ++ ':' :: ' ' :: (renderPretty level value ++
        ',' :: renderPrettyMembers level (next :: rest))

end

def literal (value : Value) : Text := value.render .script

end Value

def stringLiteral (text : Text) : Text := quoted .script text

end UniversalModule.Json
