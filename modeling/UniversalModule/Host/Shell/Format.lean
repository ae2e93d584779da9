import UniversalModule.Host.Quoting
import UniversalModule.Host.Shell.Arithmetic
import UniversalModule.Host.Shell.Word
import UniversalModule.Number.Notation

/-!
What `echo` and `printf` print. Widths count octets.
-/

namespace UniversalModule.Host.Shell

inductive Speaker where
  | shell (variety : Variety)
  | program
deriving DecidableEq

def Speaker.knowsHex (speaker : Speaker) : Bool := speaker != .shell .dash

def isOctal (c : Char) : Bool := '0' ≤ c && c ≤ '7'

def octalByte (digits : Text) : UInt8 :=
  UInt8.ofNat (digits.foldl (fun value c => 8 * value + (c.toNat - '0'.toNat)) 0)

def letterEscape? : Char → Option UInt8
  | '\\' => some 0x5C
  | 'a' => some 0x07
  | 'b' => some 0x08
  | 'e' => some 0x1B
  | 'f' => some 0x0C
  | 'n' => some 0x0A
  | 'r' => some 0x0D
  | 't' => some 0x09
  | 'v' => some 0x0B
  | _ => none

/-- The bytes that an escape means, and the text after it. A backslash that begins none means
itself. -/
def escape (speaker : Speaker) : Text → Bytes × Text
  | [] => ([0x5C], [])
  | c :: rest =>
      let digits := ((c :: rest).take 3).takeWhile isOctal
      let coded (most : Nat) (bytes : Nat → Bytes) : Bytes × Text :=
        match takeDigits hexValue? 16 most rest with
        | (0, _, _) => ([0x5C], c :: rest)
        | (_, value, rest) => (bytes value, rest)
      if digits.isEmpty = false then ([octalByte digits], (c :: rest).drop digits.length)
      else if c = 'x' ∧ speaker.knowsHex then coded 2 fun value => [UInt8.ofNat value]
      else if c = 'u' ∧ speaker.knowsHex then coded 4 fun value => Text.utf8Of (Char.ofNat value)
      else if c = '"' ∧ speaker.knowsHex then ([0x22], rest)
      else
        match letterEscape? c with
        | some byte => ([byte], rest)
        | none => ([0x5C], c :: rest)

/-- The bytes of a text in which `\c` ends all and a zero may precede octal digits, and whether
it was ended. -/
def unescape (speaker : Speaker) : Nat → Text → Bytes × Bool
  | fuel + 1, '\\' :: c :: rest =>
      if c = 'c' then ([], true)
      else
        let (first, rest) :=
          if c = '0' then
            let digits := (rest.take 3).takeWhile isOctal
            ([octalByte digits], rest.drop digits.length)
          else escape speaker (c :: rest)
        let (bytes, isEnded) := unescape speaker fuel rest
        (first ++ bytes, isEnded)
  | fuel + 1, c :: rest =>
      let (bytes, isEnded) := unescape speaker fuel rest
      (Text.utf8Of c ++ bytes, isEnded)
  | _, _ => ([], false)

/-- What `echo` prints where backslashes begin escapes. -/
def echoEscaped (words : List Text) : Bytes :=
  let (hasNewline, words) :=
    match words with
    | ['-', 'n'] :: words => (false, words)
    | words => (true, words)
  let text := Text.joinWith " " words
  let (bytes, isEnded) := unescape (.shell .dash) text.length text
  if hasNewline ∧ isEnded = false then bytes ++ Text.utf8 ['\n'] else bytes

def isEchoOption : Text → Bool
  | '-' :: letters => !letters.isEmpty && letters.all fun c => c == 'n' || c == 'e' || c == 'E'
  | _ => false

/-- What `echo` prints where backslashes mean themselves unless an option says otherwise. -/
def echoPlain (words : List Text) : Bytes :=
  let letters := (words.takeWhile isEchoOption).flatten.filter (· != '-')
  let text := Text.joinWith " " (words.dropWhile isEchoOption)
  let escapes := (letters.filter (· != 'n')).getLast? = some 'e'
  let (bytes, isEnded) :=
    if escapes then unescape .program text.length text else (Text.utf8 text, false)
  if letters.contains 'n' ∨ isEnded then bytes else bytes ++ Text.utf8 ['\n']

structure Conversion where
  flags : Text
  width : Nat
  precision : Option Nat

namespace Conversion

def pad (conversion : Conversion) (zeros : Bool) (sign digits : Bytes) : Bytes :=
  let missing := conversion.width - (sign.length + digits.length)
  if conversion.flags.contains '-' then sign ++ digits ++ List.replicate missing 0x20
  else if zeros then sign ++ List.replicate missing 0x30 ++ digits
  else List.replicate missing 0x20 ++ sign ++ digits

def text (conversion : Conversion) (bytes : Bytes) : Bytes :=
  conversion.pad false [] (bytes.take (conversion.precision.getD bytes.length))

/-- The sign in front of a number, where a missing one may be asked for. -/
def sign (conversion : Conversion) (isNegative : Bool) : Text :=
  if isNegative then ['-']
  else if conversion.flags.contains '+' then ['+']
  else if conversion.flags.contains ' ' then [' ']
  else []

/-- A number in the base and with the signs that a letter asks for. -/
def number (conversion : Conversion) (letter : Char) (value : Int) : Bytes :=
  let isSigned := letter == 'd' || letter == 'i'
  let amount := if isSigned then value.natAbs else (value % 18446744073709551616).toNat
  let base := if letter = 'o' then 8 else if letter = 'x' ∨ letter = 'X' then 16 else 10
  let digits := Nat.toDigits base amount
  let digits := if letter = 'X' then digits.map Char.toUpper else digits
  let digits := List.replicate (conversion.precision.getD 1 - digits.length) '0' ++ digits
  let sign : Text :=
    if isSigned then conversion.sign (decide (value < 0))
    else if conversion.flags.contains '#' ∧ amount ≠ 0 then
      if letter = 'x' then ['0', 'x'] else if letter = 'X' then ['0', 'X']
      else if letter = 'o' then ['0'] else []
    else []
  conversion.pad (conversion.flags.contains '0' && conversion.precision.isNone) (Text.utf8 sign) (Text.utf8 digits)

/-- A number with places or an exponent, as a letter asks for. -/
def float (conversion : Conversion) (letter : Char) (value : Binary64) : Bytes :=
  let places := conversion.precision.getD 6
  let isCapital := letter.isUpper
  let keepsPoint := conversion.flags.contains '#'
  let digits : Text :=
    match letter.toLower with
    | 'e' => value.scientific places
    | 'g' => value.general keepsPoint places
    | _ => value.fixed places ++ (if keepsPoint ∧ places = 0 then ['.'] else [])
  let digits := if isCapital then digits.map Char.toUpper else digits
  conversion.pad (conversion.flags.contains '0') (Text.utf8 (conversion.sign value.negative)) (Text.utf8 digits)

end Conversion

/-- What is wrong with an argument that is to be a number. -/
inductive NumberFault where
  | notNumber
  | trailing
  | outOfRange
  /-- What follows a character is not looked at. -/
  | ignored (rest : Text)
deriving DecidableEq

def NumberFault.message (speaker : Speaker) (argument : Text) : NumberFault → Text
  | .notNumber =>
      match speaker with
      | .shell .dash => argument ++ ": expected numeric value"
      | .shell .bash => argument ++ ": invalid number"
      | .program => escaped argument ++ ": expected a numeric value"
  | .trailing =>
      match speaker with
      | .shell .dash => argument ++ ": not completely converted"
      | .shell .bash =>
          let kind : Text :=
            if (Text.after? "0x" argument).isSome then "hex "
            else if argument.head? = some '0' ∧ 1 < argument.length then "octal "
            else []
          argument ++ ": invalid " ++ kind ++ "number"
      | .program => escaped argument ++ ": value not completely converted"
  | .outOfRange =>
      match speaker with
      | .shell .dash => argument ++ ": Numerical result out of range"
      | .shell .bash => "warning: " ++ argument ++ ": Numerical result out of range"
      | .program => escaped argument ++ ": Numerical result out of range"
  | .ignored rest =>
      "warning: " ++ rest ++ ": character(s) following character constant have been ignored"

/-- Whether blanks in front of a number are passed over at a character. -/
def isNumberBlank (c : Char) : Bool := c == ' ' || ('\t' ≤ c && c ≤ '\r')

/-- A number that is an argument, and what is wrong with it. Behind a quote, the first byte counts. -/
def numberArgument (speaker : Speaker) (argument : Text) : Int × Option NumberFault :=
  let behindQuote (rest : Text) : Int × Option NumberFault :=
    match rest.utf8, speaker with
    | [], .program => (0, some .notNumber)
    | [], _ => (0, none)
    | [byte], _ => (byte.toNat, none)
    | byte :: others, .program => (byte.toNat, some (.ignored (Text.ofUtf8Lossy others)))
    | byte :: _, _ => (byte.toNat, none)
  match argument with
  | [] => (0, none)
  | '"' :: rest => behindQuote rest
  | '\'' :: rest => behindQuote rest
  | _ =>
      let argument := argument.dropWhile isNumberBlank
      let lengths := (List.range argument.length).reverse.map (· + 1)
      match lengths.findSome? fun length =>
          (Arithmetic.signed? (argument.take length)).map fun value => (value, length) with
      | none => (0, some .notNumber)
      | some (value, length) =>
          if 9223372036854775807 < value then (9223372036854775807, some .outOfRange)
          else if value < -9223372036854775808 then (-9223372036854775808, some .outOfRange)
          else (value, if length < argument.length then some .trailing else none)

/-- A number with places that is an argument, and what is wrong with it. -/
def floatArgument (argument : Text) : Binary64 × Option NumberFault :=
  let argument := argument.dropWhile fun c => c == ' ' || c == '\t'
  match argument, leadingDecimal? argument with
  | [], _ => (.zero false, none)
  | _, none => (.zero false, some .notNumber)
  | argument, some decimal =>
      match Binary64.ofDecimal decimal.negative decimal.digits decimal.power with
      | none => (.zero false, some .outOfRange)
      | some value => (value, if decimal.length < argument.length then some .trailing else none)

/-- What was printed, what is complained of, and whether the rest is given up. -/
structure Printed where
  bytes : Bytes
  complaints : List Text
  isEnded : Bool
  status : Nat

def Printed.nothing : Printed := ⟨[], [], false, 0⟩

def Printed.append (first second : Printed) : Printed :=
  ⟨first.bytes ++ second.bytes, first.complaints ++ second.complaints, second.isEnded,
    max first.status second.status⟩

def Printed.andThen (first : Printed) (second : Unit → Printed) : Printed :=
  if first.isEnded then first else first.append (second ())

def takeCount (format : Text) (arguments : List Text) : Nat × Text × List Text :=
  match format with
  | '*' :: format => ((numberArgument .program (arguments.headD [])).1.toNat, format, arguments.tail)
  | format =>
      let digits := format.takeWhile Char.isDigit
      (digits.foldl (fun value c => 10 * value + (c.toNat - '0'.toNat)) 0,
        format.drop digits.length, arguments)

/-- Reads a conversion after its percent sign, up to its letter. -/
def takeConversion (speaker : Speaker) (format : Text) (arguments : List Text) :
    Conversion × Text × List Text :=
  let isFlag (c : Char) : Bool := "-+ #0".toList.contains c || (c == '\'' && speaker.knowsHex)
  let flags := format.takeWhile isFlag
  let (width, format, arguments) := takeCount (format.dropWhile isFlag) arguments
  let dropSize (format : Text) : Text :=
    if speaker.knowsHex then format.dropWhile fun c => "hlLjzt".toList.contains c else format
  match format with
  | '.' :: format =>
      let (precision, format, arguments) := takeCount format arguments
      (⟨flags, width, some precision⟩, dropSize format, arguments)
  | format => (⟨flags, width, none⟩, dropSize format, arguments)

def isSafe (c : Char) : Bool := c.isAlphanum || "_-./:=@%+,".toList.contains c || 0x80 ≤ c.toNat

def quotedText (speaker : Speaker) (text : Text) : Text :=
  if text.isEmpty then "''"
  else if text.all isSafe then text
  else if text.any fun c => c.toNat < 0x20 then
    "$'" ++ text.flatMap (fun c =>
      if c = '\n' then "\\n".toList else if c = '\t' then "\\t".toList
      else if c = '\'' ∨ c = '\\' then ['\\', c] else [c]) ++ ['\'']
  else if speaker = .program then
    '\'' :: (text.flatMap (fun c => if c = '\'' then "'\\''".toList else [c]) ++ ['\''])
  else text.flatMap fun c => if isSafe c then [c] else ['\\', c]

def toldValue (value : Text) : Text :=
  '\'' :: (value.flatMap (fun c => if c = '\'' then "'\"'\"'".toList else [c]) ++ ['\''])

def convert (speaker : Speaker) (conversion : Conversion) (letter : Char) (argument : Text) : Printed :=
  let status (fault : Option NumberFault) : Nat :=
    match fault with
    | none => 0
    | some .outOfRange => if speaker = .shell .bash then 0 else 1
    | some (.ignored _) => 0
    | some _ => 1
  let complaints (fault : Option NumberFault) : List Text :=
    fault.toList.map (NumberFault.message speaker argument)
  if letter = 's' then { Printed.nothing with bytes := conversion.text argument.utf8 }
  else if letter = 'q' then
    let told := if speaker = .program then quotedIfNeeded argument else quotedText speaker argument
    { Printed.nothing with bytes := conversion.text told.utf8 }
  else if letter = 'b' then
    let (bytes, isEnded) := unescape speaker argument.length argument
    { Printed.nothing with bytes := conversion.text bytes, isEnded }
  else if letter = 'c' then
    { Printed.nothing with bytes := conversion.pad false [] [argument.utf8.headD 0] }
  else if "eEfFgG".toList.contains letter then
    let (value, fault) := floatArgument argument
    { Printed.nothing with
      bytes := conversion.float letter value
      complaints := complaints fault
      status := status fault }
  else
    let (value, fault) := numberArgument speaker argument
    { Printed.nothing with
      bytes := conversion.number letter value
      complaints := complaints fault
      status := status fault }

def conversionLetters (speaker : Speaker) : Text :=
  "sbcdiuoxXeEfFgG" ++ (if speaker.knowsHex then ['q'] else [])

/-- The complaint about a conversion: the text up to the letter that it lacks or that is unknown. -/
def refusedConversion (speaker : Speaker) (text : Text) (letter : Option Char) : Printed :=
  let message : Text :=
    match speaker, letter with
    | .shell .dash, none => "missing format character"
    | .shell .dash, some letter => text ++ letter :: ": invalid directive".toList
    | .shell .bash, none => '\x60' :: (text ++ "': missing format character")
    | .shell .bash, some letter => '\x60' :: letter :: "': invalid format character".toList
    | .program, none => text ++ ": invalid conversion specification"
    | .program, some letter => text ++ letter :: ": invalid conversion specification".toList
  ⟨[], [message], true, if speaker = .shell .dash then 2 else 1⟩

/-- Goes once through a format; gives what is left of the arguments. -/
def formatOnce (speaker : Speaker) : Nat → Text → List Text → Printed × List Text
  | 0, _, arguments => (.nothing, arguments)
  | _ + 1, [], arguments => (.nothing, arguments)
  | fuel + 1, '%' :: '%' :: format, arguments =>
      let (others, arguments) := formatOnce speaker fuel format arguments
      (Printed.append { Printed.nothing with bytes := [0x25] } others, arguments)
  | fuel + 1, '%' :: rest, arguments =>
      let (conversion, format, arguments) := takeConversion speaker rest arguments
      let text := '%' :: rest.take (rest.length - format.length)
      match format with
      | [] => (refusedConversion speaker text none, [])
      | letter :: format =>
          if (conversionLetters speaker).contains letter then
            let printed := convert speaker conversion letter (arguments.headD [])
            if printed.isEnded then (printed, [])
            else
              let (others, arguments) := formatOnce speaker fuel format arguments.tail
              (printed.append others, arguments)
          else (refusedConversion speaker text (some letter), [])
  | fuel + 1, c :: format, arguments =>
      if speaker = .program ∧ c = '\\' ∧ format.head? = some 'c' then
        ({ Printed.nothing with isEnded := true }, [])
      else
        let (bytes, format) := if c = '\\' then escape speaker format else (Text.utf8Of c, format)
        let (others, arguments) := formatOnce speaker fuel format arguments
        (Printed.append { Printed.nothing with bytes } others, arguments)

/-- Goes through a format as long as it takes arguments and there are some. -/
def formatAll (speaker : Speaker) : Nat → Text → List Text → Printed
  | 0, _, _ => .nothing
  | fuel + 1, format, arguments =>
      let (printed, rest) := formatOnce speaker (format.length + 1) format arguments
      if rest.isEmpty ∨ rest.length = arguments.length then printed
      else printed.andThen fun _ => formatAll speaker fuel format rest

def printFormat (variety : Variety) (words : List Text) : Printed :=
  let usage (complaints : List Text) : Printed := ⟨[], complaints, true, 2⟩
  let format (format : Text) (arguments : List Text) : Printed :=
    formatAll (.shell variety) (arguments.length + 1) format arguments
  let refused (text : Text) : Printed :=
    match variety with
    | .dash => usage ["usage: printf format [arg ...]"]
    | .bash => usage [text ++ ": invalid option"]
  match words with
  | [] => refused ['-']
  | ['-', '-'] :: text :: arguments => format text arguments
  | ('-' :: c :: rest) :: _ =>
      if (c = '-' ∧ rest.isEmpty) ∨ variety = .bash then refused ['-', c]
      else usage ["Illegal option -" ++ [c]]
  | text :: arguments => format text arguments

end UniversalModule.Host.Shell
