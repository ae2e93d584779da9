import UniversalModule.Host.Records.Script
import UniversalModule.Host.Shell.Format

/-!
The tokens of a script that works on records. A slash begins an expression in slashes where a value
may begin, and divides elsewhere.
-/

namespace UniversalModule.Host.Records

inductive Token where
  | number (source : Text)
  | text (text : Text)
  | regex (source : Text)
  | name (name : Text)
  /-- A name with an opening bracket directly behind it. -/
  | caller (name : Text)
  | builtin (name : Text)
  | keyword (word : Text)
  | sign (sign : Text)
  | newLine
deriving DecidableEq, Inhabited

structure Located where
  token : Token
  line : Nat
deriving Inhabited

structure Fault where
  complaints : List Text

def faultAt (line : Nat) (message : Text) : Fault := ⟨["line " ++ Text.ofNat line ++ ": " ++ message]⟩

def keywords : List Text :=
  Text.splitAt ' ' <| String.toList <|
    "BEGIN END function if else while for do break continue next nextfile exit return delete in " ++
      "getline print printf"

def builtins : List Text :=
  Text.splitAt ' ' <| String.toList <|
    "length substr index split sub gsub match sprintf sin cos atan2 exp log sqrt int rand srand " ++
      "tolower toupper system close fflush"

def isNameStart (c : Char) : Bool := c.isAlpha || c == '_'

def isNameChar (c : Char) : Bool := c.isAlphanum || c == '_'

def signs : List Text :=
  Text.splitAt ' ' <| String.toList <|
    "&& || == <= >= != ++ -- += -= *= /= %= ^= >> \x7b \x7d ( ) [ ] ; , + - * / % ^ ! > < | ? : ~ $ ="

def startsValue : Option Token → Bool
  | some (.number _) => false
  | some (.text _) => false
  | some (.regex _) => false
  | some (.name _) => false
  | some (.builtin _) => false
  | some (.sign sign) => !([")", "]", "$", "++", "--"] : List Text).contains sign
  | _ => true

/-- The digits of a base at the beginning of a text, at most some of them. -/
def digitsAt (most : Nat) (isDigit : Char → Bool) (text : Text) : Text := (text.take most).takeWhile isDigit

def isHexDigit (c : Char) : Bool := c.isDigit || ('a' ≤ c && c ≤ 'f') || ('A' ≤ c && c ≤ 'F')

def digitValue (c : Char) : Nat :=
  if c.isDigit then c.toNat - '0'.toNat else c.toLower.toNat - 'a'.toNat + 10

def valueIn (base : Nat) (digits : Text) : Nat := digits.foldl (fun value c => base * value + digitValue c) 0

def escaped (text : Text) : Text × Text :=
  match text with
  | [] => (['\\'], [])
  | c :: rest =>
      if c = '"' ∨ c = '\\' then ([c], rest)
      else if c = '/' then ("\\/", rest)
      else if Shell.isOctal c then
        let digits := digitsAt 3 Shell.isOctal text
        ([Char.ofNat (valueIn 8 digits % 256)], text.drop digits.length)
      else
        let digits := if c = 'x' then digitsAt 2 isHexDigit rest else []
        if !digits.isEmpty then ([Char.ofNat (valueIn 16 digits)], rest.drop digits.length)
        else
          match c with
          | 'a' => (['\x07'], rest)
          | 'b' => (['\x08'], rest)
          | 'f' => (['\x0c'], rest)
          | 'n' => (['\n'], rest)
          | 'r' => (['\r'], rest)
          | 't' => (['\t'], rest)
          | 'v' => (['\x0b'], rest)
          | c => (['\\', c], rest)

def unescaped : Nat → Text → Text
  | 0, text => text
  | _ + 1, [] => []
  | fuel + 1, '\\' :: rest =>
      let (meant, rest) := escaped rest
      meant ++ unescaped fuel rest
  | fuel + 1, c :: rest => c :: unescaped fuel rest

/-- The text up to the sign that closes it on its line, where a backslash protects. -/
def upToClosing? (sign : Char) : Text → Option (Text × Text)
  | [] => none
  | '\n' :: _ => none
  | ['\\'] => none
  | '\\' :: '\n' :: rest => upToClosing? sign rest
  | '\\' :: c :: rest => (upToClosing? sign rest).map fun (text, rest) => ('\\' :: c :: text, rest)
  | c :: rest =>
      if c = sign then some ([], rest)
      else (upToClosing? sign rest).map fun (text, rest) => (c :: text, rest)

/-- The beginning of a text on its line, as it is told when the text does not end. -/
def runaway (text : Text) : Text := (text.takeWhile (· != '\n')).take 11 ++ " ..."

def numberAt (text : Text) : Text :=
  match leadingDecimal? text with
  | some decimal => text.take decimal.length
  | none => []

def tokens : Nat → Nat → Option Token → Text → Except Fault (List Located)
  | 0, _, _, _ => .ok []
  | _ + 1, _, _, [] => .ok []
  | fuel + 1, line, last, c :: rest =>
      let goOn (token : Token) (lines : Nat) (rest : Text) : Except Fault (List Located) := do
        .ok (⟨token, line⟩ :: (← tokens fuel (line + lines) (some token) rest))
      if c = '\n' then goOn .newLine 1 rest
      else if c = ' ' ∨ c = '\t' ∨ c = '\r' then tokens fuel line last rest
      else if c = '#' then tokens fuel line last (rest.dropWhile (· != '\n'))
      else if c = '\\' ∧ rest.head? = some '\n' then tokens fuel (line + 1) last rest.tail
      else if c = '"' then
        match upToClosing? '"' rest with
        | none => .error (faultAt line ("runaway string constant " ++ runaway (c :: rest)))
        | some (text, rest) => goOn (.text (unescaped (text.length + 1) text)) 0 rest
      else if c = '/' ∧ startsValue last then
        match upToClosing? '/' rest with
        | none => .error (faultAt line ("runaway regular expression " ++ runaway (c :: rest)))
        | some (source, rest) => goOn (.regex source) 0 rest
      else if isNameStart c then
        let name := c :: rest.takeWhile isNameChar
        let rest := rest.dropWhile isNameChar
        if keywords.contains name then goOn (.keyword name) 0 rest
        else if builtins.contains name then goOn (.builtin name) 0 rest
        else if rest.head? = some '(' then goOn (.caller name) 0 rest
        else goOn (.name name) 0 rest
      else
        let number := if c = '+' ∨ c = '-' then [] else numberAt (c :: rest)
        if !number.isEmpty then goOn (.number number) 0 ((c :: rest).drop number.length)
        else
          match signs.find? fun sign => sign.isPrefixOf (c :: rest) with
          | some sign => goOn (.sign sign) 0 ((c :: rest).drop sign.length)
          | none => .error ⟨[Text.ofNat line ++ ": unexpected character '" ++ [c, '\'']]⟩

def Token.source : Token → Text
  | .number source => source
  | .text source => source
  | .regex source => '/' :: (source ++ ['/'])
  | .name source => source
  | .caller source => source
  | .builtin source => source
  | .keyword source => source
  | .sign source => source
  | .newLine => "end of line"

end UniversalModule.Host.Records
