import UniversalModule.Host.Shell.Script
import UniversalModule.Text.Utf8

/-!
Words in the text of a script.
-/

namespace UniversalModule.Host.Shell

inductive Place where
  | bare
  | double
  /-- A document, in which quotes mean nothing. -/
  | document
  /-- The operand of a parameter outside quotes, in which blanks do not end a word. -/
  | operand
  /-- The operand of a parameter inside double quotes, in which double quotes are passed over. -/
  | inner
  /-- A pattern that only blanks end. -/
  | pattern
deriving DecidableEq

def Place.isQuoted (place : Place) : Bool := place == .double || place == .document || place == .inner

def endsWord (c : Char) : Bool := " \t\n;&|()<>".toList.contains c

/-- What is said of a text in which what closes a quote or a bracket is missing. -/
def unclosed (variety : Variety) (closing : Char) : Text :=
  match variety with
  | .bash => "unexpected EOF while looking for matching \x60" ++ [closing, '\'']
  | .dash =>
      if closing = '\x60' then "EOF in backquote substitution"
      else if closing = ')' then "end of file unexpected (expecting \")\")"
      else if closing = '\x7d' then "Missing '\x7d'"
      else "Unterminated quoted string"

def syntaxText (variety : Variety) (message : Text) : Text :=
  match variety with
  | .dash => "Syntax error: " ++ message
  | .bash => message

def upTo? (closing : Char) (text : Text) : Option (Text × Text) :=
  match text.dropWhile (· != closing) with
  | [] => none
  | _ :: rest => some (text.takeWhile (· != closing), rest)

/-- What is passed over as a whole up to the character that closes it. -/
inductive Region where
  | double
  | back
  | script
  /-- With `singles`, single quotes protect what they enclose. -/
  | braces (singles : Bool)
deriving DecidableEq

namespace Region

def opening : Region → Text
  | .double => ['"']
  | .back => ['\x60']
  | .script => ['(']
  | .braces _ => ['\x7b']

def closing : Region → Char
  | .double => '"'
  | .back => '\x60'
  | .script => ')'
  | .braces _ => '\x7d'

def singles : Region → Bool
  | .script => true
  | .braces singles => singles
  | _ => false

end Region

/-- How far a region has been passed over: what was read, in reverse, the brackets that are open in
it, and the choices whose patterns may close brackets that were not opened. -/
structure Passing where
  read : Text
  depth : Nat
  choices : Nat

def Passing.atWord (passing : Passing) : Bool :=
  match passing.read with
  | [] => true
  | c :: _ => endsWord c

def Passing.add (passing : Passing) (text : Text) : Passing :=
  { passing with read := text.reverse ++ passing.read }

/-- What of a script begins or ends a choice or is a comment. -/
def Passing.word (passing : Passing) (text : Text) : Passing × Text :=
  let isEnd (rest : Text) : Bool :=
    match rest with
    | [] => true
    | c :: _ => endsWord c
  match Text.after? "case" text, Text.after? "esac" text, text with
  | some rest, _, _ =>
      if isEnd rest then ({ passing.add "case" with choices := passing.choices + 1 }, rest)
      else (passing, text)
  | _, some rest, _ =>
      if isEnd rest then ({ passing.add "esac" with choices := passing.choices - 1 }, rest)
      else (passing, text)
  | _, _, '#' :: rest =>
      (passing.add ('#' :: rest.takeWhile (· != '\n')), rest.dropWhile (· != '\n'))
  | _, _, _ => (passing, text)

/-- Passes over a region; gives what was in it, in reverse, and the text after it. -/
def passOver? : Nat → Region → Passing → Text → Option (Text × Text)
  | 0, _, _, _ => none
  | fuel + 1, region, passing, text =>
      let (passing, text) :=
        if region = .script ∧ passing.atWord then passing.word text else (passing, text)
      match text with
      | [] => none
      | c :: rest =>
          let nested (start : Text) (inner : Region) (rest : Text) : Option (Text × Text) :=
            match passOver? fuel inner ⟨[], 0, 0⟩ rest with
            | none => none
            | some (passed, rest) =>
                passOver? fuel region
                  { passing with read := inner.closing :: (passed ++ start.reverse ++ passing.read) } rest
          if c = '\\' then
            match rest with
            | [] => none
            | d :: rest => passOver? fuel region (passing.add [c, d]) rest
          else if c = region.closing then
            if 0 < passing.choices ∧ passing.depth = 0 then
              passOver? fuel region (passing.add [c]) rest
            else if passing.depth = 0 then some (passing.read, rest)
            else
              passOver? fuel region { passing.add [c] with depth := passing.depth - 1 } rest
          else if region = .back then passOver? fuel region (passing.add [c]) rest
          else
            match c, rest with
            | '$', '(' :: rest => nested "$(" .script rest
            | '$', '\x7b' :: rest => nested "$\x7b" (.braces region.singles) rest
            | '\x60', rest => nested "\x60" .back rest
            | '"', rest => nested "\"" .double rest
            | '\'', rest =>
                if region.singles then
                  match upTo? '\'' rest with
                  | none => none
                  | some (quoted, rest) =>
                      passOver? fuel region (passing.add ('\'' :: (quoted ++ ['\'']))) rest
                else passOver? fuel region (passing.add [c]) rest
            | c, rest =>
                if region = .script ∧ c = '(' then
                  passOver? fuel region { passing.add [c] with depth := passing.depth + 1 } rest
                else passOver? fuel region (passing.add [c]) rest

/-- The text inside a region that was opened, and the text after it. -/
def inside? (region : Region) (text : Text) : Option (Text × Text) :=
  (passOver? (2 * text.length + 2) region ⟨[], 0, 0⟩ text).map fun (read, rest) => (read.reverse, rest)

def isSpecialName (c : Char) : Bool := "@*#?$!-".toList.contains c

def takeName : Text → Text × Text
  | [] => ([], [])
  | c :: rest =>
      if isSpecialName c then ([c], rest)
      else if c.isDigit then ((c :: rest).takeWhile Char.isDigit, (c :: rest).dropWhile Char.isDigit)
      else if isNameStart c then
        ((c :: rest).takeWhile isNameChar, (c :: rest).dropWhile isNameChar)
      else ([], c :: rest)

def takeIndex (variety : Variety) (text : Text) : Option Text × Text :=
  match variety, text with
  | .bash, '[' :: rest =>
      match upTo? ']' rest with
      | some (index, rest) => (some index, rest)
      | none => (none, text)
  | _, _ => (none, text)

def useOf? : Char → Option Use
  | '-' => some .orElse
  | '=' => some .assign
  | '?' => some .orFail
  | '+' => some .instead
  | _ => none

/-- What stands for a parameter in the second shell alone, from the text behind its name. -/
def furtherUse? : Text → Option (Use × Text)
  | ':' :: operand => some (.slice, operand)
  | '/' :: '/' :: operand => some (.replace .everywhere, operand)
  | '/' :: '#' :: operand => some (.replace .atStart, operand)
  | '/' :: '%' :: operand => some (.replace .atEnd, operand)
  | '/' :: operand => some (.replace .first, operand)
  | ['^', '^'] => some (.inCase true true, [])
  | ['^'] => some (.inCase true false, [])
  | [',', ','] => some (.inCase false true, [])
  | [','] => some (.inCase false false, [])
  | _ => none

/-- What stands for a parameter, from the text behind its name, with its operand. -/
def useAfter (variety : Variety) (text : Text) : Use × Bool × Text :=
  match text with
  | [] => (.value, false, [])
  | '#' :: '#' :: operand => (.dropStart true, false, operand)
  | '#' :: operand => (.dropStart false, false, operand)
  | '%' :: '%' :: operand => (.dropEnd true, false, operand)
  | '%' :: operand => (.dropEnd false, false, operand)
  | c :: rest =>
      let further : Use × Bool × Text :=
        match variety, furtherUse? text with
        | .bash, some (use, operand) => (use, false, operand)
        | _, _ => (.unknown, false, [])
      match useOf? c, c, rest with
      | some use, _, operand => (use, false, operand)
      | none, ':', d :: operand =>
          match useOf? d with
          | some use => (use, true, operand)
          | none => further
      | none, _, _ => further

def bracedParameter (variety : Variety) (line : Nat) (text : Text) : Piece :=
  let unknown := Piece.parameter [] none .unknown false text line
  let counted := takeName text.tail
  let (countedIndex, afterCounted) := takeIndex variety counted.2
  if text.head? = some '#' ∧ text.length ≠ 1 ∧ counted.1.isEmpty = false ∧ afterCounted.isEmpty then
    .parameter counted.1 countedIndex .length false [] line
  else if variety = .bash ∧ text.head? = some '!' ∧ counted.1.isEmpty = false ∧ afterCounted.isEmpty then
    .parameter counted.1 countedIndex (if countedIndex.isSome then .keys else .indirect) false [] line
  else
    let (name, rest) := takeName text
    let (index, rest) := takeIndex variety rest
    if name.isEmpty then unknown
    else
      match useAfter variety rest with
      | (.unknown, _, _) => unknown
      | (use, orEmpty, operand) => .parameter name index use orEmpty operand line

/-- Whether single quotes protect what they enclose in the operand of a braced parameter inside
double quotes: only where the operand is a pattern. -/
def takesPattern (text : Text) : Bool :=
  match (takeName text).2 with
  | c :: _ => c == '#' || c == '%' || c == '/'
  | [] => false

/-- A script between back quotes, without the backslashes that protect it there. -/
def unprotect (inDouble : Bool) : Text → Text
  | [] => []
  | ['\\'] => ['\\']
  | '\\' :: c :: rest =>
      if c = '$' ∨ c = '\\' ∨ c = '\x60' ∨ (inDouble ∧ c = '"') then c :: unprotect inDouble rest
      else '\\' :: c :: unprotect inDouble rest
  | c :: rest => c :: unprotect inDouble rest

/-- Reads what is put in after a dollar sign; nothing is, when none of it follows. -/
def readPiece (variety : Variety) (line : Nat) (isQuoted : Bool) (text : Text) :
    Except Text (Option (Piece × Text)) :=
  let inBrackets (rest : Text) : Except Text (Text × Text) :=
    match inside? .script rest, variety, rest with
    | some found, _, _ => .ok found
    | none, .dash, '(' :: _ => .error "Missing '))'"
    | none, _, _ => .error (unclosed variety ')')
  match text with
  | '(' :: '(' :: rest => do
      let (script, rest) ← inBrackets ('(' :: rest)
      if script.getLast? = some ')' then return some (.number script.tail.dropLast, rest)
      else return some (.output script false line, rest)
  | '(' :: rest => do
      let (script, rest) ← inBrackets rest
      return some (.output script false line, rest)
  | '\x7b' :: rest =>
      match inside? (.braces (isQuoted == false || takesPattern rest)) rest with
      | none => .error (unclosed variety (if isQuoted ∧ variety = .dash then '"' else '\x7d'))
      | some (text, rest) => .ok (some (bracedParameter variety line text, rest))
  | c :: rest =>
      if isSpecialName c ∨ c.isDigit then .ok (some (.parameter [c] none .value false [] line, rest))
      else if isNameStart c then
        .ok (some (.parameter (takeName text).1 none .value false [] line, (takeName text).2))
      else .ok none
  | [] => .ok none

def addText (quoted : Bool) (text : Text) : Word → Word
  | ⟨.text before, wasQuoted⟩ :: parts =>
      if wasQuoted = quoted then ⟨.text (before ++ text), quoted⟩ :: parts
      else ⟨.text text, quoted⟩ :: ⟨.text before, wasQuoted⟩ :: parts
  | parts => ⟨.text text, quoted⟩ :: parts

/-- The characters that a backslash protects inside double quotes. -/
def isProtected (place : Place) (c : Char) : Bool :=
  c == '$' || c == '\\' || c == '\x60' || ((place == .double || place == .inner) && c == '"') ||
    (place == .inner && c == '\x7d')

def hexValue? (c : Char) : Option Nat :=
  if c.isDigit then some (c.toNat - '0'.toNat)
  else if 'a' ≤ c ∧ c ≤ 'f' then some (c.toNat - 'a'.toNat + 10)
  else if 'A' ≤ c ∧ c ≤ 'F' then some (c.toNat - 'A'.toNat + 10)
  else none

/-- A number at the beginning of a text, with at most as many digits as are allowed, and the text
after it. -/
def takeDigits (value? : Char → Option Nat) (base most : Nat) (text : Text) : Nat × Nat × Text :=
  let digits := ((text.take most).map value?).takeWhile Option.isSome
  (digits.length, digits.foldl (fun value digit => base * value + digit.getD 0) 0, text.drop digits.length)

def octalValue? (c : Char) : Option Nat := if '0' ≤ c ∧ c ≤ '7' then some (c.toNat - '0'.toNat) else none

/-- The text that an escape means behind its backslash, and the text after it. -/
def meantByEscape (c : Char) (rest : Text) : Text × Text :=
  let numbered (base most : Nat) (value? : Char → Option Nat) (digits rest : Text) : Text × Text :=
    match takeDigits value? base most digits with
    | (0, _, _) => (['\\', c], rest)
    | (_, value, rest) => ([Char.ofNat value], rest)
  match c with
  | 'a' => (['\x07'], rest)
  | 'b' => (['\x08'], rest)
  | 'e' => (['\x1b'], rest)
  | 'E' => (['\x1b'], rest)
  | 'f' => (['\x0c'], rest)
  | 'n' => (['\n'], rest)
  | 'r' => (['\r'], rest)
  | 't' => (['\t'], rest)
  | 'v' => (['\x0b'], rest)
  | 'x' => numbered 16 2 hexValue? rest rest
  | 'u' => numbered 16 4 hexValue? rest rest
  | 'U' => numbered 16 8 hexValue? rest rest
  | c =>
      if (octalValue? c).isSome then numbered 8 3 octalValue? (c :: rest) rest
      else if "\\'\"?".toList.contains c then ([c], rest)
      else (['\\', c], rest)

/-- The text up to a single quote, in which backslashes begin escapes, and the text after it. -/
def escapedText? : Nat → Text → Text → Option (Text × Text)
  | 0, _, _ => none
  | _, _, [] => none
  | fuel + 1, read, '\\' :: c :: rest =>
      let (meant, rest) := meantByEscape c rest
      escapedText? fuel (read ++ meant) rest
  | fuel + 1, read, c :: rest => if c = '\'' then some (read, rest) else escapedText? fuel (read ++ [c]) rest

/-- Reads parts of a word up to where it ends. They are held in reverse. `lineOf` tells the line in
which a rest of the text begins. -/
def readParts (variety : Variety) (lineOf : Text → Nat) : Nat → Place → Word → Text → Except Text (Word × Text)
  | 0, _, _, _ => .error (unclosed variety '"')
  | _ + 1, place, parts, [] =>
      if place = .double then .error (unclosed variety '"') else .ok (parts, [])
  | fuel + 1, place, parts, c :: rest =>
      let isQuoted := place.isQuoted
      if c = '\\' then
        match rest with
        | [] => .ok (addText true ['\\'] parts, [])
        | '\n' :: rest => readParts variety lineOf fuel place parts rest
        | d :: rest =>
            let meant := if isQuoted ∧ isProtected place d = false then ['\\', d] else [d]
            readParts variety lineOf fuel place (addText true meant parts) rest
      else if c = '$' then do
        match variety, isQuoted, rest with
        | .bash, false, '\'' :: rest =>
            match escapedText? (rest.length + 1) [] rest with
            | none => .error (unclosed variety '\'')
            | some (text, rest) => readParts variety lineOf fuel place (addText true text parts) rest
        | .bash, false, '"' :: rest => readParts variety lineOf fuel place parts ('"' :: rest)
        | _, _, rest =>
            match ← readPiece variety (lineOf rest) isQuoted rest with
            | none => readParts variety lineOf fuel place (addText isQuoted ['$'] parts) rest
            | some (piece, rest) => readParts variety lineOf fuel place (⟨piece, isQuoted⟩ :: parts) rest
      else if c = '\x60' then
        match inside? .back rest with
        | none => .error (unclosed variety '\x60')
        | some (script, rest) =>
            let piece := Piece.output (unprotect (place == .double) script) true (lineOf rest)
            readParts variety lineOf fuel place (⟨piece, isQuoted⟩ :: parts) rest
      else if c = '"' ∧ place ≠ .document then
        if place = .double then .ok (parts, rest)
        else if place = .inner then readParts variety lineOf fuel place parts rest
        else do
          let (quoted, rest) ← readParts variety lineOf fuel .double [] rest
          let quoted := if quoted.isEmpty then [⟨.text [], true⟩] else quoted
          readParts variety lineOf fuel place (quoted ++ parts) rest
      else if isQuoted then readParts variety lineOf fuel place (addText true [c] parts) rest
      else if c = '\'' then
        match upTo? '\'' rest with
        | none => .error (unclosed variety '\'')
        | some (quoted, rest) => readParts variety lineOf fuel place (addText true quoted parts) rest
      else if variety = .bash ∧ place = .bare ∧ c = '<' ∧ rest.head? = some '(' then
        match inside? .script rest.tail with
        | none => .error (unclosed variety ')')
        | some (script, rest) => readParts variety lineOf fuel place (⟨.path script, false⟩ :: parts) rest
      else if place = .bare ∧ endsWord c then .ok (parts, c :: rest)
      else if place = .pattern ∧ (c = ' ' ∨ c = '\t' ∨ c = '\n') then .ok (parts, c :: rest)
      else readParts variety lineOf fuel place (addText false [c] parts) rest

def readWord (variety : Variety) (place : Place) (line : Nat) (text : Text) : Except Text (Word × Text) :=
  let lineOf (rest : Text) : Nat := line + (text.take (text.length - rest.length)).count '\n'
  (readParts variety lineOf (2 * text.length + 2) place [] text).map fun (parts, rest) => (parts.reverse, rest)

end UniversalModule.Host.Shell
