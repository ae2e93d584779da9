import UniversalModule.Host.Regex.Reader
import UniversalModule.Host.Utility.Work
import UniversalModule.Number.Power

/-!
Programs that count and work out expressions.
-/

namespace UniversalModule.Host.Utility

variable {m : Type → Type} [Monad m] (call : Call m)

/-- A decimal number: its digits as a whole number, and how many of them are places. -/
structure Decimal where
  value : Int
  places : Nat

def Decimal.scaled (decimal : Decimal) (places : Nat) : Int :=
  decimal.value * tenTo (places - decimal.places)

def readDecimal (text : Text) : Option Decimal :=
  let (isNegative, rest) :=
    match text with
    | '-' :: rest => (true, rest)
    | '+' :: rest => (false, rest)
    | rest => (false, rest)
  let whole := rest.takeWhile Char.isDigit
  let places? : Option Text :=
    match rest.drop whole.length with
    | [] => some []
    | '.' :: places => if places.all Char.isDigit then some places else none
    | _ => none
  places?.bind fun places =>
    if whole.isEmpty ∧ places.isEmpty then none
    else
      let number : Nat := (whole ++ places).foldl (fun value c => 10 * value + (c.toNat - '0'.toNat)) 0
      some ⟨if isNegative then -(number : Int) else number, places.length⟩

def textOfScaled (value : Int) (places : Nat) : Text :=
  let digits := Text.ofNat value.natAbs
  let digits := List.replicate (places + 1 - digits.length) '0' ++ digits
  let sign : Text := if value < 0 then ['-'] else []
  if places = 0 then sign ++ digits
  else sign ++ digits.take (digits.length - places) ++ '.' :: digits.drop (digits.length - places)

def rowLimit : Nat := 1000000

def numbersFrom (first step last : Int) : List Int :=
  let count : Int := if step = 0 then rowLimit else Int.fdiv (last - first) step + 1
  let isEmpty := (0 < step ∧ last < first) ∨ (step < 0 ∧ first < last)
  if isEmpty then []
  else (List.range (min count.toNat rowLimit)).map fun (index : Nat) => first + step * (index : Int)

/-- A number with zeros in front of it, so that it has a width. -/
def withZeros (width : Nat) (text : Text) : Text :=
  let zeros := List.replicate (width - text.length) '0'
  match text with
  | '-' :: digits => '-' :: (zeros ++ digits)
  | digits => zeros ++ digits

/-- Whether an argument that begins with a sign is a number. -/
def isNumberWord : Text → Bool
  | '-' :: c :: _ => c.isDigit || c == '.'
  | _ => false

def seq : Work m Unit := do
  let options := call.arguments.takeWhile fun argument => !isNumberWord argument
  let rest := call.arguments.drop options.length
  let (given, operands) ← call.optionsWith false 1
    "f,format= s,separator= w,equal-width" options
  let operands := operands ++ rest
  let numbers ← operands.mapM fun operand => do
    match readDecimal operand with
    | some decimal => return decimal
    | none => call.fail 1 ("invalid floating point argument: " ++ escaped operand ++ call.helpLine)
  let one : Decimal := ⟨1, 0⟩
  let (first, step, last) ←
    match numbers with
    | [] => call.fail 1 ("missing operand" ++ call.helpLine)
    | [last] => pure (one, one, last)
    | [first, last] => pure (first, one, last)
    | [first, step, last] => pure (first, step, last)
    | _ => call.fail 1 ("extra operand " ++ escaped (operands.getD 3 []) ++ call.helpLine)
  if step.value = 0 then
    call.fail 1 ("invalid Zero increment value: " ++ escaped (operands.getD 1 []) ++ call.helpLine)
  let shown := max first.places step.places
  let places := max shown last.places
  let values := numbersFrom (first.scaled places) (step.scaled places) (last.scaled places)
  let texts := values.map fun value => textOfScaled (value / tenTo (places - shown)) shown
  let width := texts.foldl (fun width text => max width text.length) 0
  let texts := if isGiven given ['w'] then texts.map (withZeros width) else texts
  let separator := (valueGiven? given ['s']).getD ['\n']
  match valueGiven? given ['f'], texts with
  | _, [] => return ()
  | none, texts => printText (Text.joinWith separator texts ++ ['\n'])
  | some format, texts => do
      let told := texts.map fun text => (Shell.formatAll .program 2 format [text]).bytes
      print ((told.intersperse separator.utf8).flatten ++ [0x0A])

/-- The prime factors of a number from one divisor on, the least first. -/
def factorsFrom : Nat → Nat → Nat → List Nat
  | 0, _, _ => []
  | fuel + 1, divisor, number =>
      if number < 2 then []
      else if number < divisor * divisor then [number]
      else if number % divisor = 0 then divisor :: factorsFrom fuel divisor (number / divisor)
      else factorsFrom fuel (divisor + 1) number

def factor : Work m Unit := do
  let (_, operands) ← call.options 1 "h,exponents"
  let isBlank (c : Char) : Bool := c == ' ' || c == '\n' || c == '\t'
  let words ←
    if operands.isEmpty then
      let input := octets (← takeInput)
      pure ((input.splitBy fun c d => isBlank c == isBlank d).filter fun run => !run.any isBlank)
    else pure operands
  let numbers ← words.filterMapM fun word => do
    match digits? (if word.head? = some '+' then word.tail else word) with
    | some number => return some number
    | none => do
        call.complain 1 (escaped word ++ " is not a valid positive integer")
        return none
  numbers.forM fun number =>
    let factors := factorsFrom (Nat.sqrt number + Nat.log2 number + 2) 2 number
    printLine (Text.ofNat number ++ ':' :: factors.flatMap fun factor => ' ' :: Text.ofNat factor)

inductive ExpressionFault where
  | missingAfter (word : Text)
  | unexpected (word : Text)
  | closingExpected (word : Text)
  | notInteger
  | divisionByZero
  | pattern (message : Text)

def ExpressionFault.message : ExpressionFault → Text
  | .missingAfter word => "syntax error: missing argument after " ++ escaped word
  | .unexpected word => "syntax error: unexpected argument " ++ escaped word
  | .closingExpected word => "syntax error: expecting ')' after " ++ escaped word
  | .notInteger => "non-integer argument"
  | .divisionByZero => "division by zero"
  | .pattern message => message

def integer? (text : Text) : Option Int :=
  match text with
  | '-' :: rest => (digits? rest).map fun (number : Nat) => -(number : Int)
  | text => (digits? text).map fun (number : Nat) => (number : Int)

def textOfInteger (value : Int) : Text := (if value < 0 then ['-'] else []) ++ Text.ofNat value.natAbs

def isNull (text : Text) : Bool := text.isEmpty || integer? text == some 0

/-- What a pattern fits at the beginning of a text: its group, or how long the fit is. -/
def fitOf (text pattern : Text) : Except ExpressionFault Text :=
  match Regex.read .basic (octetsOf pattern) with
  | .error message => .error (.pattern message)
  | .ok regex =>
      let hasGroup := (pattern.zip pattern.tail).contains ('\\', '(')
      let subject : Regex.Subject := ⟨(octetsOf text).toArray, false, false⟩
      match Regex.fitAt? subject regex 0 with
      | none => .ok (if hasGroup then [] else ['0'])
      | some fit =>
          if hasGroup then .ok (Text.ofUtf8Lossy (bytesOf (fit.group subject 1)))
          else .ok (Text.ofNat fit.finish)

abbrev ExpressionReader := Text → List Text → Except ExpressionFault (Text × Text × List Text)

def operate (operator left right : Text) : Except ExpressionFault Text :=
  let truth (value : Bool) : Text := if value then ['1'] else ['0']
  let order : Ordering :=
    match integer? left, integer? right with
    | some left, some right => compare left right
    | _, _ => if left = right then .eq else if notAfter left right then .lt else .gt
  match String.ofList operator with
  | "|" => .ok (if isNull left then (if isNull right then ['0'] else right) else left)
  | "&" => .ok (if isNull left ∨ isNull right then ['0'] else left)
  | "=" => .ok (truth (order == .eq))
  | "==" => .ok (truth (order == .eq))
  | "!=" => .ok (truth (order != .eq))
  | "<" => .ok (truth (order == .lt))
  | "<=" => .ok (truth (order != .gt))
  | ">" => .ok (truth (order == .gt))
  | ">=" => .ok (truth (order != .lt))
  | ":" => fitOf left right
  | _ =>
      match integer? left, integer? right with
      | some left, some right =>
          match String.ofList operator with
          | "+" => .ok (textOfInteger (left + right))
          | "-" => .ok (textOfInteger (left - right))
          | "*" => .ok (textOfInteger (left * right))
          | "/" => if right = 0 then .error .divisionByZero else .ok (textOfInteger (left.tdiv right))
          | _ => if right = 0 then .error .divisionByZero else .ok (textOfInteger (left.tmod right))
      | _, _ => .error .notInteger

def operatorLevels : List (List Text) :=
  [["|"], ["&"], ["=", "==", "!=", "<", "<=", ">", ">="], ["+", "-"], ["*", "/", "%"], [":"]]

/-- Goes on behind a value with operators of one level. -/
def readOperators (operators : List Text) (one : ExpressionReader) :
    Nat → Text → ExpressionReader
  | 0, value, before, words => .ok (value, before, words)
  | fuel + 1, value, before, words =>
      match words with
      | operator :: rest =>
          if operators.contains operator then do
            let (right, before, rest) ← one operator rest
            readOperators operators one fuel (← operate operator value right) before rest
          else .ok (value, before, words)
      | [] => .ok (value, before, [])

/-- Reads a value of one word, of a function, or of an expression in brackets. -/
def readValue (nested : ExpressionReader) : ExpressionReader := fun before words => do
  let next (before : Text) (words : List Text) : Except ExpressionFault (Text × Text × List Text) :=
    readPlain before words
  match words with
  | [] => .error (.missingAfter before)
  | word :: rest =>
      match String.ofList word with
      | "(" => do
          let (value, before, rest) ← nested word rest
          match rest with
          | [')'] :: rest => .ok (value, [')'], rest)
          | _ => .error (.closingExpected before)
      | ")" => .error (.unexpected word)
      | "length" => do
          let (text, before, rest) ← next word rest
          .ok (Text.ofNat text.utf8.length, before, rest)
      | "index" => do
          let (text, before, rest) ← next word rest
          let (chars, before, rest) ← next before rest
          .ok (Text.ofNat ((text.findIdx? chars.contains).elim 0 (· + 1)), before, rest)
      | "match" => do
          let (text, before, rest) ← next word rest
          let (pattern, before, rest) ← next before rest
          .ok (← fitOf text pattern, before, rest)
      | "substr" => do
          let (text, before, rest) ← next word rest
          let (start, before, rest) ← next before rest
          let (count, before, rest) ← next before rest
          match integer? start, integer? count with
          | some start, some count =>
              .ok (if start ≤ 0 ∨ count ≤ 0 then [] else (text.drop (start.toNat - 1)).take count.toNat, before, rest)
          | _, _ => .ok ([], before, rest)
      | _ => readPlain before words
where
  readPlain (before : Text) (words : List Text) : Except ExpressionFault (Text × Text × List Text) :=
    match words with
    | [] => .error (.missingAfter before)
    | ['+'] :: word :: rest => .ok (word, word, rest)
    | word :: rest => .ok (word, word, rest)

def readExpression : Nat → ExpressionReader
  | 0, before, _ => .error (.missingAfter before)
  | fuel + 1, before, words =>
      (operatorLevels.foldr (fun operators one before words => do
        let (value, before, rest) ← one before words
        readOperators operators one words.length value before rest) (readValue (readExpression fuel))) before words

def expr : Work m Unit := do
  let arguments := if call.arguments.head? = some "--".toList then call.arguments.tail else call.arguments
  if arguments.isEmpty then call.fail 2 ("missing operand" ++ call.helpLine)
  else
    match readExpression (arguments.length + 1) [] arguments with
    | .error (.pattern message) => call.fail 2 message
    | .error fault => call.fail 2 fault.message
    | .ok (_, _, word :: _) => call.fail 2 (ExpressionFault.message (.unexpected word))
    | .ok (value, _, []) => do
        printLine value
        giveStatus (if isNull value then 1 else 0)

end UniversalModule.Host.Utility
