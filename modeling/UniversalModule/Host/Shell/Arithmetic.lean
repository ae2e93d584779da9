import UniversalModule.Host.Shell.Script

/-!
The value of an arithmetic expression of the shells, in 64 bits. An expression may give values to
names; it is read as a whole before any of it is worked out.
-/

namespace UniversalModule.Host.Shell.Arithmetic

inductive Token where
  | number (value : Int)
  | name (name : Text)
  | operator (text : Text)
deriving DecidableEq

structure Lexeme where
  token : Token
  source : Text

/-- The binary operators, those that bind loosest first. -/
def levels : List (List Text) :=
  [["||"], ["&&"], ["|"], ["^"], ["&"], ["==", "!="], ["<=", ">=", "<", ">"], ["<<", ">>"], ["+", "-"],
    ["*", "/", "%"], ["**"]]

/-- The operators that give a value to a name, with the operator that is worked out before. -/
def assigning : List (Text × Text) :=
  [("<<=", "<<"), (">>=", ">>"), ("*=", "*"), ("/=", "/"), ("%=", "%"), ("+=", "+"), ("-=", "-"),
    ("&=", "&"), ("^=", "^"), ("|=", "|"), ("=", "")]

/-- The operators; one that begins with another comes before it. -/
def operators (variety : Variety) : List Text :=
  let further : Text :=
    match variety with
    | .dash => []
    | .bash => "++ -- ** , [ ] "
  let shared : Text :=
    "<<= >>= || && == != <= >= << >> *= /= %= += -= &= ^= |= = < > | ^ & + - * / % ! ~ ( ) ? :"
  Text.splitAt ' ' (further ++ shared)

def digitValue (c : Char) : Nat :=
  if c.isDigit then c.toNat - '0'.toNat
  else if 'a' ≤ c ∧ c ≤ 'z' then c.toNat - 'a'.toNat + 10
  else if 'A' ≤ c ∧ c ≤ 'Z' then c.toNat - 'A'.toNat + 10
  else 99

def ofDigits? (base : Nat) (digits : Text) : Option Int :=
  if digits.isEmpty = false ∧ digits.all fun c => digitValue c < base then
    some (digits.foldl (fun value c => base * value + digitValue c) 0 : Nat)
  else none

/-- A number: in base 16 after `0x`, in base 8 after `0`, else in base 10. -/
def number? : Text → Option Int
  | '0' :: 'x' :: digits => ofDigits? 16 digits
  | '0' :: 'X' :: digits => ofDigits? 16 digits
  | '0' :: digits => if digits.isEmpty then some 0 else ofDigits? 8 digits
  | digits => ofDigits? 10 digits

def textOf (value : Int) : Text :=
  if value < 0 then '-' :: Text.ofNat value.natAbs else Text.ofNat value.natAbs

def signed? : Text → Option Int
  | '-' :: digits => (number? digits).map (- ·)
  | '+' :: digits => number? digits
  | digits => number? digits

def basedNumber? (word : Text) : Option Int :=
  match word.dropWhile (· != '#') with
  | [] => number? word
  | _ :: digits => do
      let base ← ofDigits? 10 (word.takeWhile (· != '#'))
      guard (2 ≤ base ∧ base ≤ 36)
      ofDigits? base.toNat digits

/-- The number at the beginning of a word, and how long it is. -/
def leadingNumber (variety : Variety) (word : Text) : Option (Int × Nat) :=
  match variety with
  | .bash => (basedNumber? word).map fun value => (value, word.length)
  | .dash =>
      (List.range word.length).reverse.findSome? fun shorter =>
        (number? (word.take (shorter + 1))).map fun value => (value, shorter + 1)

/-- The tokens of an expression. What begins none of them is an operator that nothing expects. -/
def lexemes (variety : Variety) : Nat → Text → List Lexeme
  | 0, _ => []
  | _ + 1, [] => []
  | fuel + 1, c :: rest =>
      let source := c :: rest
      let isWordChar (d : Char) := isNameChar d || (variety == .bash && c.isDigit && d == '#')
      if c = ' ' ∨ c = '\t' ∨ c = '\n' then lexemes variety fuel rest
      else if isNameChar c then
        let word := source.takeWhile isWordChar
        let (token, length) :=
          if c.isDigit = false then (.name word, word.length)
          else
            match leadingNumber variety word with
            | some (value, length) => (.number value, length)
            | none => (.operator word, word.length)
        ⟨token, source⟩ :: lexemes variety fuel (source.drop length)
      else
        match (operators variety).find? fun operator => (Text.after? operator source).isSome with
        | some operator => ⟨.operator operator, source⟩ :: lexemes variety fuel (source.drop operator.length)
        | none => ⟨.operator [c], source⟩ :: lexemes variety fuel rest

/-- What is wrong with an expression, with the expression from there on. -/
inductive Fault where
  /-- Something else is expected. -/
  | expecting (name : Text) (source : Text)
  | divisionByZero (source : Text)
  /-- The value of a name is no number. -/
  | notNumber (value : Text)
deriving DecidableEq

inductive Expression where
  | number (value : Int)
  /-- A name, or an item of a list. -/
  | named (name : Text) (hasIndex : Bool) (index : Expression)
  | unary (operator : Char) (inner : Expression)
  /-- The source is that of the second operand. -/
  | binary (operator : Text) (source : Text) (first second : Expression)
  | choice (condition first second : Expression)
  | assign (operator source name : Text) (hasIndex : Bool) (index value : Expression)
  /-- A name whose value is changed by an amount, before or after it is used. -/
  | step (isBefore : Bool) (amount : Int) (name : Text) (hasIndex : Bool) (index : Expression)
  | inOrder (first second : Expression)

def ofBool (truth : Bool) : Int := if truth then 1 else 0

def wrap (value : Int) : Int := Int.bmod value 18446744073709551616

/-- The number whose bits are combined from those of two numbers. -/
def bitwise (combine : Nat → Nat → Nat) (a b : Int) : Int :=
  wrap (combine (a % 18446744073709551616).toNat (b % 18446744073709551616).toNat : Nat)

def apply (operator : Text) (source : Text) (a b : Int) : Except Fault Int :=
  match String.ofList operator with
  | "|" => .ok (bitwise Nat.lor a b)
  | "^" => .ok (bitwise Nat.xor a b)
  | "&" => .ok (bitwise Nat.land a b)
  | "==" => .ok (ofBool (a == b))
  | "!=" => .ok (ofBool (a != b))
  | "<=" => .ok (ofBool (decide (a ≤ b)))
  | ">=" => .ok (ofBool (decide (b ≤ a)))
  | "<" => .ok (ofBool (decide (a < b)))
  | ">" => .ok (ofBool (decide (b < a)))
  | "<<" => .ok (wrap (a <<< (b % 64).toNat))
  | ">>" => .ok (a >>> (b % 64).toNat)
  | "+" => .ok (wrap (a + b))
  | "-" => .ok (wrap (a - b))
  | "*" => .ok (wrap (a * b))
  | "/" => if b = 0 then .error (.divisionByZero source) else .ok (wrap (Int.tdiv a b))
  | "%" => if b = 0 then .error (.divisionByZero source) else .ok (Int.tmod a b)
  | "**" => .ok (wrap (Int.pow a b.toNat))
  | _ => .ok b

abbrev Reader := List Lexeme → Except Fault (Expression × List Lexeme)

def sourceOf (lexemes : List Lexeme) : Text := (lexemes.head?.map Lexeme.source).getD []

def startsWith (operator : Text) : List Lexeme → Bool
  | ⟨.operator text, _⟩ :: _ => text == operator
  | _ => false

def expect (operator : Text) (lexemes : List Lexeme) : Except Fault (List Lexeme) :=
  if startsWith operator lexemes then .ok lexemes.tail
  else .error (.expecting ('\'' :: (operator ++ ['\''])) (sourceOf lexemes))

/-- Goes on after an operand with the operators of a level, from left to right. -/
def readOperators (tighter : Reader) (level : List Text) : Nat → Expression → Reader
  | fuel + 1, first, ⟨.operator operator, source⟩ :: rest =>
      if level.contains operator then do
        let (second, after) ← tighter rest
        readOperators tighter level fuel (.binary operator (sourceOf rest) first second) after
      else .ok (first, ⟨.operator operator, source⟩ :: rest)
  | _, first, rest => .ok (first, rest)

def readLevels (atom : Reader) : List (List Text) → Reader
  | [], lexemes => atom lexemes
  | level :: tighter, lexemes => do
      let (first, rest) ← readLevels atom tighter lexemes
      readOperators (readLevels atom tighter) level rest.length first rest

/-- The name with its index, if an expression is one and can be given a value. -/
def Expression.place? : Expression → Option (Text × Bool × Expression)
  | .named name hasIndex index => some (name, hasIndex, index)
  | _ => none

def assigned? (lexemes : List Lexeme) : Option (Text × List Lexeme) :=
  match lexemes with
  | ⟨.operator text, _⟩ :: rest =>
      (assigning.find? fun entry => entry.1 == text).map fun entry => (entry.2, rest)
  | _ => none

/-- Reads a whole expression with its choices and the values that it gives. -/
def readWhole (atom : Reader) : Nat → Reader
  | 0, lexemes => .error (.expecting "primary" (sourceOf lexemes))
  | fuel + 1, lexemes => do
      let (first, rest) ← readLevels atom levels lexemes
      match first.place?, assigned? rest, startsWith ['?'] rest with
      | some (name, hasIndex, index), some (operator, after), _ => do
          let (value, further) ← readWhole atom fuel after
          .ok (.assign operator (sourceOf after) name hasIndex index value, further)
      | _, _, true => do
          let (yes, rest) ← readWhole atom fuel rest.tail
          let (no, rest) ← readWhole atom fuel (← expect [':'] rest)
          .ok (.choice first yes no, rest)
      | _, _, false => .ok (first, rest)

/-- Reads expressions that are worked out one after another; the first shell knows only one. -/
def readAll (variety : Variety) (whole : Reader) : Nat → Reader
  | 0, lexemes => .error (.expecting "primary" (sourceOf lexemes))
  | fuel + 1, lexemes => do
      let (first, rest) ← whole lexemes
      if variety = .bash ∧ startsWith [','] rest then
        let (others, rest) ← readAll variety whole fuel rest.tail
        .ok (.inOrder first others, rest)
      else .ok (first, rest)

/-- Goes on after a name with its index and with a change of its value. -/
def readPlace (all : Reader) (name : Text) : Reader := fun lexemes => do
  let hasIndex := startsWith ['['] lexemes
  let (index, rest) ←
    if hasIndex then do
      let (index, rest) ← all lexemes.tail
      pure (index, ← expect [']'] rest)
    else pure (Expression.number 0, lexemes)
  if startsWith "++" rest then .ok (.step false 1 name hasIndex index, rest.tail)
  else if startsWith "--" rest then .ok (.step false (-1) name hasIndex index, rest.tail)
  else .ok (.named name hasIndex index, rest)

def readAtom (variety : Variety) : Nat → Reader
  | 0, lexemes => .error (.expecting "primary" (sourceOf lexemes))
  | fuel + 1, lexemes =>
      let all : Reader := readAll variety (readWhole (readAtom variety fuel) lexemes.length) lexemes.length
      match lexemes with
      | ⟨.number value, _⟩ :: rest => .ok (.number (wrap value), rest)
      | ⟨.name name, _⟩ :: rest => readPlace all name rest
      | ⟨.operator operator, source⟩ :: rest =>
          let stepped (amount : Int) : Except Fault (Expression × List Lexeme) := do
            let (inner, rest) ← readAtom variety fuel rest
            match inner.place? with
            | some (name, hasIndex, index) => .ok (.step true amount name hasIndex index, rest)
            | none => .error (.expecting "primary" source)
          match operator with
          | ['('] => do
              let (inner, rest) ← all rest
              .ok (inner, ← expect [')'] rest)
          | ['+', '+'] => stepped 1
          | ['-', '-'] => stepped (-1)
          | [c] =>
              if "-+!~".toList.contains c then do
                let (inner, rest) ← readAtom variety fuel rest
                .ok (.unary c inner, rest)
              else .error (.expecting "primary" source)
          | _ => .error (.expecting "primary" source)
      | [] => .error (.expecting "primary" [])

structure Memory (σ : Type) where
  value : σ → Text → Option Int → Except Fault Int
  assign : σ → Text → Option Int → Int → σ

def Expression.evaluate {σ : Type} (memory : Memory σ) :
    Expression → σ → Except Fault (Int × σ)
  | .number value, state => .ok (value, state)
  | .named name hasIndex index, state => do
      let (index, state) ← index.evaluate memory state
      .ok (← memory.value state name (if hasIndex then some index else none), state)
  | .unary operator inner, state => do
      let (value, state) ← inner.evaluate memory state
      let value :=
        if operator = '-' then wrap (-value)
        else if operator = '!' then ofBool (value == 0)
        else if operator = '~' then -value - 1
        else value
      .ok (value, state)
  | .binary operator source first second, state => do
      let (a, state) ← first.evaluate memory state
      if operator = "&&".toList ∧ a = 0 then .ok (0, state)
      else if operator = "||".toList ∧ a ≠ 0 then .ok (1, state)
      else
        let (b, state) ← second.evaluate memory state
        if operator = "&&".toList ∨ operator = "||".toList then .ok (ofBool (b != 0), state)
        else .ok (← apply operator source a b, state)
  | .choice condition first second, state => do
      let (value, state) ← condition.evaluate memory state
      if value ≠ 0 then first.evaluate memory state else second.evaluate memory state
  | .assign operator source name hasIndex index value, state => do
      let (index, state) ← index.evaluate memory state
      let index? := if hasIndex then some index else none
      let (value, state) ← value.evaluate memory state
      let value ←
        if operator.isEmpty then .ok value
        else do apply operator source (← memory.value state name index?) value
      .ok (value, memory.assign state name index? value)
  | .step isBefore amount name hasIndex index, state => do
      let (index, state) ← index.evaluate memory state
      let index? := if hasIndex then some index else none
      let before ← memory.value state name index?
      let after := wrap (before + amount)
      .ok (if isBefore then after else before, memory.assign state name index? after)
  | .inOrder first second, state => do
      let (_, state) ← first.evaluate memory state
      second.evaluate memory state

def read (variety : Variety) (text : Text) : Except Fault Expression :=
  match lexemes variety (text.length + 1) text with
  | [] => .ok (.number 0)
  | lexemes => do
      let size := lexemes.length + 1
      let (expression, rest) ← readAll variety (readWhole (readAtom variety size) size) size lexemes
      if rest.isEmpty then .ok expression else .error (.expecting "EOF" (sourceOf rest))

def evaluate {σ : Type} (variety : Variety) (memory : Memory σ) (text : Text) (state : σ) :
    Except Fault (Int × σ) := do
  (← read variety text).evaluate memory state

end UniversalModule.Host.Shell.Arithmetic
