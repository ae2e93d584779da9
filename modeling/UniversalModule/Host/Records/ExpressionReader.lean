import UniversalModule.Host.Records.Token
import UniversalModule.Host.Records.Value
import UniversalModule.Host.Regex.Reader

/-!
The expressions in a script on records, from its tokens. They are read by how closely their signs
bind.
-/

namespace UniversalModule.Host.Records

abbrev Reader (α : Type) := List Located → Except Fault (α × List Located)

structure Context where
  /-- Whether a sign for more compares, or begins the target of what is printed. -/
  compares : Bool
  /-- Whether the word for membership may follow. -/
  allowsIn : Bool
  /-- The number of the last line. -/
  lastLine : Nat
  /-- How many brackets and braces are open. -/
  brackets : Nat
  braces : Nat
  isInLoop : Bool
  isInFunction : Bool
  /-- Whether records are worked on. -/
  hasRecords : Bool

def refuse {α : Type} (context : Context) (tokens : List Located) : Except Fault α :=
  match tokens with
  | [] =>
      if context.brackets ≠ 0 then .error (faultAt context.lastLine "missing ) near end of file")
      else if context.braces ≠ 0 then .error (faultAt context.lastLine "missing \x7d near end of file")
      else .error (faultAt context.lastLine "syntax error at or near end of file")
  | ⟨token, line⟩ :: _ =>
      if context.brackets ≠ 0 ∧ (token = .newLine ∨ token = .sign ['}']) then
        .error (faultAt line ("missing ) near " ++ token.source))
      else if context.brackets = 0 ∧ token = .sign [')'] then .error (faultAt line "extra ')'")
      else .error (faultAt line ("syntax error at or near " ++ token.source))

def nextIs (sign : Text) (tokens : List Located) : Bool :=
  (tokens.head?.map Located.token) == some (.sign sign)

def nextIsWord (word : Text) (tokens : List Located) : Bool :=
  (tokens.head?.map Located.token) == some (.keyword word)

def expect (context : Context) (sign : Text) (tokens : List Located) : Except Fault (List Located) :=
  if nextIs sign tokens then .ok tokens.tail else refuse context tokens

def skipLines (tokens : List Located) : List Located := tokens.dropWhile fun located => located.token == .newLine

def skipEnds (tokens : List Located) : List Located :=
  tokens.dropWhile fun located => located.token == .newLine || located.token == .sign [';']

def assignment? : Token → Option (Option Arithmetic)
  | .sign sign =>
      match String.ofList sign with
      | "=" => some none
      | "+=" => some (some .plus)
      | "-=" => some (some .minus)
      | "*=" => some (some .times)
      | "/=" => some (some .dividedBy)
      | "%=" => some (some .remainder)
      | "^=" => some (some .power)
      | _ => none
  | _ => none

def relation? : Token → Option Relation
  | .sign sign =>
      match String.ofList sign with
      | "<" => some .less
      | "<=" => some .notMore
      | "==" => some .equal
      | "!=" => some .notEqual
      | ">=" => some .notLess
      | ">" => some .more
      | _ => none
  | _ => none

def sum? : Token → Option Arithmetic
  | .sign ['+'] => some .plus
  | .sign ['-'] => some .minus
  | _ => none

def product? : Token → Option Arithmetic
  | .sign ['*'] => some .times
  | .sign ['/'] => some .dividedBy
  | .sign ['%'] => some .remainder
  | _ => none

/-- Whether a value that is joined to the one before may begin with a token. -/
def beginsJoined : Token → Bool
  | .number _ => true
  | .text _ => true
  | .regex _ => true
  | .name _ => true
  | .caller _ => true
  | .builtin _ => true
  | .sign sign => (["(", "$", "!", "++", "--"] : List Text).contains sign
  | _ => false

def argumentsOf (name : Text) : Nat × Nat :=
  match String.ofList name with
  | "length" => (0, 1)
  | "substr" => (2, 3)
  | "index" => (2, 2)
  | "split" => (2, 3)
  | "sub" => (2, 3)
  | "gsub" => (2, 3)
  | "match" => (2, 2)
  | "sprintf" => (1, 255)
  | "atan2" => (2, 2)
  | "rand" => (0, 0)
  | "srand" => (0, 1)
  | "fflush" => (0, 1)
  | _ => (1, 1)

def readRegex (line : Nat) (source : Text) : Except Fault Regex :=
  let source := unescapedSlashes source
  match Regex.read .records source with
  | .ok regex => .ok regex
  | .error message => .error (faultAt line (regexProblem message source))
where
  unescapedSlashes : Text → Text
    | '\\' :: '/' :: rest => '/' :: unescapedSlashes rest
    | '\\' :: '"' :: rest => '"' :: unescapedSlashes rest
    | '\\' :: 't' :: rest => '\t' :: unescapedSlashes rest
    | '\\' :: 'n' :: rest => '\n' :: unescapedSlashes rest
    | '\\' :: c :: rest => '\\' :: c :: unescapedSlashes rest
    | c :: rest => c :: unescapedSlashes rest
    | [] => []

inductive Level where
  | assigned
  | chosen
  | either
  | both
  | member
  | fitted
  | compared
  | joined
  | sum
  | product
  | signed
  | power
  | stepped
deriving DecidableEq

mutual

def readAt (context : Context) : Nat → Level → Reader Expression
  | 0, _ => refuse context
  | fuel + 1, level => fun tokens => do
      match level with
      | .assigned => do
          let (left, rest) ← readAt context fuel .chosen tokens
          match rest with
          | ⟨token, _⟩ :: behind =>
              match assignment? token, left.isTarget with
              | some operation, true => do
                  let (value, rest) ← readAt context fuel .assigned (skipLines behind)
                  .ok (.assign operation left value, rest)
              | _, _ => .ok (left, rest)
          | [] => .ok (left, rest)
      | .chosen => do
          let (test, rest) ← readAt context fuel .either tokens
          if nextIs ['?'] rest then
            let (first, rest) ← readAt context fuel .assigned (skipLines rest.tail)
            let rest ← expect context [':'] (skipLines rest)
            let (second, rest) ← readAt context fuel .assigned (skipLines rest)
            .ok (.condition test first second, rest)
          else .ok (test, rest)
      | .either => do
          let (first, rest) ← readAt context fuel .both tokens
          readMore context fuel level first rest
      | .both => do
          let (first, rest) ← readAt context fuel .member tokens
          readMore context fuel level first rest
      | .member => do
          let (first, rest) ← readAt context fuel .fitted tokens
          readMore context fuel level first rest
      | .fitted => do
          let (first, rest) ← readAt context fuel .compared tokens
          readMore context fuel level first rest
      | .compared => do
          let (first, rest) ← readAt context fuel .joined tokens
          match rest with
          | ⟨token, _⟩ :: behind =>
              match relation? token with
              | some relation =>
                  if relation = .more ∧ context.compares = false then .ok (first, rest)
                  else
                    let (second, rest) ← readAt context fuel .joined behind
                    .ok (.relation relation first second, rest)
              | none => .ok (first, rest)
          | [] => .ok (first, rest)
      | .joined => do
          let (first, rest) ← readAt context fuel .sum tokens
          readMore context fuel level first rest
      | .sum => do
          let (first, rest) ← readAt context fuel .product tokens
          readMore context fuel level first rest
      | .product => do
          let (first, rest) ← readAt context fuel .signed tokens
          readMore context fuel level first rest
      | .signed =>
          if nextIs ['!'] tokens then do
            let (inner, rest) ← readAt context fuel .signed tokens.tail
            .ok (.not inner, rest)
          else if nextIs ['-'] tokens then do
            let (inner, rest) ← readAt context fuel .signed tokens.tail
            .ok (.negative inner, rest)
          else if nextIs ['+'] tokens then do
            let (inner, rest) ← readAt context fuel .signed tokens.tail
            .ok (.positive inner, rest)
          else readAt context fuel .power tokens
      | .power => do
          let (base, rest) ← readAt context fuel .stepped tokens
          if nextIs ['^'] rest then
            let (exponent, rest) ← readAt context fuel .signed rest.tail
            .ok (.arithmetic .power base exponent, rest)
          else .ok (base, rest)
      | .stepped => do
          let (inner, rest) ← readPrimary context fuel tokens
          let (inner, rest) ← readPiped context fuel inner rest
          if nextIs "++" rest ∧ inner.isTarget then .ok (.step true false inner, rest.tail)
          else if nextIs "--" rest ∧ inner.isTarget then .ok (.step false false inner, rest.tail)
          else .ok (inner, rest)

/-- Reads what is joined to an expression by signs of its level. -/
def readMore (context : Context) : Nat → Level → Expression → Reader Expression
  | 0, _, _ => refuse context
  | fuel + 1, level, left => fun tokens => do
      match level, tokens with
      | _, [] => .ok (left, [])
      | .either, ⟨.sign ['|', '|'], _⟩ :: rest => do
          let (right, rest) ← readAt context fuel .both (skipLines rest)
          readMore context fuel level (.either left right) rest
      | .both, ⟨.sign ['&', '&'], _⟩ :: rest => do
          let (right, rest) ← readAt context fuel .member (skipLines rest)
          readMore context fuel level (.both left right) rest
      | .member, ⟨.keyword ['i', 'n'], _⟩ :: ⟨.name array, _⟩ :: rest =>
          if context.allowsIn then readMore context fuel level (.isIn [left] array) rest
          else .ok (left, tokens)
      | .fitted, ⟨.sign ['~'], _⟩ :: rest => do
          let (right, rest) ← readAt context fuel .compared rest
          readMore context fuel level (.fits left right) rest
      | .fitted, ⟨.sign ['!'], _⟩ :: ⟨.sign ['~'], _⟩ :: rest => do
          let (right, rest) ← readAt context fuel .compared rest
          readMore context fuel level (.not (.fits left right)) rest
      | .joined, ⟨token, _⟩ :: rest =>
          if beginsJoined token ∧ ¬(token = .sign ['!'] ∧ nextIs ['~'] rest) then do
            let (right, rest) ← readAt context fuel .sum tokens
            readMore context fuel level (.joined left right) rest
          else .ok (left, tokens)
      | .sum, ⟨token, _⟩ :: rest =>
          match sum? token with
          | some operation => do
              let (right, rest) ← readAt context fuel .product rest
              readMore context fuel level (.arithmetic operation left right) rest
          | none => .ok (left, tokens)
      | .product, ⟨token, _⟩ :: rest =>
          match product? token with
          | some operation => do
              let (right, rest) ← readAt context fuel .signed rest
              readMore context fuel level (.arithmetic operation left right) rest
          | none => .ok (left, tokens)
      | _, tokens => .ok (left, tokens)

/-- Reads lines that are taken from the command before them. -/
def readPiped (context : Context) : Nat → Expression → Reader Expression
  | 0, _ => refuse context
  | fuel + 1, command => fun tokens => do
      match tokens with
      | ⟨.sign ['|'], _⟩ :: ⟨.keyword word, _⟩ :: rest =>
          if word = "getline".toList then
            let (target, rest) ← readLineTarget context fuel rest
            readPiped context fuel (.line .command (some command) target) rest
          else .ok (command, tokens)
      | tokens => .ok (command, tokens)

def readLineTarget (context : Context) : Nat → Reader (Option Expression)
  | 0 => refuse context
  | fuel + 1 => fun tokens => do
      match tokens with
      | ⟨.name _, _⟩ :: _ => do
          let (target, rest) ← readPrimary context fuel tokens
          .ok (some target, rest)
      | ⟨.sign ['$'], _⟩ :: _ => do
          let (target, rest) ← readPrimary context fuel tokens
          .ok (some target, rest)
      | tokens => .ok (none, tokens)

def readList (context : Context) : Nat → Reader (List Expression)
  | 0 => refuse context
  | fuel + 1 => fun tokens => do
      let (first, rest) ← readAt context fuel .assigned tokens
      if nextIs [','] rest then
        let (others, rest) ← readList context fuel (skipLines rest.tail)
        .ok (first :: others, rest)
      else .ok ([first], rest)

/-- Reads the arguments of a call behind the opening bracket. -/
def readArguments (context : Context) : Nat → Reader (List Expression)
  | 0 => refuse context
  | fuel + 1 => fun tokens => do
      let context := { context with compares := true, allowsIn := true, brackets := context.brackets + 1 }
      if nextIs [')'] tokens then .ok ([], tokens.tail)
      else
        let (arguments, rest) ← readList context fuel (skipLines tokens)
        let rest ← expect context [')'] (skipLines rest)
        .ok (arguments, rest)

/-- Reads an expression that no sign is part of, unless brackets are around it. -/
def readPrimary (context : Context) : Nat → Reader Expression
  | 0 => refuse context
  | fuel + 1 => fun tokens => do
      match tokens with
      | [] => refuse context tokens
      | ⟨token, line⟩ :: rest =>
          match token with
          | .number source => .ok (.number (numberOf source), rest)
          | .text text => .ok (.text text, rest)
          | .regex source => do .ok (.regex (← readRegex line source), rest)
          | .name name =>
              if nextIs ['['] rest then
                let inner := { context with compares := true, allowsIn := true }
                let (index, rest) ← readList inner fuel rest.tail
                let rest ← expect inner [']'] rest
                .ok (.element name index, rest)
              else .ok (.variable name, rest)
          | .caller name => do
              let (arguments, rest) ← readArguments context fuel rest.tail
              .ok (.call name arguments, rest)
          | .builtin name => do
              let isBare := !nextIs ['('] rest
              if isBare ∧ name ≠ "length".toList then refuse context rest
              else
                let (arguments, rest) ←
                  if isBare then .ok ([], rest) else readArguments context fuel rest.tail
                let (least, most) := argumentsOf name
                if arguments.length < least ∨ most < arguments.length then
                  .error (faultAt line ("wrong number of arguments in call to " ++ name))
                else .ok (.builtin name arguments, rest)
          | .keyword word =>
              if word = "getline".toList then
                let (target, rest) ← readLineTarget context fuel rest
                if nextIs ['<'] rest then
                  let (path, rest) ← readPrimary context fuel rest.tail
                  .ok (.line .file (some path) target, rest)
                else .ok (.line .records none target, rest)
              else refuse context tokens
          | .sign ['('] => do
              let inner := { context with
                compares := true, allowsIn := true, brackets := context.brackets + 1 }
              let (values, rest) ← readList inner fuel (skipLines rest)
              let rest ← expect inner [')'] (skipLines rest)
              match values, rest with
              | [value], rest => .ok (value, rest)
              | values, ⟨.keyword ['i', 'n'], _⟩ :: ⟨.name array, _⟩ :: rest =>
                  .ok (.isIn values array, rest)
              | _, rest => refuse context rest
          | .sign ['$'] => do
              if nextIs "++" rest ∨ nextIs "--" rest ∨ nextIs ['-'] rest then
                let (number, rest) ← readAt context fuel .signed rest
                .ok (.field number, rest)
              else
                let (number, rest) ← readPrimary context fuel rest
                .ok (.field number, rest)
          | .sign ['+', '+'] => do
              let (target, behind) ← readPrimary context fuel rest
              if target.isTarget then .ok (.step true true target, behind) else refuse context rest
          | .sign ['-', '-'] => do
              let (target, behind) ← readPrimary context fuel rest
              if target.isTarget then .ok (.step false true target, behind) else refuse context rest
          | .sign ['-'] => readAt context fuel .signed tokens
          | .sign ['+'] => readAt context fuel .signed tokens
          | .sign ['!'] => readAt context fuel .signed tokens
          | _ => refuse context tokens

end

end UniversalModule.Host.Records
