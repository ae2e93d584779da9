import UniversalModule.Host.Files
import UniversalModule.Host.Shell.Format
import UniversalModule.Host.Shell.State

/-!
The conditions of `test`. Readers are given the words from the current one on, and give them back
from the last one that they took on.
-/

namespace UniversalModule.Host.Shell.Test

inductive Fault where
  /-- A condition ends at a word, but another one follows. -/
  | unexpectedOperator (word next : Text)
  | argumentExpected (operator : Text)
  | illegalNumber (word : Text)
  | closingExpected

/-- The complaint about a condition that is made of some words. -/
def Fault.message (speaker : Speaker) (words : List Text) (fault : Fault) : Text :=
  match speaker, fault with
  | .shell .dash, .unexpectedOperator word _ =>
      if word.isEmpty then "unexpected operator" else word ++ ": unexpected operator"
  | .shell .dash, .argumentExpected operator => operator ++ ": argument expected"
  | .shell .dash, .illegalNumber word => "Illegal number: " ++ word
  | .shell .dash, .closingExpected => "closing paren expected"
  | .shell .bash, .illegalNumber word => word ++ ": integer expression expected"
  | .shell .bash, _ =>
      match words with
      | [first, _] => first ++ ": unary operator expected"
      | [_, second, _] => second ++ ": binary operator expected"
      | _ => "too many arguments"
  | .program, .illegalNumber word => "invalid integer " ++ escaped word
  | .program, .unexpectedOperator _ next =>
      match words with
      | [_, second] => "missing argument after " ++ escaped second
      | [_, second, _] => escaped second ++ ": binary operator expected"
      | _ => "extra argument " ++ escaped next
  | .program, .argumentExpected operator => "missing argument after " ++ escaped operator
  | .program, .closingExpected => "')' expected"

inductive Kind where
  | nothing
  | operand
  | negation
  | opening
  | closing
  | unary
  | binary
  | conjunction
  | disjunction
deriving DecidableEq

def unaryOperators : List Text :=
  ["-r", "-w", "-x", "-e", "-f", "-d", "-c", "-b", "-p", "-u", "-g", "-k", "-s", "-t", "-z", "-n", "-h",
    "-O", "-G", "-L", "-S"]

def numberOperators : List Text := ["-eq", "-ne", "-gt", "-lt", "-le", "-ge"]

def fileOperators : List Text := ["-nt", "-ot", "-ef"]

def textOperators : Variety → List Text
  | .dash => ["=", "!=", "<", ">"]
  | .bash => ["=", "==", "!=", "<", ">"]

def binaryOperators (variety : Variety) : List Text :=
  textOperators variety ++ numberOperators ++ fileOperators

def kindOf (variety : Variety) (word : Text) : Kind :=
  if unaryOperators.contains word then .unary
  else if (binaryOperators variety).contains word then .binary
  else
    match String.ofList word with
    | "!" => .negation
    | "(" => .opening
    | ")" => .closing
    | "-a" => .conjunction
    | "-o" => .disjunction
    | _ => .operand

/-- What the first of some words is in front of the others. -/
def kindAt (variety : Variety) : List Text → Kind
  | [] => .nothing
  | word :: rest =>
      match kindOf variety word, rest with
      | .unary, [] => .operand
      | .unary, next :: _ :: _ => if kindOf variety next = .binary then .operand else .unary
      | .opening, [] => .operand
      | kind, _ => kind

def number? (word : Text) : Except Fault Int :=
  let isBlank (c : Char) := c == ' ' || c == '\t' || c == '\n'
  let trimmed := ((word.dropWhile isBlank).reverse.dropWhile isBlank).reverse
  let (isNegative, digits) :=
    match trimmed with
    | '-' :: digits => (true, digits)
    | '+' :: digits => (false, digits)
    | digits => (false, digits)
  let amount := valueOfDecimal digits
  if digits.isEmpty ∨ digits.any (!Char.isDigit ·) ∨ 9223372036854775807 < amount then
    .error (.illegalNumber word)
  else .ok (if isNegative then -amount else amount)

def compareNumbers (operator : Text) (left right : Int) : Bool :=
  match String.ofList operator with
  | "-eq" => left == right
  | "-ne" => left != right
  | "-lt" => decide (left < right)
  | "-le" => decide (left ≤ right)
  | "-gt" => decide (right < left)
  | _ => decide (right ≤ left)

def compare (operator left right : Text) : Except Fault Bool :=
  if numberOperators.contains operator then
    return compareNumbers operator (← number? left) (← number? right)
  else
    match String.ofList operator with
    | "=" => .ok (left == right)
    | "==" => .ok (left == right)
    | "!=" => .ok (left != right)
    | "<" => .ok (left != right && notAfter left right)
    | ">" => .ok (left != right && notAfter right left)
    | _ => .ok false

def ofEntry (operator : Text) (entry : Entry) : Bool :=
  match String.ofList operator, entry with
  | "-d", entry => entry == .folder
  | "-f", .device _ => false
  | "-f", entry => entry != .folder
  | "-c", .device _ => true
  | "-c", _ => false
  | "-s", .file file => !file.content.isEmpty
  | "-x", .file file => file.isExecutable
  | "-e", _ => true
  | "-r", _ => true
  | "-w", _ => true
  | "-x", _ => true
  | "-s", .device _ => false
  | "-s", _ => true
  | "-O", _ => true
  | "-G", _ => true
  | _, _ => false

variable {m : Type → Type} [Monad m]

structure Site (m : Type → Type) where
  variety : Variety
  files : Files m
  folder : Path

abbrev Reader (m : Type → Type) := Kind → List Text → m (Except Fault (Bool × List Text))

def readUnary (site : Site m) (operator operand : Text) : m Bool := do
  if operator = "-n".toList then return !operand.isEmpty
  else if operator = "-z".toList then return operand.isEmpty
  else if operator = "-t".toList then return false
  else if operator = "-L".toList ∨ operator = "-h".toList then
    match ← site.files.findUnfollowed (pathFrom site.folder ⟨operand⟩) with
    | .ok (.link _) => return true
    | _ => return false
  else
    match ← site.files.find (pathFrom site.folder ⟨operand⟩) with
    | .ok entry => return ofEntry operator entry
    | .error _ => return false

/-- What an operator says of two paths: that they lead to the same place, or that only one of them
leads to a file. -/
def comparePaths (site : Site m) (operator left right : Text) : m Bool := do
  let place (path : Text) := site.files.canonical (pathFrom site.folder ⟨path⟩)
  let left ← place left
  let right ← place right
  if operator = "-ef".toList then return left.isOk && left.toOption == right.toOption
  else
    match site.variety with
    | .dash => return false
    | .bash => return if operator = "-nt".toList then left.isOk && !right.isOk else right.isOk && !left.isOk

/-- Reads a condition that is joined to no other; `nested` reads what stands in brackets. -/
def readPrimary (site : Site m) (nested : Reader m) : Reader m := fun kind words => do
  match kind, words with
  | .nothing, words => return .ok (false, words)
  | .opening, _ :: inner =>
      if kindAt site.variety inner = .closing then return .ok (false, inner)
      else
        match ← nested (kindAt site.variety inner) inner with
        | .error fault => return .error fault
        | .ok (truth, last) =>
            if kindAt site.variety last.tail = .closing then return .ok (truth, last.tail)
            else return .error .closingExpected
  | .unary, operator :: rest =>
      match rest with
      | [] => return .error (.argumentExpected operator)
      | operand :: _ => return .ok (← readUnary site operator operand, rest)
  | _, left :: rest =>
      match kindAt site.variety rest, rest with
      | .binary, [operator] => return .error (.argumentExpected operator)
      | .binary, operator :: right :: others =>
          if fileOperators.contains operator then
            return .ok (← comparePaths site operator left right, right :: others)
          else return (compare operator left right).map fun truth => (truth, right :: others)
      | _, _ => return .ok (!left.isEmpty, left :: rest)
  | _, [] => return .ok (false, [])

def readNegated (site : Site m) (nested : Reader m) : Nat → Reader m
  | fuel + 1, .negation, words => do
      let kind := kindAt site.variety words.tail
      let read ← readNegated site nested fuel kind (if kind = .nothing then words else words.tail)
      return read.map fun (truth, last) => (!truth, last)
  | _, kind, words => readPrimary site nested kind words

/-- Reads conditions between operators of one kind; `combine` says what they mean together. -/
def readJoined (site : Site m) (joint : Kind) (combine : Bool → Bool → Bool) (one : Reader m) :
    Nat → Reader m
  | 0, kind, words => one kind words
  | fuel + 1, kind, words => do
      match ← one kind words with
      | .error fault => return .error fault
      | .ok (truth, last) =>
          if kindAt site.variety last.tail = joint then
            let next := last.tail.tail
            let others ← readJoined site joint combine one fuel (kindAt site.variety next) next
            return others.map fun (other, last) => (combine truth other, last)
          else return .ok (truth, last)

def read (site : Site m) : Nat → Reader m
  | 0, _, words => return .ok (false, words)
  | fuel + 1, kind, words =>
      let one := readNegated site (read site fuel) (fuel + 1)
      readJoined site .disjunction (· || ·) (readJoined site .conjunction (· && ·) one (fuel + 1))
        (fuel + 1) kind words

/-- Whether all of some words hold as a condition that begins with a word of the given kind. -/
def whole (site : Site m) (kind : Kind) (words : List Text) : m (Except Fault Bool) := do
  match ← read site (words.length + 1) kind words with
  | .error fault => return .error fault
  | .ok (_, word :: next :: _) => return .error (.unexpectedOperator word next)
  | .ok (truth, _) => return .ok truth

/-- Whether words hold as a condition. Three words with an operator between them compare, and a
few words in brackets or behind `!` are read without them. -/
def holds (site : Site m) : List Text → m (Except Fault Bool)
  | [] => return .ok false
  | [left, operator, right] =>
      if kindOf site.variety operator = .binary then whole site .operand [left, operator, right]
      else if left = ['('] ∧ right = [')'] then whole site (kindAt site.variety [operator]) [operator]
      else if left = ['!'] then
        return (← whole site (kindAt site.variety [operator, right]) [operator, right]).map (!·)
      else whole site (kindAt site.variety [left, operator, right]) [left, operator, right]
  | [first, second, third, fourth] => do
      if first = ['('] ∧ fourth = [')'] then
        whole site (kindAt site.variety [second, third]) [second, third]
      else if first = ['!'] then return (← holds site [second, third, fourth]).map (!·)
      else
        let words := [first, second, third, fourth]
        whole site (kindAt site.variety words) words
  | words => whole site (kindAt site.variety words) words

end UniversalModule.Host.Shell.Test
