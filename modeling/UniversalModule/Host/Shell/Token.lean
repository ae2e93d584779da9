import UniversalModule.Host.Shell.Word

/-!
The tokens of a script. A document that stands in the script is read at the end of the line that
announces it, and takes its place among the tokens of that line.
-/

namespace UniversalModule.Host.Shell

inductive Token where
  | word (word : Word)
  | newline
  | operator (text : Text)
  /-- A redirection of a channel; its target is the next word. -/
  | redirect (channel : Option Nat) (operator : Text)
  | document (body : Word)
  /-- An expression in double brackets. -/
  | number (expression : Text)
  /-- The rest of the script cannot be read. -/
  | fault (message : Text)
  | finish
deriving DecidableEq

structure Placed where
  token : Token
  line : Nat
deriving DecidableEq

structure Announced where
  /-- The index of its token. -/
  index : Nat
  delimiter : Text
  isVerbatim : Bool
  dropsTabs : Bool

structure Scan where
  variety : Variety
  text : Text
  line : Nat
  tokens : Array Placed
  announced : List Announced
  /-- Whether a condition in double brackets has begun. -/
  inCondition : Bool

namespace Scan

def push (scan : Scan) (token : Token) : Scan :=
  { scan with tokens := scan.tokens.push ⟨token, scan.line⟩ }

def moveTo (scan : Scan) (rest : Text) : Scan :=
  let passed := scan.text.take (scan.text.length - rest.length)
  { scan with text := rest, line := scan.line + passed.count '\n' }

/-- The lines up to the one that ends a document, and the text after it. -/
def takeLines (dropsTabs : Bool) (delimiter : Text) : List Text → Text × Text
  | [] => ([], [])
  | line :: rest =>
      let line := if dropsTabs then line.dropWhile (· == '\t') else line
      if line = delimiter then ([], Text.joinWith ['\n'] rest)
      else if rest.isEmpty then (line, [])
      else
        let (lines, after) := takeLines dropsTabs delimiter rest
        (line ++ '\n' :: lines, after)

def readDocument (scan : Scan) (document : Announced) : Scan :=
  let (lines, rest) := takeLines document.dropsTabs document.delimiter (Text.splitAt '\n' scan.text)
  let body : Token :=
    if document.isVerbatim then .document [⟨.text lines, true⟩]
    else
      match readWord scan.variety .document scan.line lines with
      | .error message => .fault message
      | .ok (body, _) => .document body
  { scan.moveTo rest with
    tokens := scan.tokens.setIfInBounds document.index ⟨body, scan.line⟩ }

/-- Goes on behind a line end, and behind the documents that follow it. -/
def newline (scan : Scan) (rest : Text) : Scan :=
  let scan := (scan.push .newline).moveTo rest
  { scan.announced.foldl readDocument scan with announced := [] }

def delimiterOf (word : Word) : Text :=
  word.flatMap fun part =>
    match part.piece with
    | .text text => text
    | .parameter name _ _ _ _ _ => '$' :: name
    | _ => []

def announce (scan : Scan) (dropsTabs : Bool) (rest : Text) : Scan :=
  let delimiter := rest.dropWhile fun c => c == ' ' || c == '\t'
  if delimiter.head?.all endsWord then (scan.push (.redirect none "<<")).moveTo rest
  else
  match readWord scan.variety .bare scan.line delimiter with
  | .error message => (scan.push (.fault message)).moveTo []
  | .ok (word, rest) =>
      let document : Announced :=
        ⟨scan.tokens.size, delimiterOf word, word.any (·.quoted), dropsTabs⟩
      let scan := (scan.push (.document [])).moveTo rest
      { scan with announced := scan.announced ++ [document] }

def operators : Variety → List Text
  | .dash => ["&&", "||", ";;", "&", "|", ";", "(", ")"]
  | .bash => [";;&", ";;", ";&", "&&", "||", "|&", "&", "|", ";", "(", ")"]

def redirectOperators : Variety → List Text
  | .dash => ["<<-", "<<", "<&", "<>", "<", ">>", ">&", ">|", ">"]
  | .bash => ["<<<", "<<-", "<<", "<&", "<>", "<", ">>", ">&", ">|", ">", "&>>", "&>"]

/-- The first of some texts with which a text begins, and the text after it. -/
def firstOf? (starts : List Text) (text : Text) : Option (Text × Text) :=
  starts.findSome? fun start => (Text.after? start text).map fun rest => (start, rest)

/-- A redirection, with the number of its channel in front of it if there is one. -/
def redirection? (variety : Variety) (text : Text) : Option (Option Nat × Text × Text) :=
  let isPath := variety == .bash && (Text.after? "<(" text).isSome
  match firstOf? (redirectOperators variety) text, text with
  | some (operator, rest), _ => if isPath then none else some (none, operator, rest)
  | none, c :: rest =>
      if c.isDigit then
        (firstOf? ((redirectOperators variety).filter (·.head? != some '&')) rest).map
          fun (operator, rest) => (some (c.toNat - '0'.toNat), operator, rest)
      else none
  | none, [] => none

def openingWords : List Text :=
  ["!", "do", "elif", "else", "for", "if", "then", "time", "until", "while", "\x7b"]

/-- Whether a command can begin after the tokens that were read. -/
def atCommand (scan : Scan) : Bool :=
  match scan.tokens.back? with
  | none => true
  | some ⟨.newline, _⟩ => true
  | some ⟨.operator text, _⟩ => text != [')']
  | some ⟨.word word, _⟩ => (plain? word).any openingWords.contains
  | some _ => false

/-- An expression in double brackets where a command can begin, and the text after it. -/
def expression? (scan : Scan) : Option (Text × Text) :=
  match scan.variety, scan.text with
  | .bash, '(' :: '(' :: rest =>
      if scan.atCommand then
        match inside? .script rest with
        | some (expression, ')' :: rest) => some (expression, rest)
        | _ => none
      else none
  | _, _ => none

/-- Reads a word. In a condition, a pattern that comes after its operator ends at a blank. -/
def word (scan : Scan) : Scan :=
  let follows (text : Text) : Bool :=
    match scan.tokens.back? with
    | some ⟨.word before, _⟩ => plain? before == some text
    | _ => false
  let place : Place := if scan.inCondition && follows "=~" then .pattern else .bare
  match readWord scan.variety place scan.line scan.text with
  | .error message =>
      if scan.variety = .bash ∧ message ≠ unclosed .bash ')' then (scan.push (.fault message)).moveTo []
      else (scan.moveTo []).push (.fault message)
  | .ok (word, rest) =>
      let inCondition :=
        if plain? word = some "[[".toList then scan.variety == .bash && scan.atCommand
        else scan.inCondition && plain? word != some "]]".toList
      { (scan.push (.word word)).moveTo rest with inCondition }

def step (scan : Scan) : Scan :=
  match scan.text with
  | [] => scan
  | '\\' :: '\n' :: rest => scan.moveTo rest
  | c :: rest =>
      if c = ' ' ∨ c = '\t' then scan.moveTo rest
      else if c = '\n' then scan.newline rest
      else if c = '#' then scan.moveTo (rest.dropWhile (· != '\n'))
      else
        match scan.expression?, redirection? scan.variety scan.text,
          firstOf? (operators scan.variety) scan.text with
        | some (expression, rest), _, _ => (scan.push (.number expression)).moveTo rest
        | none, some (channel, operator, rest), _ =>
            if operator = "<<".toList then scan.announce false rest
            else if operator = "<<-".toList then scan.announce true rest
            else (scan.push (.redirect channel operator)).moveTo rest
        | none, none, some (operator, rest) => (scan.push (.operator operator)).moveTo rest
        | none, none, none => scan.word

def run : Nat → Scan → Scan
  | 0, scan => scan
  | fuel + 1, scan => if scan.text.isEmpty then scan else run fuel scan.step

end Scan

def tokensFrom (variety : Variety) (line : Nat) (script : Text) : List Placed :=
  let scan := Scan.run (script.length + 1) ⟨variety, script, line, #[], [], false⟩
  ((scan.announced.foldl Scan.readDocument scan).push .finish).tokens.toList

end UniversalModule.Host.Shell
