import UniversalModule.Text.Basic

/-!
Scripts of the shells: words, whose parts are put in when they are used, and the commands that are
made of them.
-/

namespace UniversalModule.Host.Shell

/-- The shells that are installed. The second one reads more than the first. -/
inductive Variety where
  | dash
  | bash
deriving DecidableEq

inductive Where where
  | first
  | everywhere
  | atStart
  | atEnd
deriving DecidableEq

inductive Use where
  | value
  | length
  /-- The operand, when there is no value. -/
  | orElse
  /-- The operand, when there is no value; it becomes the value. -/
  | assign
  /-- A complaint, when there is no value. -/
  | orFail
  /-- The operand, when there is a value. -/
  | instead
  /-- The value without the shortest or longest beginning that fits the operand. -/
  | dropStart (longest : Bool)
  | dropEnd (longest : Bool)
  /-- The characters from an offset on, as many as a length says; the operand holds both. -/
  | slice
  /-- The value with a text in place of what fits a pattern; the operand holds both. -/
  | replace (place : Where)
  /-- The value in capitals or in small letters, or only its first character so. -/
  | inCase (isUpper isWhole : Bool)
  /-- The value of the parameter that the value names. -/
  | indirect
  /-- The keys of a list. -/
  | keys
  | unknown
deriving DecidableEq

inductive Piece where
  | text (text : Text)
  /-- With `orEmpty`, an empty value counts as none. -/
  | parameter (name : Text) (index : Option Text) (use : Use) (orEmpty : Bool) (operand : Text) (line : Nat)
  /-- What a script prints that begins in a line; it may stand between back quotes. -/
  | output (script : Text) (isBack : Bool) (line : Nat)
  /-- The path of a file that holds what a script prints. -/
  | path (script : Text)
  | number (expression : Text)
deriving DecidableEq

structure Part where
  piece : Piece
  quoted : Bool
deriving DecidableEq

abbrev Word := List Part

/-- The text of a word in which nothing is quoted or put in. -/
def plain? : Word → Option Text
  | [⟨.text text, false⟩] => some text
  | _ => none

/-- What becomes of a file that is there already when a channel leads to it. -/
inductive Writing where
  | anew
  /-- Anew, even where files are to be spared. -/
  | over
  | behind
deriving DecidableEq

inductive Redirection where
  | input (channel : Nat) (word : Word)
  | output (channel : Nat) (writing : Writing) (word : Word)
  /-- What is printed on either channel. -/
  | both (writing : Writing) (word : Word)
  /-- A channel becomes what another one is. -/
  | copy (channel : Nat) (word : Word)
  /-- The input stands in the script. -/
  | document (body : Word)
  /-- The input is a word. -/
  | line (word : Word)

inductive Assigned where
  | word (word : Word)
  | list (words : List Word)

structure Assignment where
  name : Text
  index : Option Word
  appends : Bool
  value : Assigned

inductive AfterCase where
  | nothing
  /-- The command of the next case. -/
  | next
  /-- The next case that fits. -/
  | others
deriving DecidableEq

inductive Command where
  | nothing
  | simple (line : Nat) (assignments : List Assignment) (words : List Word)
  | redirected (redirections : List Redirection) (command : Command)
  | inOrder (first second : Command)
  | afterSuccess (first second : Command)
  | afterFailure (first second : Command)
  | negated (command : Command)
  /-- The second command reads what the first one prints. -/
  | pipe (first second : Command)
  /-- A command whose changes to the shell are forgotten. -/
  | isolated (command : Command)
  /-- A command for whose end the shell does not wait. -/
  | background (command : Command)
  | branch (condition first second : Command)
  /-- A command that is repeated as long as a condition succeeds, or fails. -/
  | loop (succeeds : Bool) (condition body : Command)
  /-- A command for each of some words, or for each argument. -/
  | each (line : Nat) (name : Text) (words : Option (List Word)) (body : Command)
  /-- A command that is repeated as an expression says, after one expression and before another. -/
  | count (line : Nat) (start condition step : Text) (body : Command)
  /-- The command of the first case with a pattern that fits a word. -/
  | select (line : Nat) (word : Word) (cases : List (List Word × AfterCase × Command))
  /-- Succeeds when an expression is not 0. -/
  | number (line : Nat) (expression : Text)
  /-- Succeeds when a condition in double brackets holds. -/
  | condition (line : Nat) (words : List Word)
  | define (name : Text) (body : Command)

def isNameStart (c : Char) : Bool := c.isAlpha || c == '_'

def isNameChar (c : Char) : Bool := c.isAlphanum || c == '_'

def isName : Text → Bool
  | [] => false
  | c :: rest => isNameStart c && rest.all isNameChar

/-- Splits a word behind the brackets with which it goes on after a name. -/
def indexOf? : Nat → Word → Word → Option (Word × Word)
  | 0, _, _ => none
  | _, _, [] => none
  | fuel + 1, read, ⟨.text text, false⟩ :: parts =>
      match text.dropWhile (· != ']') with
      | [] => indexOf? fuel (read ++ [⟨.text text, false⟩]) parts
      | _ :: rest => some (read ++ [⟨.text (text.takeWhile (· != ']')), false⟩], ⟨.text rest, false⟩ :: parts)
  | fuel + 1, read, part :: parts => indexOf? fuel (read ++ [part]) parts

/-- What an assignment gives, after the name and the index. -/
def assignedBy? (variety : Variety) : Word → Option (Bool × Word)
  | ⟨.text text, false⟩ :: parts =>
      let value (rest : Text) : Word := if rest.isEmpty then parts else ⟨.text rest, false⟩ :: parts
      match text, variety with
      | '=' :: rest, _ => some (false, value rest)
      | '+' :: '=' :: rest, .bash => some (true, value rest)
      | _, _ => none
  | _ => none

def assignment? (variety : Variety) : Word → Option Assignment
  | ⟨.text text, false⟩ :: parts => do
      let name := text.takeWhile isNameChar
      guard (isName name)
      let rest : Word := ⟨.text (text.dropWhile isNameChar), false⟩ :: parts
      match text.dropWhile isNameChar, variety with
      | '[' :: inside, .bash => do
          let (index, rest) ← indexOf? (parts.length + 2) [] (⟨.text inside, false⟩ :: parts)
          let (appends, value) ← assignedBy? variety rest
          some ⟨name, some index, appends, .word value⟩
      | _, _ => do
          let (appends, value) ← assignedBy? variety rest
          some ⟨name, none, appends, .word value⟩
  | _ => none

end UniversalModule.Host.Shell
