import UniversalModule.Host.Editor.Session

/-!
What the instructions of an editor do. A cycle reads a line, follows the script and prints what has
become of the line.
-/

namespace UniversalModule.Host.Editor

open Utility (Call Work)

inductive Flow where
  | goOn
  /-- The instruction behind a label, or the end of the script. -/
  | jump (label : Text)
  /-- The cycle ends, and the line is printed. -/
  | finished
  /-- The cycle ends, and the line is not printed. -/
  | dropped
  /-- The script begins again with what is left of the line. -/
  | again
  | quit (status : Nat)

variable {m : Type → Type} [Monad m] (call : Call m)

def shown (c : Char) : Text :=
  match c with
  | '\\' => "\\\\"
  | '\x07' => "\\a"
  | '\x08' => "\\b"
  | '\x0c' => "\\f"
  | '\n' => "\\n"
  | '\r' => "\\r"
  | '\t' => "\\t"
  | '\x0b' => "\\v"
  | c =>
      if ' ' ≤ c ∧ c ≤ '~' then [c]
      else
        let digits := Nat.toDigits 8 c.toNat
        '\\' :: (List.replicate (3 - digits.length) '0' ++ digits)

/-- Pieces in lines of at most a width, which end in a backslash where they go on. -/
def wrapped (width : Nat) : Nat → List Text → Text
  | _, [] => ['$']
  | column, piece :: pieces =>
      if 1 < width ∧ width < column + piece.length + 1 then
        "\\\n" ++ piece ++ wrapped width piece.length pieces
      else piece ++ wrapped width (column + piece.length) pieces

def firstLine (text : Text) : Text := text.takeWhile (· != '\n')

def isLongerThanLine (text : Text) : Bool := text.contains '\n'

def setSpace (space : Text) : Editing m Unit := change fun session => { session with space }

def addToQueue (waiting : Waiting) : Editing m Unit :=
  change fun session => { session with queue := session.queue ++ [waiting] }

/-- Prints the line that is worked on, unless the mode says not to. -/
def putUnlessQuiet : Editing m Unit := do
  if !(← get).mode.isQuiet then putSpace

def substitute (substitution : Substitution) : Editing m Unit := do
  let regex ← regexOf call substitution.pattern
  let session ← get
  match substitution.changed? (subjectOf substitution.pattern session.space) regex with
  | none => pure ()
  | some space => do
      set { session with space, hasReplaced := true }
      if substitution.prints then putSpace
      match substitution.output with
      | some path => putTo call path space session.current.hasEnd
      | none => pure ()

/-- Takes one line more of a file that is read line by line. -/
def takeLine (path : Text) : Editing m Unit := do
  let lines ← match (← get).sources.get? path with
    | some lines => pure lines
    | none => do
        match ← call.read path with
        | .ok content => pure (Utility.linesOf '\n' (Utility.octets content))
        | .error _ => pure []
  match lines with
  | [] => change fun session => { session with sources := session.sources.put path [] }
  | line :: lines => do
      change fun session => { session with sources := session.sources.put path lines }
      addToQueue (.line line)

/-- Goes on with the next line; without one, the cycle ends. -/
def goToNext (space : Line → Session → Text) : Editing m Flow := do
  match ← nextLine call with
  | some line => do
      change fun session => { session with space := space line session }
      return .goOn
  | none => return .finished

def jumpIf (condition : Bool) (label : Text) : Editing m Flow := do
  change fun session => { session with hasReplaced := false }
  return if condition then .jump label else .goOn

def perform (place : Nat) : Action → Editing m Flow
  | .opening => return .goOn
  | .closing => return .goOn
  | .label _ => return .goOn
  | .nothing => return .goOn
  | .append text => do
      addToQueue (.text text)
      return .goOn
  | .insert text => do
      put text
      return .goOn
  | .change text => do
      if !(← isInMiddle place) then put text
      return .dropped
  | .substitute substitution => do
      substitute call substitution
      return .goOn
  | .translate pairs => do
      setSpace ((← get).space.map fun c => ((pairs.find? fun pair => pair.1 == c).map Prod.snd).getD c)
      return .goOn
  | .delete => return .dropped
  | .deleteLine => do
      let space := (← get).space
      if isLongerThanLine space then
        setSpace (space.drop ((firstLine space).length + 1))
        return .again
      else return .dropped
  | .print => do
      putSpace
      return .goOn
  | .printLine => do
      putLine (firstLine (← get).space) true
      return .goOn
  | .next => do
      if (← get).waiting.isEmpty then return .finished
      putUnlessQuiet
      goToNext call fun line _ => line.text
  | .appendNext => do
      if (← get).waiting.isEmpty then return .finished
      goToNext call fun line session => session.space ++ '\n' :: line.text
  | .keep => do
      change fun session => { session with hold := session.space }
      return .goOn
  | .keepMore => do
      change fun session => { session with hold := session.hold ++ '\n' :: session.space }
      return .goOn
  | .recall => do
      change fun session => { session with space := session.hold }
      return .goOn
  | .recallMore => do
      change fun session => { session with space := session.space ++ '\n' :: session.hold }
      return .goOn
  | .exchange => do
      change fun session => { session with space := session.hold, hold := session.space }
      return .goOn
  | .jump label => return .jump label
  | .jumpIfChanged label => do jumpIf (← get).hasReplaced label
  | .jumpUnlessChanged label => do jumpIf (!(← get).hasReplaced) label
  | .quit status prints => do
      if prints then
        putUnlessQuiet
        flush call
      return .quit status
  | .number => do
      put (Text.ofNat (← get).number ++ ['\n'])
      return .goOn
  | .name => do
      let path := (← get).current.path
      put ((if path.isEmpty then ['-'] else path) ++ ['\n'])
      return .goOn
  | .list width => do
      let session ← get
      put (wrapped (width.getD session.mode.width) 0 (session.space.map shown) ++ ['\n'])
      return .goOn
  | .read path => do
      addToQueue (.file path)
      return .goOn
  | .readLine path => do
      takeLine call path
      return .goOn
  | .write path => do
      let session ← get
      putTo call path session.space session.current.hasEnd
      return .goOn
  | .writeLine path => do
      putTo call path (firstLine (← get).space) true
      return .goOn
  | .empty => do
      setSpace []
      return .goOn

/-- The place behind the instruction that closes what was opened in front of a place. -/
def closingFrom (script : Script) : Nat → Nat → Nat → Nat
  | 0, _, place => place
  | fuel + 1, depth, place =>
      match script[place]? with
      | none => place
      | some instruction =>
          match instruction.action, depth with
          | .closing, 0 => place + 1
          | .closing, depth + 1 => closingFrom script fuel depth (place + 1)
          | .opening, depth => closingFrom script fuel (depth + 1) (place + 1)
          | _, depth => closingFrom script fuel depth (place + 1)

/-- The place behind a label; the end of the script is behind the empty one. -/
def placeOf (script : Script) (target : Text) : Nat :=
  if target.isEmpty then script.size
  else
    let isTarget (instruction : Instruction) : Bool :=
      match instruction.action with
      | .label name => name == target
      | _ => false
    ((script.toList.findIdx? isTarget).map (· + 1)).getD script.size

/-- Follows the script from a place on. The fuel bounds the instructions of a cycle. -/
def follow : Nat → Nat → Editing m Flow
  | 0, _ => return .finished
  | fuel + 1, place => do
      let script := (← get).script
      match script[place]? with
      | none => return .finished
      | some instruction => do
          if (← isSelected call place instruction.selection) == instruction.isNegated then
            match instruction.action with
            | .opening => follow fuel (closingFrom script script.size 0 (place + 1))
            | _ => follow fuel (place + 1)
          else
            match ← perform call place instruction.action with
            | .goOn => follow fuel (place + 1)
            | .jump label => follow fuel (placeOf script label)
            | flow => return flow

/-- How many instructions a cycle may follow, and how many cycles there may be. -/
def stepLimit : Nat := 1000000

/-- Runs cycles; gives the status with which the script ends. -/
def cycles : Nat → Bool → Editing m Nat
  | 0, _ => return 0
  | fuel + 1, readsLine => do
      if readsLine then
        match ← nextLine call with
        | none => return 0
        | some line => change fun session => { session with space := line.text }
      match ← follow call stepLimit 0 with
      | .quit status => return status
      | .dropped => cycles fuel true
      | .again => do
          flush call
          cycles fuel false
      | _ => do
          putUnlessQuiet
          flush call
          cycles fuel true

/-- Edits lines; gives the status with which the script ends and the lines that were not read. -/
def edit (mode : Mode) (script : Script) (lines : List Line) : Work m (Nat × List Line) := do
  let session : Session := {
    mode, script
    waiting := lines
    current := ⟨[], true, [], false, false⟩
    number := 0
    space := []
    hold := []
    reaches := startReaches script
    hasReplaced := false
    lastRegex := none
    queue := []
    printed := Sheet.blank
    written := []
    sources := [] }
  let run : Editing m Nat := do
    let status ← cycles call stepLimit true
    writeFiles call
    handOver call
    return status
  let (status, ended) ← run.run session
  return (status, ended.waiting)

end UniversalModule.Host.Editor
