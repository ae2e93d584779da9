import UniversalModule.Host.Exit
import UniversalModule.Host.Files
import UniversalModule.Host.Quoting
import UniversalModule.Host.Shell.Format

/-!
How the small programs work: what they are called with, what they read and print, how they complain
and how they read their options.
-/

namespace UniversalModule.Host.Utility

structure Call (m : Type → Type) where
  /-- What the program is called. -/
  name : Text
  folder : Path
  arguments : List Text
  /-- Whether the input is a file, in which the program can go back. -/
  inputIsFile : Bool
  environment : Environment
  /-- Why the program cannot print, if it cannot. -/
  outputFault : Option IoFault
  files : Files m
  launch : Launcher m

structure Progress where
  /-- What is left of the input. -/
  input : Bytes
  /-- What was printed, the latest first. -/
  printed : List (Channel × Bytes)
  status : Nat
  /-- How the program ended whose place this one has given up. -/
  ending : Option Ending

/-- What a program does; it may end before its last step. -/
abbrev Work (m : Type → Type) := ExceptT Unit (StateT Progress m)

variable {m : Type → Type} [Monad m]

def exitOf (work : Work m Unit) (input : Bytes) : m Exit := do
  let (_, ended) ← work.run.run ⟨input, [], 0, none⟩
  return ⟨ended.ending.getD (.status ended.status), ended.printed.reverse, ended.input⟩

def ask {α : Type} (action : m α) : Work m α := ExceptT.lift (StateT.lift action)

def print (bytes : Bytes) : Work m Unit :=
  if bytes.isEmpty then return ()
  else modify fun progress => { progress with printed := (.output, bytes) :: progress.printed }

def printText (text : Text) : Work m Unit := print text.utf8

def printLine (line : Text) : Work m Unit := printText (line ++ ['\n'])

def printError (text : Text) : Work m Unit :=
  modify fun progress => { progress with printed := (.errors, text.utf8) :: progress.printed }

def giveStatus (status : Nat) : Work m Unit :=
  modify fun progress => { progress with status := max progress.status status }

def stop {α : Type} (status : Nat) : Work m α := do
  modify fun progress => { progress with status }
  throw ()

def takeInput : Work m Bytes := do
  let progress ← get
  set { progress with input := [] }
  return progress.input

namespace Call

variable (call : Call m)

/-- Leaves bytes of the input to the next program, if the input is a file. -/
def putBack (bytes : Bytes) : Work m Unit :=
  if call.inputIsFile then modify fun progress => { progress with input := bytes } else return ()

def complain (status : Nat) (message : Text) : Work m Unit := do
  printError (call.name ++ ": " ++ message ++ ['\n'])
  giveStatus status

def fail {α : Type} (status : Nat) (message : Text) : Work m α := do
  call.complain status message
  throw ()

/-- The line that points to an explanation. Programs that compare files put their name before it. -/
def helpLine : Text :=
  let head : Text :=
    if (["cmp", "diff"] : List Text).any fun name => name.isSuffixOf call.name then call.name ++ ": " else []
  '\n' :: (head ++ "Try '" ++ call.name ++ " --help' for more information.")

def place (path : Text) : Path := pathFrom call.folder ⟨path⟩

def find (path : Text) : Work m (Except IoFault Entry) := ask (call.files.find (call.place path))

/-- What a path leads to when its last name is not followed. -/
def findUnfollowed (path : Text) : Work m (Except IoFault Entry) :=
  ask (call.files.findUnfollowed (call.place path))

def isThere (path : Text) : Work m Bool := return (← call.find path).isOk

def isFolder (path : Text) : Work m Bool := ask (call.files.isFolder (call.place path))

def isInput (path : Text) : Bool := path == "/dev/stdin".toList || path == "/dev/fd/0".toList

def read (path : Text) : Work m (Except IoFault Bytes) := do
  if path = ['-'] ∨ isInput path then return .ok (← takeInput)
  else ask (call.files.read (call.place path))

def write (path : Text) (content : Bytes) : Work m (Except IoFault Unit) := do
  if path = "/dev/stdout".toList ∨ path = "/dev/fd/1".toList then
    print content
    return .ok ()
  else if path = "/dev/stderr".toList ∨ path = "/dev/fd/2".toList then
    modify fun progress => { progress with printed := (.errors, content) :: progress.printed }
    return .ok ()
  else ask (call.files.write (call.place path) content)

/-- Starts another program with what is left of the input. -/
def start (program : Text) (arguments : List Text) (environment : Environment) :
    Work m (Except IoFault Ending) := do
  let input ← takeInput
  let folders := foldersOf environment
  let launch : Launch :=
    ⟨call.folder, program, folders, arguments, input, call.inputIsFile, environment, call.outputFault⟩
  let ended ←
    match ← ask (call.launch launch) with
    | .error .notProgram =>
        let path ←
          if program.contains '/' then pure program
          else pure ((← ask (call.files.search call.folder program folders)).toOption.getD program)
        ask (call.launch { launch with program := "/bin/sh", arguments := path :: arguments })
    | ended => pure ended
  match ended with
  | .error fault => do
      modify fun progress => { progress with input }
      return .error fault
  | .ok exit =>
      modify fun progress => { progress with
        input := exit.unread
        printed := exit.printed.reverse ++ progress.printed }
      return .ok exit.ending

end Call

/-- An option that a program knows: its letters and long names, and whether a value follows. -/
structure Known where
  names : List Text
  takesValue : Bool
  /-- A value follows only behind an equals sign, or directly behind the letter. -/
  isOptional : Bool

/-- The options from their names: names of one option are joined by commas, and an equals sign says
that a value follows, a question mark that one may. -/
def knownOptions (names : Text) : List Known :=
  ((Text.splitAt ' ' names).filter (!List.isEmpty ·)).map fun item =>
    let bare := item.filter fun c => c != '=' && c != '?'
    ⟨Text.splitAt ',' bare, item.getLast? == some '=', item.getLast? == some '?'⟩

/-- An option that was given, under the first of its names. -/
structure Given where
  name : Text
  value : Text

inductive OptionFault where
  | unknownLetter (letter : Char)
  | unknownName (name : Text)
  | ambiguous (name : Text) (candidates : List Text)
  | valueMissing (letter : Char)
  | valueMissingAt (name : Text)
  | valueUnwanted (name : Text)

def OptionFault.message : OptionFault → Text
  | .unknownLetter letter => "invalid option -- '" ++ [letter, '\'']
  | .unknownName name => "unrecognized option '--" ++ name ++ ['\'']
  | .ambiguous name candidates =>
      let listed : Text := candidates.flatMap fun candidate => " '--" ++ candidate ++ ['\'']
      "option '--" ++ name ++ "' is ambiguous; possibilities:" ++ listed
  | .valueMissing letter => "option requires an argument -- '" ++ [letter, '\'']
  | .valueMissingAt name => "option '--" ++ name ++ "' requires an argument"
  | .valueUnwanted name => "option '--" ++ name ++ "' doesn't allow an argument"

def optionOfLetter? (known : List Known) (letter : Char) : Option Known :=
  known.find? fun option => option.names.contains [letter]

/-- The long names that begin with a text; the text itself alone if it is one of them. -/
def longNames (known : List Known) (start : Text) : List (Text × Known) :=
  let all := known.flatMap fun option =>
    (option.names.filter fun name => name.length != 1).map fun name => (name, option)
  match all.filter fun entry => entry.1 == start with
  | [] => all.filter fun entry => start.isPrefixOf entry.1
  | same => same

def firstName (option : Known) : Text := option.names.headD []

/-- Reads a long option; gives it and the arguments behind it. -/
def readLong (known : List Known) (argument : Text) (rest : List Text) :
    Except OptionFault (Given × List Text) :=
  let start := argument.takeWhile (· != '=')
  let value? := if argument.contains '=' then some (argument.drop (start.length + 1)) else none
  let found := longNames known start
  match found, value?, rest with
  | [], _, _ => .error (.unknownName start)
  | (name, option) :: others, value?, rest =>
      if others.any fun other => firstName other.2 != firstName option then
        .error (.ambiguous start (found.map Prod.fst))
      else
        match value?, rest, option.takesValue, option.isOptional with
        | some value, _, true, _ => .ok (⟨firstName option, value⟩, rest)
        | some value, _, _, true => .ok (⟨firstName option, value⟩, rest)
        | some _, _, false, false => .error (.valueUnwanted name)
        | none, value :: rest, true, _ => .ok (⟨firstName option, value⟩, rest)
        | none, [], true, _ => .error (.valueMissingAt name)
        | none, _, false, _ => .ok (⟨firstName option, []⟩, rest)

/-- Reads the letters behind one sign; gives the options and the arguments behind them. -/
def readLetters (known : List Known) : Text → List Text → Except OptionFault (List Given × List Text)
  | [], rest => .ok ([], rest)
  | letter :: letters, rest =>
      match optionOfLetter? known letter with
      | none => .error (.unknownLetter letter)
      | some option =>
          if option.takesValue then
            match letters, rest with
            | [], [] => .error (.valueMissing letter)
            | [], value :: rest => .ok ([⟨firstName option, value⟩], rest)
            | letters, rest => .ok ([⟨firstName option, letters⟩], rest)
          else if option.isOptional then .ok ([⟨firstName option, letters⟩], rest)
          else do
            let (others, rest) ← readLetters known letters rest
            .ok (⟨firstName option, []⟩ :: others, rest)

/-- Reads options among operands; without `permutes`, the first operand ends them. -/
def readOptions (known : List Known) (permutes : Bool) :
    Nat → List Text → Except OptionFault (List Given × List Text)
  | _, [] => .ok ([], [])
  | 0, arguments => .ok ([], arguments)
  | fuel + 1, argument :: rest =>
      match argument with
      | ['-', '-'] => .ok ([], rest)
      | '-' :: '-' :: name => do
          let (given, rest) ← readLong known name rest
          let (others, operands) ← readOptions known permutes fuel rest
          .ok (given :: others, operands)
      | '-' :: letter :: letters => do
          let (given, rest) ← readLetters known (letter :: letters) rest
          let (others, operands) ← readOptions known permutes fuel rest
          .ok (given ++ others, operands)
      | operand =>
          if permutes then do
            let (given, operands) ← readOptions known permutes fuel rest
            .ok (given, operand :: operands)
          else .ok ([], operand :: rest)

def isGiven (given : List Given) (name : Text) : Bool := given.any fun option => option.name == name

def valueGiven? (given : List Given) (name : Text) : Option Text :=
  ((given.filter fun option => option.name == name).getLast?).map Given.value

variable (call : Call m)

/-- Reads the options of a call; ends it with a status when one is refused. -/
def Call.optionsWith (permutes : Bool) (status : Nat) (names : Text) (arguments : List Text) :
    Work m (List Given × List Text) := do
  match readOptions (knownOptions names) permutes (arguments.flatten.length + arguments.length + 1) arguments with
  | .ok found => return found
  | .error fault => call.fail status (fault.message ++ call.helpLine)

def Call.options (status : Nat) (names : Text) : Work m (List Given × List Text) :=
  call.optionsWith true status names call.arguments

def octets (bytes : Bytes) : Text := bytes.map fun byte => Char.ofNat byte.toNat

def octetsOf (text : Text) : Text := octets text.utf8

def bytesOf (octets : Text) : Bytes := octets.map fun c => UInt8.ofNat c.toNat

def printOctets (octets : Text) : Work m Unit := print (bytesOf octets)

/-- The lines of a text, without their ends. A last line may have none. -/
def linesOf (ending : Char) (text : Text) : List Text :=
  let pieces := Text.splitAt ending text
  if pieces.getLast? = some [] then pieces.dropLast else pieces

/-- The octets of files one after another; those that cannot be read are complained of. -/
def Call.readAll (paths : List Text) (refuse : Text → IoFault → Work m Unit) : Work m (List (Text × Text)) := do
  let mut found := []
  for path in if paths.isEmpty then [['-']] else paths do
    match ← call.read path with
    | .ok content => found := (path, octets content) :: found
    | .error fault => refuse path fault
  return found.reverse

/-- Complains of a file that cannot be read, in the usual words. -/
def Call.refuseFile (path : Text) (fault : IoFault) : Work m Unit :=
  call.complain 1 (quotedIfOdd path ++ ": " ++ fault.reason)

def digits? (word : Text) : Option Nat :=
  if word.isEmpty ∨ word.any (!Char.isDigit ·) then none
  else some (word.foldl (fun value c => 10 * value + (c.toNat - '0'.toNat)) 0)

/-- Whether a word is a number of seconds, or of what a letter says. -/
def isTime (word : Text) : Bool :=
  let number := word.takeWhile fun c => c.isDigit || c == '.'
  let unit := word.drop number.length
  number.any Char.isDigit && number.count '.' ≤ 1 &&
    ([[], ['s'], ['m'], ['h'], ['d']] : List Text).contains unit ||
      word == "inf".toList || word == "infinity".toList

/-- A time in thousandths of a second; nothing for one without end. -/
def thousandths? (word : Text) : Option Nat :=
  let number := word.takeWhile fun c => c.isDigit || c == '.'
  let whole := number.takeWhile Char.isDigit
  let places := ((number.drop (whole.length + 1)) ++ "000".toList).take 3
  let factor := match word.drop number.length with
    | ['m'] => 60
    | ['h'] => 3600
    | ['d'] => 86400
    | _ => 1
  if isTime word ∧ number.isEmpty = false then
    some (((digits? whole).getD 0 * 1000 + (digits? places).getD 0) * factor)
  else none

/-- A text with blanks in front of it, so that it has a width. -/
def padLeft (width : Nat) (text : Text) : Text := List.replicate (width - text.length) ' ' ++ text

end UniversalModule.Host.Utility
