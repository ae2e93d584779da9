import UniversalModule.Host.Shell.Alias
import UniversalModule.Host.Shell.Assigning
import UniversalModule.Host.Shell.Builtin

/-!
What is run under the words of a command: functions, scripts that are read in or evaluated, what a
shell runs itself, and programs.
-/

namespace UniversalModule.Host.Shell

variable {m : Type → Type} [Monad m]

/-- How commands are run in their turn; the flag tells that failure is provided for. -/
abbrev Runner (m : Type → Type) := Bool → Command → State → m State

structure Source where
  text : Text
  /-- The number of its first line. -/
  line : Nat
  /-- What is said of it in complaints, behind the name of the script. -/
  label : Text
  /-- Whether the script ends when it cannot be read on. -/
  isMain : Bool
  /-- Whether its lines can be told as they are read. -/
  isEchoed : Bool

def Source.lineText (source : Source) (line : Nat) : Text :=
  ((Text.splitAt '\n' source.text)[line - source.line]?).getD []

def refuseSource (setting : Setting m) (source : Source) (fault : ReadFault) (state : State) : m State := do
  match setting.variety with
  | .dash => setting.finish (syntaxText .dash fault.message) { state with line := fault.line }
  | .bash => do
      let line := if fault.near = some .newline then fault.line - 1 else fault.line
      let place : Text := state.source ++ ": " ++ source.label ++ "line " ++ Text.ofNat line ++ ": "
      let message : Text :=
        match fault.near with
        | some .finish => place ++ "syntax error: unexpected end of file\n"
        | some token =>
            place ++ "syntax error near unexpected token \x60" ++ sourceOf token ++ "'\n" ++
              place ++ '\x60' :: source.lineText line ++ "'\n"
        | none => place ++ fault.message ++ ['\n']
      let state ← setting.emit 2 message.utf8 state
      return { state with status := 2, flow := if source.isMain then .ended else state.flow }

/-- What a line that was given up leaves; a part of a script that runs apart ends with it. -/
def afterLine (state : State) : State :=
  if state.flow = .discarding then { state with flow := if state.isApart then .ended else .going }
  else state

/-- The text of some lines, from one behind which all is told up to another one. -/
def Source.linesBehind (source : Source) (told line : Nat) : Text :=
  let lines := (Text.splitAt '\n' source.text).zipIdx source.line
  let last := source.line + lines.length - 1
  lines.flatMap fun (text, number) =>
    if told < number ∧ number ≤ line then text ++ (if number = last then [] else ['\n']) else []

/-- The last line of the tokens that were read; a document that stands in the script reaches as far as
the next token. -/
def lastLineRead (tokens rest : List Placed) : Nat :=
  let read := tokens.take (tokens.length - rest.length)
  let isDocument (placed : Placed) : Bool :=
    match placed.token with
    | .document _ => true
    | _ => false
  match rest, read.getLast? with
  | next :: _, some last => if read.any isDocument then max last.line (next.line - 1) else last.line
  | _, some last => last.line
  | next :: _, none => next.line
  | [], none => 0

/-- Tells lines as they are read, where that is asked for. -/
def echoLines (setting : Setting m) (source : Source) (told line : Nat) (state : State) : m State := do
  if source.isEchoed ∧ state.flags.echoes then
    setting.emit 2 (Text.utf8 (source.linesBehind told line)) state
  else return state

/-- Runs the lines of a text one after another, as many as the fuel allows; those up to one are told
already. -/
def runLines (setting : Setting m) (run : Command → State → m State) (source : Source) :
    Nat → Nat → List Placed → State → m State
  | 0, _, _, state => return state
  | fuel + 1, told, tokens, state => do
      if state.isGoing = false then return state
      let aliases := if expandsAliases setting.variety state then state.aliases else []
      match nextAliasedLine setting.variety aliases tokens with
      | .error fault => refuseSource setting source fault (← echoLines setting source told fault.line state)
      | .ok none =>
          echoLines setting source told ((tokens.getLast?.map Placed.line).getD told) state
      | .ok (some (command, rest)) => do
          let line := lastLineRead tokens rest
          let state ← echoLines setting source told line state
          let state ← if state.flags.onlyReads then pure state else run command state
          runLines setting run source fuel line rest (afterLine state)

def runText (setting : Setting m) (run : Command → State → m State) (source : Source) (state : State) :
    m State :=
  let isClosed := setting.variety = .dash ∨ source.text.getLast?.all fun c => c == '\n' || c == '\\'
  let source := if isClosed then source else { source with text := source.text ++ ['\n'] }
  let tokens := tokensFrom setting.variety source.line source.text
  runLines setting run source (tokens.length + 1) (source.line - 1) tokens state

/-- Runs what is to be run when a signal has come or at the end. -/
def runAction (setting : Setting m) (run : Command → State → m State) (action : Text) (state : State) :
    m State := do
  let inner ← runText setting run ⟨action, 1, [], false, false⟩
    { state with trapStatus := some state.status, flow := .going }
  let restored := { inner with trapStatus := state.trapStatus, line := state.line }
  return if inner.isGoing then { restored with status := state.status, flow := state.flow } else restored

/-- Runs what is to be run for the signals that have come. -/
def runPending (setting : Setting m) (run : Command → State → m State) (state : State) : m State :=
  state.pending.foldlM (fun state signal =>
    if state.isGoing then runAction setting run ((state.traps.get? signal).getD []) state
    else return state) { state with pending := [] }

/-- Ends the script after a failure that nothing provides for, where that is asked for. -/
def afterFailure (setting : Setting m) (run : Runner m) (isTested : Bool) (state : State) : m State := do
  if isTested ∨ state.status = 0 ∨ state.isGoing = false then return state
  else
    let state ←
      match state.traps.get? failureTrap, state.shadowed, state.trapStatus with
      | some action, none, none => runAction setting (run true) action state
      | _, _, _ => pure state
    return if state.flags.endsOnFailure ∧ state.isGoing then { state with flow := .ended } else state

def runAtEnd (setting : Setting m) (run : Command → State → m State) (state : State) : m State := do
  let isCutOff :=
    match state.flow, setting.variety with
    | .killed _, .dash => true
    | .killed signal, .bash => signal == 9
    | _, _ => false
  match state.traps.get? 0, isCutOff with
  | some action, false =>
      runAction setting run action { state with traps := state.traps.filter fun trap => trap.1 != 0 }
  | _, _ => return state

/-- A part of a script that runs apart from it. What the script wanted to be run for signals is
forgotten there, but for the signals that it passes over. -/
def State.apart (state : State) : State :=
  { state with
    loops := 0
    traps := state.traps.filter fun trap => trap.2.isEmpty
    pending := []
    isApart := true
    toMain := [] }

def State.catching (state : State) : State :=
  { (state.apart.putSink 1 .caught) with caught := [] }

/-- What is left for the shell of a part that ran apart from it. -/
def State.rejoined (outer inner : State) : State :=
  inner.toMain.foldl State.receive { outer with printed := inner.printed, status := inner.status }

/-- How a shell calls the signals by which programs end. -/
def signalDescription? (number : Nat) : Option Text :=
  match number with
  | 1 => some "Hangup"
  | 3 => some "Quit"
  | 4 => some "Illegal instruction"
  | 5 => some "Trace/breakpoint trap"
  | 6 => some "Aborted"
  | 7 => some "Bus error"
  | 8 => some "Floating point exception"
  | 9 => some "Killed"
  | 10 => some "User defined signal 1"
  | 11 => some "Segmentation fault"
  | 12 => some "User defined signal 2"
  | 14 => some "Alarm clock"
  | 15 => some "Terminated"
  | _ => none

def afterProgram (setting : Setting m) (exit : Exit) (state : State) : m State := do
  let state ← setting.emitAll exit.printed state
  let state := { state with input := exit.unread, status := exit.ending.code }
  match setting.variety, exit.ending with
  | .dash, .signal number =>
      match signalDescription? number with
      | some description => setting.emit 2 (Text.utf8 (description ++ ['\n'])) state
      | none => return state
  | _, _ => return state

def State.launchOf (variety : Variety) (state : State) (program : Text) (words : List Text) : Launch where
  folder := state.folder
  program := program
  folders := state.folders variety
  arguments := words
  input := state.input
  inputIsFile := state.inputIsFile
  environment := state.environment variety
  outputFault :=
    match state.sinks.get? 1 with
    | none => some .notOpen
    | some (.refusing fault) => some fault
    | some _ => none

/-- Runs a file that says nothing of what runs it as a script of the shell. -/
def launchScript (setting : Setting m) (program : Text) (words : List Text) (state : State) :
    m (Except IoFault Exit) := do
  let folders := state.folders setting.variety
  let path ←
    if program.contains '/' then pure program
    else pure ((← setting.files.search state.folder program folders).toOption.getD program)
  let shell : Text := match setting.variety with
    | .dash => "/bin/sh"
    | .bash => "/bin/bash"
  setting.launch (state.launchOf setting.variety shell (path :: words))

/-- Complains of a program that cannot be run; `name` is what it is called then. -/
def refuseProgram (setting : Setting m) (name program : Text) (fault : IoFault) (state : State) :
    m State := do
  let isMissing := fault == .notFound || fault == .notDirectory || fault == .nameTooLong
  let place := pathFrom state.folder ⟨program⟩
  let reason ←
    if program.isEmpty ∧ setting.variety = .dash then pure ("Permission denied" : Text)
    else
      match setting.variety, program.contains '/', isMissing with
      | .dash, _, true => pure "not found"
      | .dash, _, false => pure fault.reason
      | .bash, false, true =>
          if ((state.values.get? "PATH".toList).getD []).isEmpty then pure fault.reason
          else pure "command not found"
      | .bash, false, false => pure fault.reason
      | .bash, true, true =>
          if ← setting.files.isThere place then pure "cannot execute: required file not found"
          else pure fault.reason
      | .bash, true, false =>
          if ← setting.files.isFolder place then pure (IoFault.reason .isDirectory) else pure fault.reason
  setting.complain (name ++ ": " ++ reason) (if isMissing then 127 else 126) state

def launchProgram (setting : Setting m) (program : Text) (words : List Text) (state : State) :
    m (Except IoFault Exit) := do
  match ← setting.launch (state.launchOf setting.variety program words) with
  | .error .notProgram => launchScript setting program words state
  | ended => return ended

def runProgram (setting : Setting m) (program : Text) (words : List Text) (state : State) : m State := do
  match ← launchProgram setting program words state with
  | .ok exit => afterProgram setting exit (state.look program)
  | .error fault => do
      let refused ← refuseProgram setting program program fault state
      if setting.variety = .bash ∨ program.contains '/' then return refused
      else
        match ← setting.files.search state.folder program (state.folders .dash) with
        | .ok _ => return refused
        | .error _ => return refused.withStatus 127

def runInPlace (setting : Setting m) (words : List Text) (state : State) : m State := do
  match words with
  | [] => return state.withStatus 0
  | program :: words => do
      match ← launchProgram setting program words state with
      | .ok exit => do
          let state ← setting.emitAll exit.printed state
          let flow :=
            match exit.ending, state.isApart with
            | .signal number, false => .killed number
            | _, _ => .ended
          return { state with
            input := exit.unread
            status := exit.ending.code
            traps := state.traps.filter fun trap => trap.1 != 0
            flow }
      | .error fault => do
          let refused ←
            match setting.variety, program.contains '/', fault with
            | .dash, _, _ => refuseProgram setting ("exec: " ++ program) program fault state
            | .bash, false, .notFound => setting.complain ("exec: " ++ program ++ ": not found") 127 state
            | .bash, _, _ =>
                let path := Path.text (pathFrom state.folder ⟨program⟩)
                let plain := (Text.after? "./" program).map fun rest => state.folder.text ++ '/' :: rest
                refuseProgram setting (plain.getD path) program fault state
          return { refused with flow := .ended }

/-- Runs the body of a function, whose arguments and own values end with it. -/
def callFunction (run : Command → State → m State) (body : Command) (words : List Text)
    (state : State) : m State := do
  let inner ← run body { state with arguments := words, shadowed := some [], loops := 0 }
  let restored := (inner.shadowed.getD []).foldl State.restore inner
  return { restored with
    arguments := state.arguments
    shadowed := state.shadowed
    loops := state.loops
    flow := if inner.flow = .returning then .going else inner.flow }

/-- The first of some folders in which a file of a name can be read, and what it holds. -/
def findSource (setting : Setting m) (folder : Path) (name : Text) :
    List Text → m (Option (Text × Bytes))
  | [] => return none
  | other :: others => do
      let path := (if other.isEmpty then ['.'] else other) ++ '/' :: name
      match ← setting.files.read (pathFrom folder ⟨path⟩) with
      | .ok content => return some (if other = ['.'] then name else path, content)
      | .error _ => findSource setting folder name others

/-- Reads a script in and runs it in place. With `isGuarded`, one that is missing ends nothing. -/
def runSource (setting : Setting m) (run : Command → State → m State) (isGuarded : Bool) (name : Text)
    (words : List Text) (state : State) : m State := do
  match words with
  | [] =>
      match setting.variety with
      | .dash => return state.withStatus 0
      | .bash =>
          let state ← setting.complain (name ++ ": filename argument required") 2 state
          setting.emit 2 (Text.utf8 (name ++ ": usage: " ++ name ++ " filename [arguments]\n")) state
  | path :: arguments => do
      let hasFolder := path.contains '/'
      let found ←
        if hasFolder then
          match ← setting.files.read (pathFrom state.folder ⟨path⟩) with
          | .ok content => pure (some (path, content))
          | .error _ => pure none
        else
          match setting.variety with
          | .dash => findSource setting state.folder path (state.folders .dash)
          | .bash => findSource setting state.folder path (state.folders .bash ++ [['.']])
      match found, setting.variety with
      | some (path, content), variety => do
          let own := match variety with
            | .dash => state.arguments
            | .bash => if arguments.isEmpty then state.arguments else arguments
          let inner ← runText setting run ⟨Text.ofUtf8Lossy content, 1, [], false, true⟩
            { state with status := 0, arguments := own, source := path, depth := state.depth }
          let arguments :=
            if variety = .bash ∧ arguments.isEmpty = false then state.arguments else inner.arguments
          return { inner with
            arguments
            source := state.source
            line := state.line
            flow := if inner.flow = .returning then .going else inner.flow }
      | none, .bash =>
          if ← setting.files.isFolder (pathFrom state.folder ⟨path⟩) then
            setting.complain (name ++ ": " ++ path ++ ": is a directory") 1 state
          else setting.complain (path ++ ": No such file or directory") 1 state
      | none, .dash =>
          let message : Text :=
            if hasFolder then ".: cannot open " ++ path ++ ": No such file"
            else ".: " ++ path ++ ": not found"
          if isGuarded then setting.complain message 2 state else setting.finish message state

/-- What is said of a command of the shell that could not print. -/
def tellRefused (setting : Setting m) (name : Text) (state : State) : m State := do
  match state.outputFault, setting.variety with
  | none, _ => return state
  | some _, .dash => do
      let told ← setting.complain (name ++ ": " ++ name ++ ": I/O error") (state.status ||| 1) state
      return { told with outputFault := none }
  | some fault, .bash => do
      let told ← setting.complain (name ++ ": write error: " ++ fault.reason) 1 state
      return { told with outputFault := none }

/-- A command that is not special ends no script by its own faults. -/
def afterOwn (setting : Setting m) (name : Text) (state : State) : State :=
  if setting.variety = .dash ∧ isSpecial name = false ∧ state.flow = .failed then { state with flow := .going }
  else state

def runKnown (setting : Setting m) (run : Command → State → m State) (isGuarded : Bool) (name : Text)
    (words : List Text) (state : State) : m State := do
  if name = "eval".toList then
    let text := Text.joinWith " " words
    match setting.variety with
    | .dash => do
        let ended ← runText setting run ⟨text, 1, [], false, false⟩ { state with source := name, status := 0 }
        return { ended with source := state.source, line := state.line }
    | .bash => runText setting run ⟨text, state.line, "eval: ", false, false⟩ (state.withStatus 0)
  else if name = ['.'] ∨ (name = "source".toList ∧ setting.variety = .bash) then
    runSource setting run isGuarded name words state
  else if name = "exec".toList then runInPlace setting words state
  else
    match builtin? setting name words, setting.variety with
    | some action, .dash => do
        let ended ← tellRefused setting name (← action { state with source := [] })
        return { afterOwn setting name ended with source := state.source }
    | some action, .bash => do tellRefused setting name (← action state)
    | none, _ => runProgram setting name words state

/-- Runs a command that is no function; a special one ends the script no more when it fails. -/
def runCommand (setting : Setting m) (run : Command → State → m State) :
    List Text → State → m State
  | [], state => return state.withStatus 0
  | word :: words, state => do
      if word = "-v".toList ∨ word = "-V".toList then
        let words := match setting.variety with
          | .dash => words.take 1
          | .bash => words
        runMeaning setting "command" (word == "-V".toList) false words state
      else if word = "-p".toList ∨ word = "--".toList then runCommand setting run words state
      else if word.head? = some '-' then
        match setting.variety with
        | .dash => setting.complain ("command: Illegal option " ++ word.take 2) 2 state
        | .bash =>
            setting.tellUsage "command: usage: command [-pVv] command [arg ...]"
              (← setting.complain ("command: " ++ word ++ ": invalid option") 2 state)
      else
        let ended ← runKnown setting run true word words state
        return if ended.flow = .failed then { ended with flow := .going, source := state.source } else ended

/-- Whether a name stands for a command of the shell before it does for a function. -/
def isFirst (setting : Setting m) (name : Text) : Bool := setting.variety == .dash && isSpecial name

def runWords (setting : Setting m) (run : Command → State → m State) (name : Text)
    (words : List Text) (state : State) : m State :=
  match if isFirst setting name then none else state.functions.get? name with
  | some body => callFunction run body words state
  | none =>
      if name = "command".toList then runCommand setting run words state
      else if name = "builtin".toList ∧ setting.variety = .bash then
        match words with
        | [] => return state.withStatus 0
        | name :: words => runKnown setting run false name words state
      else runKnown setting run false name words state

end UniversalModule.Host.Shell
