import UniversalModule.Host.Shell.Alias
import UniversalModule.Host.Shell.Declaring
import UniversalModule.Host.Shell.Entering
import UniversalModule.Host.Shell.Flagging
import UniversalModule.Host.Shell.Format
import UniversalModule.Host.Shell.Limiting
import UniversalModule.Host.Shell.LineReading
import UniversalModule.Host.Shell.OptionReading
import UniversalModule.Host.Shell.Reader
import UniversalModule.Host.Shell.Redirecting
import UniversalModule.Host.Shell.Signalling
import UniversalModule.Host.Shell.Test

/-!
The commands that a shell runs itself and that run no other command.
-/

namespace UniversalModule.Host.Shell

/-- The other commands that both shells run themselves. -/
def sharedCommands : List Text :=
  Text.splitAt ' ' <| String.toList <|
    "[ alias bg cd command echo false fg getopts hash jobs kill printf pwd read test true type " ++
      "ulimit umask unalias wait"

def ordinaryCommands : Variety → List Text
  | .dash => sharedCommands
  | .bash =>
      "declare".toList :: "let".toList :: "mapfile".toList :: "readarray".toList :: "shopt".toList ::
        "source".toList :: "typeset".toList :: sharedCommands

variable {m : Type → Type} [Monad m] (setting : Setting m)

/-- Complains of a word that should be a number, in the words of a command. -/
def refuseNumber (name word : Text) (state : State) : m State :=
  match setting.variety with
  | .dash => setting.finish (name ++ ": Illegal number: " ++ word) state
  | .bash => setting.complain (name ++ ": " ++ word ++ ": numeric argument required") 2 state

def runExit (words : List Text) (state : State) : m State := do
  match words with
  | [] => return { state with status := state.trapStatus.getD state.status, flow := .ended }
  | word :: _ =>
      match digits? word with
      | some number => return { state with status := number % 256, flow := .ended }
      | none => return { ← refuseNumber setting "exit" word state with flow := .ended }

def runReturn (words : List Text) (state : State) : m State := do
  match words.head?.map digits? with
  | none => return { state with flow := .returning }
  | some (some number) => return { state with status := number % 256, flow := .returning }
  | some none => refuseNumber setting "return" (words.headD []) state

def runLoopExit (name : Text) (flow : Nat → Flow) (words : List Text) (state : State) : m State := do
  match words.head?.map digits? with
  | some none => refuseNumber setting name (words.headD []) state
  | some (some 0) => refuseNumber setting name ['0'] state
  | found =>
      let wanted := (found.bind id).getD 1
      let state := state.withStatus 0
      if 0 < state.loops then return { state with flow := flow (min wanted state.loops) }
      else
        match setting.variety with
        | .dash => return state
        | .bash =>
            setting.complain
              (name ++ ": only meaningful in a \x60for', \x60while', or \x60until' loop") 0 state

def runShift (words : List Text) (state : State) : m State := do
  match words.head?.map digits? with
  | some none => refuseNumber setting "shift" (words.headD []) state
  | found =>
      let count := (found.bind id).getD 1
      if count ≤ state.arguments.length then
        return { state with arguments := state.arguments.drop count, status := 0 }
      else
        match setting.variety with
        | .dash => setting.finish "shift: can't shift that many" state
        | .bash => return state.withStatus 1

def runTest (name : Text) (words : List Text) (state : State) : m State := do
  let isBracket := name = ['[']
  if isBracket ∧ words.getLast? ≠ some [']'] then
    match setting.variety with
    | .dash => setting.complain "[: missing ]" 2 state
    | .bash => setting.complain "[: missing \x60]'" 2 state
  else
    let words := if isBracket then words.dropLast else words
    let site : Test.Site m := ⟨setting.variety, setting.files, state.folder⟩
    match ← Test.holds site words with
    | .ok truth => return state.withStatus (if truth then 0 else 1)
    | .error fault =>
        setting.complain (name ++ ": " ++ fault.message (.shell setting.variety) words) 2 state

def runEcho (words : List Text) (state : State) : m State := do
  let bytes :=
    match setting.variety with
    | .dash => echoEscaped words
    | .bash => echoPlain words
  return (← setting.emit 1 bytes state).withStatus 0

def runPrintf (words : List Text) (state : State) : m State := do
  let (name, words) :=
    match setting.variety, words with
    | .bash, ['-', 'v'] :: name :: words => (some name, words)
    | _, words => (none, words)
  let printed := printFormat setting.variety words
  let state ← printed.complaints.foldlM (fun state complaint =>
    setting.complain ("printf: " ++ complaint) 0 state) state
  let state ←
    match name with
    | none => setting.emit 1 printed.bytes state
    | some name => pure (state.setVariable name (Text.ofUtf8Lossy printed.bytes))
  return state.withStatus printed.status

/-- Works expressions out; succeeds when the last one is not 0. -/
def runNumbers (words : List Text) (state : State) : m State := do
  let (last, state) ← words.foldlM (fun (_, state) word => evaluateNumber setting word state) (some 0, state)
  return if state.isGoing then state.withStatus (if last.getD 0 = 0 then 1 else 0) else state

/-- What a name stands for: the word for its kind, how that is told at length, and a short word. -/
def meaning? (name : Text) (state : State) : m (Option (Text × Text × Text)) := do
  let told (kind long : Text) : m (Option (Text × Text × Text)) := return some (kind, name ++ long, name)
  if (reservedWords setting.variety).contains name then told "keyword" " is a shell keyword"
  else if let some text := (state.aliases.get? name).filter fun _ => expandsAliases setting.variety state then
    match setting.variety with
    | .dash => return some ("alias", name ++ " is an alias for " ++ text, "alias " ++ aliasText .dash name text)
    | .bash =>
        return some ("alias", name ++ " is aliased to \x60" ++ text ++ ['\''], aliasText .bash name text)
  else if (state.functions.get? name).isSome then
    told "function" (match setting.variety with
      | .dash => " is a shell function"
      | .bash => " is a function")
  else if isSpecial name ∧ setting.variety = .dash then told "builtin" " is a special shell builtin"
  else if isSpecial name ∨ (ordinaryCommands setting.variety).contains name then
    told "builtin" " is a shell builtin"
  else if name.contains '/' then
    if ← setting.files.isThere (pathFrom state.folder ⟨name⟩) then told "file" (" is " ++ name)
    else return none
  else
    match ← setting.files.search state.folder name (state.folders setting.variety) with
    | .ok path =>
        let long : Text :=
          match setting.variety, state.looked.contains name with
          | _, false => " is " ++ path
          | .dash, true => " is a tracked alias for " ++ path
          | .bash, true => " is hashed (" ++ path ++ [')']
        return some ("file", name ++ long, path)
    | .error _ => return none

def State.look (state : State) (name : Text) : State :=
  if name.contains '/' then state else { state with looked := name :: state.looked }

/-- Remembers where programs are, forgets it, or tells of which it is remembered. -/
def runLook (words : List Text) (state : State) : m State := do
  let known := state.looked.reverse.eraseDups
  let paths ← known.mapM fun name => do
    let found ← setting.files.search state.folder name (state.folders setting.variety)
    pure (name, found.toOption.getD name)
  match words, setting.variety with
  | ['-', 'r'] :: _, _ => return { state with looked := [], status := 0 }
  | ('-' :: letter :: _) :: _, _ =>
      setting.refuseLetter "hash" letter "hash: usage: hash [-lr] [-p pathname] [-dt] [name ...]" state
  | [], .dash => return (← setting.emitText (paths.flatMap fun entry => entry.2 ++ ['\n']) state).withStatus 0
  | [], .bash =>
      let line (entry : Text × Text) : Text :=
        let hits := Text.ofNat (state.looked.count entry.1)
        List.replicate (4 - hits.length) ' ' ++ hits ++ '\t' :: entry.2 ++ ['\n']
      let text : Text :=
        if paths.isEmpty then "hash: hash table empty\n" else "hits\tcommand\n" ++ paths.flatMap line
      return (← setting.emitText text state).withStatus 0
  | names, _ =>
      names.foldlM (fun state name => do
        match ← meaning? setting name state with
        | some (kind, _, _) => return if kind = "file".toList then state.look name else state
        | none => setting.complain ("hash: " ++ name ++ ": not found") 1 state) (state.withStatus 0)

/-- Tells what names stand for, at length or in a word. -/
def runMeaning (command : Text) (isLong isKind : Bool) (words : List Text) (state : State) : m State :=
  words.foldlM (fun state name => do
    match ← meaning? setting name state with
    | some (kind, long, short) =>
        let state := if setting.variety = .dash ∧ kind = "file".toList then state.look name else state
        setting.emitText ((if isKind then kind else if isLong then long else short) ++ ['\n']) state
    | none =>
        if isLong = false ∨ isKind then return state.withStatus (if setting.variety = .dash then 127 else 1)
        else
          match setting.variety with
          | .dash => return (← setting.emitText (name ++ ": not found\n") state).withStatus 127
          | .bash => setting.complain (command ++ ": " ++ name ++ ": not found") 1 state) (state.withStatus 0)

def runType (words : List Text) (state : State) : m State :=
  match words with
  | ['-', 't'] :: words => runMeaning setting "type" true true words state
  | ['-', 'p'] :: words => runMeaning setting "type" false false words state
  | words => runMeaning setting "type" true false words state

/-- A command that a shell runs itself, but for those that run others. -/
def builtin? (name : Text) (words : List Text) : Option (State → m State) :=
  let ignored : Option (State → m State) := some fun state => return state.withStatus 0
  match String.ofList name, setting.variety with
  | ":", _ => ignored
  | "true", _ => ignored
  | "false", _ => some fun state => return state.withStatus 1
  | "echo", _ => some (runEcho setting words)
  | "printf", _ => some (runPrintf setting words)
  | "test", _ => some (runTest setting name words)
  | "[", _ => some (runTest setting name words)
  | "exit", _ => some (runExit setting words)
  | "return", _ => some (runReturn setting words)
  | "break", _ => some (runLoopExit setting name .leaving words)
  | "continue", _ => some (runLoopExit setting name .repeating words)
  | "shift", _ => some (runShift setting words)
  | "kill", _ => some (runKill setting words)
  | "set", _ => some (runSet setting words)
  | "export", _ => some (runDeclare setting name words)
  | "readonly", _ => some (runDeclare setting name words)
  | "local", _ => some (runDeclare setting name words)
  | "unset", _ => some (runUnset setting words)
  | "cd", _ => some (runEnter setting words)
  | "pwd", _ => some (runTellFolder setting words)
  | "read", _ => some (runRead setting words)
  | "trap", _ => some (runTrap setting words)
  | "type", _ => some (runType setting words)
  | "wait", _ => some (runWait setting words)
  | "getopts", _ => some (runGetOptions setting words)
  | "umask", _ => some (runMask setting words)
  | "ulimit", _ => some (runLimit setting words)
  | "times", _ => some (runTimes setting)
  | "hash", _ => some (runLook setting words)
  | "alias", _ => some (runAlias setting words)
  | "unalias", _ => some (runUnalias setting words)
  | "fg", _ => some (runResume setting name words)
  | "bg", _ => some (runResume setting name words)
  | "jobs", _ => ignored
  | "declare", .bash => some (runDeclare setting name words)
  | "typeset", .bash => some (runDeclare setting name words)
  | "let", .bash => some (runNumbers setting words)
  | "mapfile", .bash => some (runReadAll words)
  | "readarray", .bash => some (runReadAll words)
  | "shopt", .bash => some (runHabits setting words)
  | _, _ => none

end UniversalModule.Host.Shell
